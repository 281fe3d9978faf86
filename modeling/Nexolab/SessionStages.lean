import Nexolab.SessionInvariant

/-!
# Stages of a session

The stages of a session are entered in the order of their sequence and each is
left when the next is entered.  The check constraint on a stage row makes the
times follow that order, whatever times the clients give.
-/

namespace Nexolab

/-- The current stage of a session is its last stage and is not left. -/
structure SessionDatabase.CurrentStage (database : SessionDatabase)
    (session : SessionRecord) (current : SessionStageRecord) : Prop where
  mem : current ∈ database.stages
  named : session.currentStageId = some current.id
  sessionId : current.sessionId = session.id
  unexited : current.exitedAt = none
  last : ∀ stage ∈ database.stages, stage.sessionId = session.id →
    stage.sequenceIndex ≤ current.sequenceIndex

structure SessionDatabase.StagesOrdered (database : SessionDatabase) : Prop where
  stageSession : ∀ stage ∈ database.stages,
    ∃ session ∈ database.sessions, session.id = stage.sessionId
  entered : ∀ stage ∈ database.stages, stage.enteredAt.isSome = true
  current : ∀ session ∈ database.sessions, (session.currentStageId = none ∧
      ∀ stage ∈ database.stages, stage.sessionId ≠ session.id) ∨
    ∃ current, database.CurrentStage session current
  order : ∀ first ∈ database.stages, ∀ second ∈ database.stages,
    first.sessionId = second.sessionId →
    first.sequenceIndex < second.sequenceIndex →
    ∃ exited ∈ first.exitedAt, ∃ entered ∈ second.enteredAt, exited ≤ entered

section Steps

variable {before after : SessionDatabase} {record next : SessionRecord}
  {time : Instant}

theorem SessionDatabase.StagesOrdered.empty :
    SessionDatabase.empty.StagesOrdered := by
  constructor
  all_goals simp [SessionDatabase.empty]

theorem SessionDatabase.StagesOrdered.unmoved (hbefore : before.StagesOrdered)
    (hchange : SessionChange before after record next time)
    (hcur : next.currentStageId = record.currentStageId)
    (hstages : after.stages = before.stages) : after.StagesOrdered := by
  constructor
  case stageSession =>
    rw [hstages]
    intro stage hstage
    obtain ⟨session, hsess, hid⟩ := hbefore.stageSession stage hstage
    obtain ⟨other, hother, hsame⟩ := hchange.exists_session hsess
    exact ⟨other, hother, hsame.trans hid⟩
  case entered =>
    rw [hstages]
    exact hbefore.entered
  case current =>
    intro session hsess
    rcases hchange.cases hsess with rfl | ⟨hmem, _⟩
    · rcases hbefore.current record hchange.mem with ⟨hnone, habsent⟩ | ⟨stage, hstage⟩
      · left
        rw [hcur, hstages, hchange.id]
        exact ⟨hnone, habsent⟩
      · right
        refine ⟨stage, ?_, hcur.trans hstage.named,
          hstage.sessionId.trans hchange.id.symm, hstage.unexited, ?_⟩
        · rw [hstages]
          exact hstage.mem
        · rw [hstages, hchange.id]
          exact hstage.last
    · rcases hbefore.current session hmem with hnone | ⟨stage, hstage⟩
      · left
        rw [hstages]
        exact hnone
      · right
        refine ⟨stage, ?_, hstage.named, hstage.sessionId, hstage.unexited, ?_⟩
        · rw [hstages]
          exact hstage.mem
        · rw [hstages]
          exact hstage.last
  case order =>
    rw [hstages]
    exact hbefore.order

theorem SessionDatabase.StagesOrdered.created {payload : SessionCreate}
    (hbefore : before.StagesOrdered) (hctrs : after.Constraints)
    (hsessions : after.sessions = before.sessions ++ [payload.record])
    (hstages : after.stages = before.stages) : after.StagesOrdered := by
  have hfresh : ∀ session ∈ before.sessions, session.id ≠ payload.record.id := by
    intro session hsess
    have hkeys := hctrs.sessionKeys
    rw [hsessions, List.pairwise_append] at hkeys
    exact hkeys.2.2 session hsess payload.record (by simp)
  constructor
  case stageSession =>
    rw [hstages, hsessions]
    intro stage hstage
    obtain ⟨session, hsess, hid⟩ := hbefore.stageSession stage hstage
    exact ⟨session, List.mem_append_left _ hsess, hid⟩
  case entered =>
    rw [hstages]
    exact hbefore.entered
  case current =>
    rw [hsessions]
    intro session hsess
    rcases List.mem_append.mp hsess with hold | hnew
    · rcases hbefore.current session hold with hnone | ⟨stage, hstage⟩
      · left
        rw [hstages]
        exact hnone
      · right
        refine ⟨stage, ?_, hstage.named, hstage.sessionId, hstage.unexited, ?_⟩
        · rw [hstages]
          exact hstage.mem
        · rw [hstages]
          exact hstage.last
    · left
      rw [List.mem_singleton.mp hnew, hstages]
      refine ⟨rfl, ?_⟩
      intro stage hstage hid
      obtain ⟨other, hother, hotherId⟩ := hbefore.stageSession stage hstage
      exact hfresh other hother (hotherId.trans hid)
  case order =>
    rw [hstages]
    exact hbefore.order

/-! ## The step to the next stage -/

theorem SessionDatabase.StagesOrdered.currentStage_eq
    (hbefore : before.StagesOrdered) (hctrs : before.Constraints)
    (hrec : record ∈ before.sessions) :
    (before.currentStage record = none ∧
      ∀ stage ∈ before.stages, stage.sessionId ≠ record.id) ∨
    ∃ current, before.currentStage record = some current ∧ before.CurrentStage record current := by
  unfold SessionDatabase.currentStage
  rcases hbefore.current record hrec with ⟨hnone, habsent⟩ | ⟨current, hcur⟩
  · left
    rw [hnone]
    exact ⟨rfl, habsent⟩
  · right
    rw [hcur.named]
    refine ⟨current, ?_, hcur⟩
    cases hfound : before.stages.find? fun stage => stage.id = current.id with
    | none =>
      rw [List.find?_eq_none] at hfound
      exact absurd (decide_eq_true rfl) (hfound current hcur.mem)
    | some found =>
      have hsome := List.find?_some hfound
      exact hfound.trans (congrArg some (eq_of_key hctrs.stageKeys
        (List.mem_of_find?_eq_some hfound) hcur.mem (of_decide_eq_true hsome)))

/-- The stage rows after a step: the current stage is left at the time of the
command, and a new stage is entered then. -/
structure StageMoved (before after : SessionDatabase) (record : SessionRecord)
    (current : Option SessionStageRecord) (entered : SessionStageRecord)
    (time : Instant) : Prop where
  sessionId : entered.sessionId = record.id
  sequenceIndex : entered.sequenceIndex = (current.map (·.sequenceIndex + 1)).getD 0
  enteredAt : entered.enteredAt = some time
  exitedAt : entered.exitedAt = none
  stages : after.stages = (before.stages.map fun stage =>
    if ∃ left ∈ current, stage.id = left.id then
      { stage with exitedAt := some time }
    else stage) ++ [entered]

variable {current : Option SessionStageRecord}

theorem SessionDatabase.StagesOrdered.moved {request : StageAdvanceRequest}
    {planned : SessionDatabase} {target : SessionStageRecord} (hbefore : before.StagesOrdered)
    (hctrs : after.Constraints)
    (htarget : before.targetStage record.id request = .ok (planned, target))
    (hindex : request.sequenceIndex = (current.map (·.sequenceIndex + 1)).getD 0)
    (hunentered : target.enteredAt = none)
    (hmoved : after.stages = (planned.moveStage current target time).stages) :
    ∃ entered, entered.id = target.id ∧ StageMoved before after record current entered time := by
  unfold SessionDatabase.targetStage at htarget
  split at htarget
  next hnone =>
    cases htarget
    have hkeys := hctrs.stageKeys
    rw [hmoved] at hkeys
    unfold SessionDatabase.moveStage at hkeys hmoved
    have hfresh : ∀ stage ∈ before.stages, stage.id ≠ request.stageId.text := by
      rw [List.map_append, List.pairwise_append] at hkeys
      intro stage hstage
      have hdiffer := hkeys.2.2 _ (List.mem_map_of_mem hstage) _
        (List.mem_map_of_mem (List.mem_singleton_self _))
      rw [if_pos rfl] at hdiffer
      split_ifs at hdiffer with hid
      all_goals exact hdiffer
    refine ⟨⟨⟨request.stageId.text, record.id, some time, none⟩,
      request.sequenceIndex, request.stageType, request.name⟩, rfl, rfl, hindex,
      rfl, rfl, ?_⟩
    rw [hmoved]
    change List.map _ (before.stages ++ [_]) = _
    rw [List.map_append]
    refine congrArg₂ (· ++ ·) (List.map_congr_left ?_) ?_
    · intro stage hstage
      rw [if_neg (hfresh stage hstage)]
    · simp
  next found hfound =>
    split_ifs at htarget
    cases htarget
    have hisSome := hbefore.entered target (List.mem_of_find?_eq_some hfound)
    rw [hunentered] at hisSome
    cases hisSome

variable {entered : SessionStageRecord}

theorem StageMoved.cases (hmoved : StageMoved before after record current entered time)
    {stage : SessionStageRecord} (hstage : stage ∈ after.stages) :
    stage = entered ∨ ∃ source ∈ before.stages, stage.id = source.id ∧
        stage.sessionId = source.sessionId ∧
        stage.sequenceIndex = source.sequenceIndex ∧
        stage.enteredAt = source.enteredAt ∧
        ((∃ left ∈ current, source.id = left.id) ∧ stage.exitedAt = some time ∨
          (∀ left ∈ current, source.id ≠ left.id) ∧ stage = source) := by
  rw [hmoved.stages] at hstage
  rcases List.mem_append.mp hstage with hold | hnew
  · right
    obtain ⟨source, hsrc, rfl⟩ := List.mem_map.mp hold
    refine ⟨source, hsrc, ?_⟩
    split_ifs with hleft
    · exact ⟨rfl, rfl, rfl, rfl, .inl ⟨hleft, rfl⟩⟩
    · exact ⟨rfl, rfl, rfl, rfl, .inr ⟨fun left hcur hid =>
        hleft ⟨left, hcur, hid⟩, rfl⟩⟩
  · exact .inl (List.mem_singleton.mp hnew)

theorem StageMoved.entered_mem (hmoved : StageMoved before after record current entered time) :
    entered ∈ after.stages := by
  rw [hmoved.stages]
  simp

theorem StageMoved.index_lt (hmoved : StageMoved before after record current entered time)
    (hcur : current = none ∧ (∀ stage ∈ before.stages, stage.sessionId ≠ record.id) ∨
      ∃ stage, current = some stage ∧ before.CurrentStage record stage)
    {source : SessionStageRecord} (hsrc : source ∈ before.stages)
    (hid : source.sessionId = record.id) :
    source.sequenceIndex < entered.sequenceIndex := by
  rcases hcur with ⟨_, habsent⟩ | ⟨stage, rfl, hstage⟩
  · exact absurd hid (habsent source hsrc)
  · rw [hmoved.sequenceIndex]
    exact Nat.lt_succ_of_le (hstage.last source hsrc hid)

theorem SessionDatabase.StagesOrdered.staged
    (hbefore : before.StagesOrdered) (hkeys : before.Constraints) (hctrs : after.Constraints)
    (hchange : SessionChange before after record next time)
    (hnamed : next.currentStageId = some entered.id)
    (hcur : current = none ∧ (∀ stage ∈ before.stages, stage.sessionId ≠ record.id) ∨
      ∃ stage, current = some stage ∧ before.CurrentStage record stage)
    (hmoved : StageMoved before after record current entered time) :
    after.StagesOrdered := by
  have hcurrentSession : ∀ left ∈ current, ∀ source ∈ before.stages,
      source.id = left.id → source.sessionId = record.id := by
    intro left hleft source hsrc hid
    rcases hcur with ⟨hnone, _⟩ | ⟨stage, hsome, hstage⟩
    · rw [hnone] at hleft
      cases hleft
    · rw [hsome, Option.mem_some_iff] at hleft
      subst hleft
      rw [eq_of_key hkeys.stageKeys hsrc hstage.mem hid]
      exact hstage.sessionId
  constructor
  case stageSession =>
    intro stage hstage
    rcases hmoved.cases hstage with rfl | ⟨source, hsrc, _, hid, _⟩
    · exact ⟨next, hchange.next_mem, hchange.id.trans hmoved.sessionId.symm⟩
    · obtain ⟨session, hsess, hsessionId⟩ :=
        hbefore.stageSession source hsrc
      obtain ⟨other, hother, hsame⟩ := hchange.exists_session hsess
      exact ⟨other, hother, hsame.trans (hsessionId.trans hid.symm)⟩
  case entered =>
    intro stage hstage
    rcases hmoved.cases hstage with rfl | ⟨source, hsrc, _, _, _, hentered, _⟩
    · rw [hmoved.enteredAt]
      rfl
    · rw [hentered]
      exact hbefore.entered source hsrc
  case current =>
    intro session hsess
    rcases hchange.cases hsess with rfl | ⟨hmem, hne⟩
    · right
      refine ⟨entered, hmoved.entered_mem, hnamed,
        hmoved.sessionId.trans hchange.id.symm, hmoved.exitedAt, ?_⟩
      intro stage hstage hid
      rcases hmoved.cases hstage with rfl | ⟨source, hsrc, _, hsame, hindex, _⟩
      · exact le_rfl
      · rw [hindex]
        exact (hmoved.index_lt hcur hsrc (hsame.symm.trans (hid.trans hchange.id))).le
    · -- The rows of another session are as they were.
      have hforeign : ∀ stage ∈ after.stages, stage.sessionId = session.id →
          stage ∈ before.stages := by
        intro stage hstage hid
        rcases hmoved.cases hstage with rfl | ⟨source, hsrc, _, hsame, _, _,
          ⟨⟨left, hleft, hleftId⟩, _⟩ | ⟨_, rfl⟩⟩
        · exact absurd (hid.symm.trans hmoved.sessionId) hne
        · exact absurd (hid.symm.trans (hsame.trans
            (hcurrentSession left hleft source hsrc hleftId))) hne
        · exact hsrc
      rcases hbefore.current session hmem with ⟨hnone, habsent⟩ | ⟨stage, hstage⟩
      · exact .inl ⟨hnone, fun stage hstage hid =>
          habsent stage (hforeign stage hstage hid) hid⟩
      · right
        refine ⟨stage, ?_, hstage.named, hstage.sessionId, hstage.unexited,
          fun other hother hid => hstage.last other (hforeign other hother hid) hid⟩
        rw [hmoved.stages]
        refine List.mem_append_left _ (List.mem_map.mpr ⟨stage, hstage.mem, ?_⟩)
        rw [if_neg]
        rintro ⟨left, hleft, hid⟩
        exact hne (hstage.sessionId.symm.trans (hcurrentSession left hleft stage hstage.mem hid))
  case order =>
    intro first hfirst second hsecond hsess hindex
    rcases hmoved.cases hfirst with rfl | ⟨source, hsrc, _, hsourceSession,
      hsourceIndex, hsourceEntered, hsourceExit⟩
    · -- No row of the session comes after the new one.
      rcases hmoved.cases hsecond with rfl | ⟨other, hother, _, hotherSession, hotherIndex, _⟩
      · exact absurd hindex (lt_irrefl _)
      · have hlt := hmoved.index_lt hcur hother
          (hotherSession.symm.trans (hsess.symm.trans hmoved.sessionId))
        omega
    · rcases hmoved.cases hsecond with rfl | ⟨other, hother, _, hotherSession,
        hotherIndex, hotherEntered, _⟩
      · -- The new row is entered when the current one is left.
        have hown : source.sessionId = record.id :=
          hsourceSession.symm.trans (hsess.trans hmoved.sessionId)
        rcases hsourceExit with ⟨_, hexited⟩ | ⟨hnot, rfl⟩
        · exact ⟨time, hexited, time, hmoved.enteredAt, le_rfl⟩
        · rcases hcur with ⟨_, habsent⟩ | ⟨stage, rfl, hstage⟩
          · exact absurd hown (habsent first hsrc)
          · have hbeforeStage : first.sequenceIndex < stage.sequenceIndex := by
              refine lt_of_le_of_ne (hstage.last first hsrc hown) ?_
              intro hequal
              refine hnot stage rfl (congrArg (·.id) (eq_of_pairwise
                (fun left right hdiffer hsess hequal =>
                  hdiffer hsess.symm hequal.symm) hkeys.stageSequence hsrc
                hstage.mem ?_))
              exact fun hdiffer => hdiffer (hown.trans hstage.sessionId.symm) hequal
            obtain ⟨exited, hexited, entered, hentered, hle⟩ :=
              hbefore.order first hsrc stage hstage.mem
                (hown.trans hstage.sessionId.symm) hbeforeStage
            refine ⟨exited, hexited, time, hmoved.enteredAt, hle.trans ?_⟩
            -- The check on the row of the stage which is left.
            have hleft : { stage with exitedAt := some time } ∈ after.stages := by
              rw [hmoved.stages]
              refine List.mem_append_left _ (List.mem_map.mpr ⟨stage, hstage.mem, ?_⟩)
              rw [if_pos ⟨stage, rfl, rfl⟩]
            obtain ⟨start, hstart, hstartLe⟩ :=
              hctrs.exitOrder _ hleft time rfl
            have hsame : start = entered :=
              Option.some.inj (hstart.symm.trans hentered)
            rw [← hsame]
            exact hstartLe
      · obtain ⟨exited, hexited, entered, hentered, hle⟩ :=
          hbefore.order source hsrc other hother
            (hsourceSession.symm.trans (hsess.trans hotherSession))
            (by rw [← hsourceIndex, ← hotherIndex]; exact hindex)
        rcases hsourceExit with ⟨⟨left, hleft, hleftId⟩, _⟩ | ⟨_, rfl⟩
        · -- The current stage is the last one, so nothing came after it.
          rcases hcur with ⟨hnone, _⟩ | ⟨stage, hsome, hstage⟩
          · rw [hnone] at hleft
            cases hleft
          · rw [hsome, Option.mem_some_iff] at hleft
            subst hleft
            have hsame := eq_of_key hkeys.stageKeys hsrc hstage.mem hleftId
            subst hsame
            have hlast := hstage.last other hother (hotherSession.symm.trans (hsess.symm.trans
                (hsourceSession.trans hstage.sessionId)))
            omega
        · refine ⟨exited, hexited, entered, ?_, hle⟩
          rw [hotherEntered]
          exact hentered

theorem SessionDatabase.StagesOrdered.effect {command : SessionCommand}
    (hbefore : before.StagesOrdered) (hkeys : before.Constraints) (hctrs : after.Constraints)
    (heff : SessionEffect before after command) : after.StagesOrdered := by
  cases heff with
  | created payload hsessions _ _ _ hstages =>
    exact hbefore.created hctrs hsessions hstages
  | recorded record next hchange hcourse _ _ _ hstages =>
    exact hbefore.unmoved hchange hcourse.currentStageId hstages
  | configured record next hchange hcourse _ _ _ _ _ hstages =>
    exact hbefore.unmoved hchange hcourse.currentStageId hstages
  | frozen record next snapshot hchange _ _ _ _ _ hcur _ _ _ _ _ hstages =>
    exact hbefore.unmoved hchange hcur hstages
  | closed record next hchange _ _ _ _ hcur _ _ _ _ hstages =>
    exact hbefore.unmoved hchange hcur hstages
  | staged record next target hchange _ planned hfound hunentered hrow hmoved =>
    obtain ⟨request, _, htarget, hindex⟩ := hfound
    have hcur := hbefore.currentStage_eq hkeys hchange.mem
    obtain ⟨entered, hid, hrows⟩ :=
      hbefore.moved hctrs htarget hindex hunentered hmoved
    refine hbefore.staged hkeys hctrs hchange ?_ hcur hrows
    rw [hrow, hid]

end Steps

theorem stagesOrdered_of_reaches {guard : SessionDatabase → SessionCommand → Prop}
    {database : SessionDatabase} (hreach : Reaches SessionDatabase.step guard .empty database) :
    database.StagesOrdered := by
  have hboth : database.Consistent ∧ database.StagesOrdered := by
    refine hreach.invariant (P := fun state =>
      state.Consistent ∧ state.StagesOrdered) ?_ ⟨.empty, .empty⟩
    rintro before command after ⟨hcons, hord⟩ _ hstep
    refine ⟨hcons.step hstep, ?_⟩
    rcases SessionDatabase.step_outcome hcons.constraints hstep with rfl |
      ⟨hctrs, heff⟩
    · exact hord
    · exact hord.effect hcons.constraints hctrs heff
  exact hboth.2

end Nexolab
