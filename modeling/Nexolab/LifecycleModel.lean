import Nexolab.TransitionSystem
import Nexolab.AlertProcessor

/-!
# The lifecycle of alerts, abstractly

An evaluation series is linked to at most one alert.  Observations trigger an
alert of an unlinked series and resolve the linked alert; an operator
acknowledges an active alert and closes a resolved one, which unlinks it.  Every
change of an alert appends one row to its log.

`LifecycleView` is this model over arbitrary series and alert identifiers.  The
alert tables are related to it in `AlertLifecycle`.
-/

namespace Nexolab

/-- The edges an alert may take after it was triggered. -/
inductive LifecycleEdge : AlertState → AlertState → Prop
  | acknowledge : LifecycleEdge .active .acknowledged
  | resolveActive : LifecycleEdge .active .resolved
  | resolveAcknowledged : LifecycleEdge .acknowledged .resolved
  | close : LifecycleEdge .resolved .closed

def AlertState.entryEvent : AlertState → AlertEventType
  | .active => .triggered
  | .acknowledged => .acknowledged
  | .resolved => .resolved
  | .closed => .closed

structure LifecycleRow (ι : Type) where
  alertId : ι
  eventType : AlertEventType
  previousState : Option AlertState
  nextState : AlertState

variable {κ ι : Type}

/-- A log which starts with the trigger and continues along edges up to the
given state. -/
inductive LifecyclePath : List (LifecycleRow ι) → AlertState → Prop
  | triggered {row : LifecycleRow ι} :
      row.eventType = .triggered → row.previousState = none →
      row.nextState = .active → LifecyclePath [row] .active
  | next {log : List (LifecycleRow ι)} {state : AlertState}
      {row : LifecycleRow ι} :
      LifecyclePath log state → LifecycleEdge state row.nextState →
      row.previousState = some state →
      row.eventType = row.nextState.entryEvent →
      LifecyclePath (log ++ [row]) row.nextState

def resolutions (log : List (LifecycleRow ι)) : ℕ :=
  log.countP fun row => row.eventType = .resolved

theorem LifecyclePath.resolutions_eq {log : List (LifecycleRow ι)}
    {state : AlertState} (hpath : LifecyclePath log state) :
    resolutions log = if state = .resolved ∨ state = .closed then 1 else 0 := by
  induction hpath with
  | triggered htype _ _ => simp [resolutions, htype]
  | @next log state row _ hedge _ htype ih =>
    have happ : resolutions (log ++ [row]) =
        resolutions log + if row.eventType = .resolved then 1 else 0 := by
      simp [resolutions, List.countP_append, List.countP_cons]
    rw [happ, ih, htype]
    generalize row.nextState = next at hedge ⊢
    cases hedge <;> simp [AlertState.entryEvent]

theorem LifecyclePath.resolutions_le_one {log : List (LifecycleRow ι)}
    {state : AlertState} (hpath : LifecyclePath log state) :
    resolutions log ≤ 1 := by
  rw [hpath.resolutions_eq]
  split_ifs <;> omega

structure LifecycleAlert (κ : Type) where
  series : κ
  state : AlertState
  resolvedAt : Option Instant
  lockVersion : ℕ

@[ext] structure LifecycleView (κ ι : Type) where
  link : κ → Option ι
  cooldownUntil : κ → Option Instant
  alerts : ι → Option (LifecycleAlert κ)
  log : List (LifecycleRow ι)

variable [DecidableEq κ] [DecidableEq ι]

def rowsOf (log : List (LifecycleRow ι)) (id : ι) : List (LifecycleRow ι) :=
  log.filter fun row => row.alertId = id

omit [DecidableEq κ] in
theorem rowsOf_append_self (log : List (LifecycleRow ι))
    {row : LifecycleRow ι} {id : ι} (hrow : row.alertId = id) :
    rowsOf (log ++ [row]) id = rowsOf log id ++ [row] := by
  simp [rowsOf, hrow]

omit [DecidableEq κ] in
theorem rowsOf_append_other (log : List (LifecycleRow ι))
    {row : LifecycleRow ι} {id : ι} (hrow : row.alertId ≠ id) :
    rowsOf (log ++ [row]) id = rowsOf log id := by
  simp [rowsOf, hrow]

namespace LifecycleView

def record (view : LifecycleView κ ι) (id : ι) (alert : LifecycleAlert κ)
    (previousState : Option AlertState) : LifecycleView κ ι :=
  { view with
    alerts := Function.update view.alerts id (some alert)
    log := view.log ++ [⟨id, alert.state.entryEvent, previousState, alert.state⟩] }

/-- What an accepted observation of a series does.  A resolution starts the
cooldown of the series and keeps the link. -/
inductive ObservationStep : LifecycleView κ ι → LifecycleView κ ι → Prop
  | quiet (view : LifecycleView κ ι) : ObservationStep view view
  | trigger (view : LifecycleView κ ι) (series : κ) (id : ι) :
      view.link series = none → view.alerts id = none →
      rowsOf view.log id = [] →
      ObservationStep view
        { view.record id ⟨series, .active, none, 1⟩ none with
          link := Function.update view.link series (some id) }
  | resolve (view : LifecycleView κ ι) (series : κ) (id : ι)
      (alert : LifecycleAlert κ) (resolvedAt cooldownUntil : Instant) :
      view.link series = some id → view.alerts id = some alert →
      alert.state ≠ .resolved →
      ObservationStep view
        { view.record id { alert with
              state := .resolved
              resolvedAt := some resolvedAt
              lockVersion := alert.lockVersion + 1 } (some alert.state) with
          cooldownUntil :=
            Function.update view.cooldownUntil series (some cooldownUntil) }

inductive CommandStep : LifecycleView κ ι → LifecycleView κ ι → Prop
  | replay (view : LifecycleView κ ι) : CommandStep view view
  | acknowledge (view : LifecycleView κ ι) (id : ι) (alert : LifecycleAlert κ) :
      view.alerts id = some alert → alert.state = .active →
      CommandStep view (view.record id { alert with
          state := .acknowledged
          lockVersion := alert.lockVersion + 1 } (some alert.state))
  | close (view : LifecycleView κ ι) (id : ι) (alert : LifecycleAlert κ) :
      view.alerts id = some alert → alert.state = .resolved →
      CommandStep view
        { view.record id { alert with
              state := .closed
              lockVersion := alert.lockVersion + 1 } (some alert.state) with
          link := fun series =>
            if view.link series = some id then none else view.link series }

/-- The open alerts are exactly the linked ones, and the log of each alert is a
path to its state. -/
structure Sound (view : LifecycleView κ ι) : Prop where
  linked : ∀ {series id}, view.link series = some id →
    ∃ alert, view.alerts id = some alert ∧ alert.series = series ∧ alert.state.isOpen = true
  opened : ∀ {id alert}, view.alerts id = some alert →
    alert.state.isOpen = true → view.link alert.series = some id
  logged : ∀ {id alert}, view.alerts id = some alert →
    LifecyclePath (rowsOf view.log id) alert.state

omit [DecidableEq κ] in
theorem Sound.logged_record {view : LifecycleView κ ι} (hsound : view.Sound)
    {id : ι} {alert : LifecycleAlert κ} (halert : view.alerts id = some alert)
    (next : LifecycleAlert κ) (hedge : LifecycleEdge alert.state next.state)
    {other : ι} {found : LifecycleAlert κ}
    (hfound : (view.record id next (some alert.state)).alerts other = some found) :
    LifecyclePath (rowsOf (view.record id next (some alert.state)).log other) found.state := by
  by_cases hother : other = id
  · subst hother
    simp only [record, Function.update_self] at hfound
    cases hfound
    simp only [record]
    rw [rowsOf_append_self _ rfl]
    exact .next (hsound.logged halert) hedge rfl rfl
  · simp only [record, Function.update_of_ne hother] at hfound ⊢
    rw [rowsOf_append_other _ (Ne.symm hother)]
    exact hsound.logged hfound

variable {view next : LifecycleView κ ι}

theorem Sound.observation
    (hsound : view.Sound) (hstep : ObservationStep view next) : next.Sound := by
  cases hstep with
  | quiet => exact hsound
  | trigger series id hlink hfresh hrows =>
    refine ⟨?_, ?_, ?_⟩
    · intro other otherId hother
      rcases update_eq_some hother with ⟨rfl, rfl⟩ | ⟨_, hother⟩
      · exact ⟨_, Function.update_self .., rfl, rfl⟩
      · obtain ⟨alert, halert, hfacts⟩ := hsound.linked hother
        have hid : otherId ≠ id := by
          rintro rfl
          rw [hfresh] at halert
          cases halert
        refine ⟨alert, ?_, hfacts⟩
        simpa [record, Function.update_of_ne hid] using halert
    · intro otherId alert halert hopen
      rcases update_eq_some halert with ⟨rfl, rfl⟩ | ⟨_, halert⟩
      · exact Function.update_self ..
      · have hlinked := hsound.opened halert hopen
        have hseries : alert.series ≠ series := by
          intro heq
          rw [heq, hlink] at hlinked
          cases hlinked
        simpa [Function.update_of_ne hseries] using hlinked
    · intro otherId alert halert
      by_cases hid : otherId = id
      · subst hid
        simp only [record, Function.update_self] at halert
        cases halert
        simp only [record]
        rw [rowsOf_append_self _ rfl, hrows]
        exact .triggered rfl rfl rfl
      · simp only [record, Function.update_of_ne hid] at halert ⊢
        rw [rowsOf_append_other _ (Ne.symm hid)]
        exact hsound.logged halert
  | resolve series id alert resolvedAt cooldownUntil hlink halert hstate =>
    obtain ⟨linked, hlinked, hseries, hopen⟩ := hsound.linked hlink
    have hsame : linked = alert :=
      Option.some_injective _ (hlinked.symm.trans halert)
    subst hsame
    have hedge : LifecycleEdge linked.state .resolved := by
      cases hcase : linked.state with
      | active => exact .resolveActive
      | acknowledged => exact .resolveAcknowledged
      | resolved => exact absurd hcase hstate
      | closed =>
        rw [hcase] at hopen
        cases hopen
    refine ⟨?_, ?_, ?_⟩
    · intro other otherId hother
      obtain ⟨found, hfound, hfacts⟩ := hsound.linked hother
      by_cases hid : otherId = id
      · subst hid
        have hfoundEq : found = linked :=
          Option.some_injective _ (hfound.symm.trans hlinked)
        subst hfoundEq
        exact ⟨_, Function.update_self .., hfacts.1, rfl⟩
      · refine ⟨found, ?_, hfacts⟩
        simpa [record, Function.update_of_ne hid] using hfound
    · intro otherId found hfound hfoundOpen
      rcases update_eq_some hfound with ⟨rfl, rfl⟩ | ⟨_, hfound⟩
      · have hbefore : view.link linked.series = some otherId :=
          hsound.opened hlinked hopen
        exact hbefore
      · exact hsound.opened hfound hfoundOpen
    · intro otherId found hfound
      exact hsound.logged_record halert
        ⟨linked.series, .resolved, some resolvedAt, linked.lockVersion + 1⟩
        hedge hfound

omit [DecidableEq κ] in
theorem Sound.command (hsound : view.Sound) (hstep : CommandStep view next) : next.Sound := by
  cases hstep with
  | replay => exact hsound
  | acknowledge id alert halert hstate =>
    refine ⟨?_, ?_, ?_⟩
    · intro other otherId hother
      obtain ⟨found, hfound, hfacts⟩ := hsound.linked hother
      by_cases hid : otherId = id
      · subst hid
        have hfoundEq : found = alert :=
          Option.some_injective _ (hfound.symm.trans halert)
        subst hfoundEq
        exact ⟨_, Function.update_self .., hfacts.1, rfl⟩
      · refine ⟨found, ?_, hfacts⟩
        simpa [record, Function.update_of_ne hid] using hfound
    · intro otherId found hfound hfoundOpen
      rcases update_eq_some hfound with ⟨rfl, rfl⟩ | ⟨_, hfound⟩
      · have hbefore : view.link alert.series = some otherId :=
          hsound.opened halert (by rw [hstate]; rfl)
        exact hbefore
      · exact hsound.opened hfound hfoundOpen
    · intro otherId found hfound
      refine hsound.logged_record halert _ ?_ hfound
      rw [hstate]
      exact .acknowledge
  | close id alert halert hstate =>
    refine ⟨?_, ?_, ?_⟩
    · intro other otherId hother
      dsimp only at hother
      split_ifs at hother with hclosed
      obtain ⟨found, hfound, hfacts⟩ := hsound.linked hother
      have hid : otherId ≠ id := by
        rintro rfl
        exact hclosed hother
      refine ⟨found, ?_, hfacts⟩
      simpa [record, Function.update_of_ne hid] using hfound
    · intro otherId found hfound hfoundOpen
      rcases update_eq_some hfound with ⟨rfl, rfl⟩ | ⟨hid, hfound⟩
      · cases hfoundOpen
      · have hlinked := hsound.opened hfound hfoundOpen
        dsimp only
        rw [hlinked, if_neg]
        rintro ⟨rfl⟩
        exact hid rfl
    · intro otherId found hfound
      refine hsound.logged_record halert
        ⟨alert.series, .closed, alert.resolvedAt, alert.lockVersion + 1⟩
        ?_ hfound
      rw [hstate]
      exact .close

theorem Sound.finished_frozen (hsound : view.Sound) (hstep : ObservationStep view next)
    {id : ι} {alert : LifecycleAlert κ} (halert : view.alerts id = some alert)
    (hfinished : alert.state = .resolved ∨ alert.state = .closed) :
    next.alerts id = some alert ∧ rowsOf next.log id = rowsOf view.log id ∧
      (alert.state = .resolved →
        next.cooldownUntil alert.series = view.cooldownUntil alert.series) := by
  cases hstep with
  | quiet => exact ⟨halert, rfl, fun _ => rfl⟩
  | trigger series newId hunlinked hfresh _ =>
    have hid : newId ≠ id := by
      rintro rfl
      rw [hfresh] at halert
      cases halert
    refine ⟨?_, rowsOf_append_other _ hid, fun _ => rfl⟩
    simpa [record, Function.update_of_ne (Ne.symm hid)] using halert
  | resolve series otherId other resolvedAt cooldownUntil hotherLink hother hstate =>
      have hid : otherId ≠ id := by
        rintro rfl
        have hsame : other = alert :=
          Option.some_injective _ (hother.symm.trans halert)
        subst hsame
        rcases hfinished with hresd | hclosed
        · exact hstate hresd
        · obtain ⟨linked, hlinked, _, hopen⟩ := hsound.linked hotherLink
          have hlinkedEq : linked = other :=
            Option.some_injective _ (hlinked.symm.trans halert)
          rw [hlinkedEq, hclosed] at hopen
          cases hopen
      refine ⟨?_, rowsOf_append_other _ hid, fun hresd => ?_⟩
      · simpa [record, Function.update_of_ne (Ne.symm hid)] using halert
      · have hlink : view.link alert.series = some id :=
          hsound.opened halert (by rw [hresd]; rfl)
        have hseries : alert.series ≠ series := by
          intro heq
          rw [heq, hotherLink] at hlink
          exact hid (Option.some_injective _ hlink)
        simp [Function.update_of_ne hseries]

end LifecycleView

end Nexolab
