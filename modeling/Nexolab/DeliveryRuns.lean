import Nexolab.DeliveryClaims

/-!
# Runs of the Telegram senders

Any number of drain workers and controlled sends work on one table, crash at any
point and take back each other's stale deliveries.
-/

namespace Nexolab

namespace TelegramGateway

open DeliveryOutbox

variable {settings : GatewaySettings} {gateway next : TelegramGateway}

def SavesRetry (settings : GatewaySettings) (kind : SenderKind)
    (delivery : TelegramDelivery) (response : TelegramResponse) : Prop :=
  kind = .drain ∧ ∃ error, response.outcome = .error error ∧ Retries settings delivery error

/-- A sound step claims no delivery a sender still works on, and a retry after
an attempt Telegram may have accepted keeps a risk which is in the row. -/
def SoundStep (settings : GatewaySettings) (gateway : TelegramGateway) :
    GatewayAction → Prop
  | .drainClaim _ destinationChatId threadId now =>
    ∀ row ∈ gateway.outbox.firstReady destinationChatId threadId now, ¬ gateway.Held row.id
  | .settle sender _ => ∀ kind claim response,
      gateway.phases sender = .answered kind claim response →
        SavesRetry settings kind claim response → response.mayHaveAccepted = true →
            ∀ row ∈ gateway.outbox.get? claim.id, row.state = .sending → row.duplicateRisk = true
  | _ => True

theorem saveOutcome_eq_ok {outbox after : DeliveryOutbox} {kind : SenderKind}
    {delivery : TelegramDelivery} {response : TelegramResponse} {now : ℚ}
    (hsave : saveOutcome settings outbox kind delivery response now = .ok after) :
    (∃ row ∈ outbox, row.id = delivery.id ∧ row.state = .sending) ∧
      ∃ change, after = outbox.update delivery.id change ∧ KeepsRisk change ∧
        ∀ row, (change row).state ≠ .pending ∧
          ((change row).state = .retryWait →
            SavesRetry settings kind delivery response) := by
  have hwritten : ∀ (state : TelegramDeliveryState) availableAt errorCode
      messageId sentAt risk, state ≠ .pending →
      (state = .retryWait → SavesRetry settings kind delivery response) →
      outbox.transitionFromSending delivery.id state availableAt errorCode
        messageId sentAt risk = .ok after →
      (∃ row ∈ outbox, row.id = delivery.id ∧ row.state = .sending) ∧
        ∃ change, after = outbox.update delivery.id change ∧ KeepsRisk change ∧
          ∀ row, (change row).state ≠ .pending ∧
            ((change row).state = .retryWait →
              SavesRetry settings kind delivery response) := by
    intro state availableAt errorCode messageId sentAt risk hstate hretry htrans
    obtain ⟨row, hrow, hid, hsending, change, hafter, hkeeps, hchange⟩ :=
      transitionFromSending_eq_ok htrans
    refine ⟨⟨row, hrow, hid, hsending⟩, change, hafter, hkeeps, ?_⟩
    intro row
    rw [hchange row]
    exact ⟨hstate, hretry⟩
  unfold saveOutcome at hsave
  split at hsave
  next => exact hwritten _ _ _ _ _ _ (by decide) (by simp) hsave
  next error herror =>
      by_cases hretries : Retries settings delivery error
      · rw [if_pos hretries] at hsave
        exact hwritten _ _ _ _ _ _ (by decide) (fun _ => ⟨rfl, error, herror, hretries⟩) hsave
      · rw [if_neg hretries] at hsave
        exact hwritten _ _ _ _ _ _ (by decide) (by simp) hsave
  next => exact hwritten _ _ _ _ _ _ (by decide) (by simp) hsave

theorem ClaimInvariant.row_eq_claim (hinv : ClaimInvariant gateway) {sender : ℕ}
    {claim row : TelegramDelivery} (hclaim : claim ∈ (gateway.phases sender).held)
    (hrow : row ∈ gateway.outbox) (hid : row.id = claim.id)
    (hsending : row.state = .sending) : row = claim := by
  rcases hinv.held sender claim hclaim with
    ⟨hmem, _⟩ | ⟨old, hold, holdId, hretry, _⟩
  · exact hinv.numbered.unique hrow hmem hid
  · rw [hinv.numbered.unique hrow hold (hid.trans holdId.symm), hretry] at hsending
    cases hsending

theorem ClaimInvariant.sent_not_held (hinv : ClaimInvariant gateway) {sender : ℕ}
    {claim row : TelegramDelivery} (hclaim : claim ∈ (gateway.phases sender).held)
    (hrow : row ∈ gateway.outbox) (hsent : row.state = .sent) :
    row.id ≠ claim.id := by
  intro hid
  rcases hinv.held sender claim hclaim with
    ⟨hmem, hsending⟩ | ⟨old, hold, holdId, hretry, _⟩
  · rw [hinv.numbered.unique hrow hmem hid, hsending] at hsent
    cases hsent
  · rw [hinv.numbered.unique hrow hold (hid.trans holdId.symm), hretry] at hsent
    cases hsent

/-! ## What a step can do -/

variable {action : GatewayAction}

theorem step_cases (hstep : step settings gateway action = some next) :
    (next = gateway) ∨
    (∃ row : TelegramDelivery, row.id = gateway.outbox.length + 1 ∧ row.state = .pending ∧
      next = { gateway with outbox := gateway.outbox ++ [row] }) ∨
    (∃ staleBefore now, next = { gateway with
      outbox := gateway.outbox.map (recovered staleBefore now) }) ∨
    (∃ sender kind row now, row ∈ gateway.outbox ∧ (row.state = .pending ∨ row.state = .retryWait) ∧
      (row.state = .retryWait → ∃ destinationChatId threadId,
        gateway.outbox.firstReady destinationChatId threadId now = some row ∧
        action = .drainClaim sender destinationChatId threadId now) ∧
      next = { gateway with
        outbox := gateway.outbox.update row.id (claimed now) }.setPhase sender
          (.claimed kind (claimed now row))) ∨
    (∃ sender kind claim attempt phase, gateway.phases sender = .claimed kind claim ∧
      attempt.deliveryId = claim.id ∧ (∀ held ∈ phase.held, held = claim ∧
        (phase.Unaccepted → attempt.mayHaveAccepted = false)) ∧
      next = { gateway with
        attempts := gateway.attempts ++ [attempt] }.setPhase sender phase) ∨
    (∃ sender now kind claim response outbox, action = .settle sender now ∧
      gateway.phases sender = .answered kind claim response ∧
      saveOutcome settings gateway.outbox kind claim response now = .ok outbox ∧
      next = { gateway with outbox }.setPhase sender .idle) ∨
    (∃ sender, next = gateway.setPhase sender .idle) := by
  cases action with
  | enqueue snapshotId payloadSha256 destinationChatId threadId text buttonUrl now =>
      simp only [step] at hstep
      split at hstep
      next => cases hstep
      next outbox henqueue =>
          cases hstep
          rcases enqueue_eq_ok henqueue with rfl | ⟨row, rfl, hid, hpend⟩
          · exact .inl rfl
          · exact .inr (.inl ⟨row, hid, hpend, rfl⟩)
  | recover now =>
    simp only [step, Option.some.injEq] at hstep
    exact .inr (.inr (.inl ⟨_, now, hstep.symm⟩))
  | drainClaim sender destinationChatId threadId now =>
    simp only [step] at hstep
    split at hstep
    next =>
        rw [Option.map_eq_some_iff] at hstep
        obtain ⟨⟨delivery, outbox⟩, hclaim, hnext⟩ := hstep
        obtain ⟨row, hready, rfl, rfl⟩ := claimNextForDestination_eq_some hclaim
        obtain ⟨hrow, hwaiting, _⟩ := firstReady_eq_some hready
        exact .inr (.inr (.inr (.inl ⟨sender, .drain, row, now, hrow, hwaiting,
          fun _ => ⟨destinationChatId, threadId, hready, rfl⟩, hnext.symm⟩)))
    next => cases hstep
  | controlledClaim sender snapshotId destinationChatId threadId now =>
    simp only [step] at hstep
    split at hstep
    next delivery outbox _ hclaim =>
        rw [Option.some.injEq] at hstep
        obtain ⟨row, hrow, hpend, rfl, rfl⟩ := claimExact_eq_ok hclaim
        refine .inr (.inr (.inr (.inl ⟨sender, .controlled, row, now, hrow,
          .inl hpend, ?_, hstep.symm⟩)))
        intro hretry
        rw [hpend] at hretry
        cases hretry
    next => cases hstep
  | send sender response =>
    simp only [step] at hstep
    split at hstep
    next kind claim hphase =>
        rw [Option.some.injEq] at hstep
        refine .inr (.inr (.inr (.inr (.inl ⟨sender, kind, claim, _, _, hphase,
          rfl, ?_, hstep.symm⟩))))
        intro held hheld
        exact ⟨(Option.some.inj hheld).symm, fun hrefused => hrefused⟩
    next => cases hstep
  | settle sender now =>
    simp only [step] at hstep
    split at hstep
    next kind claim response hphase =>
        split at hstep
        next =>
            rw [Option.some.injEq] at hstep
            exact .inr (.inr (.inr (.inr (.inr (.inr ⟨sender, hstep.symm⟩)))))
        next outbox hsave =>
            rw [Option.some.injEq] at hstep
            exact .inr (.inr (.inr (.inr (.inr (.inl ⟨sender, now, kind, claim,
              response, outbox, rfl, hphase, hsave, hstep.symm⟩)))))
    next => cases hstep
  | crash sender sending =>
    simp only [step] at hstep
    split at hstep
    next kind claim hphase =>
        rw [Option.some.injEq] at hstep
        refine .inr (.inr (.inr (.inr (.inl ⟨sender, kind, claim, _, _, hphase,
          rfl, ?_, hstep.symm⟩))))
        intro held hheld
        cases hheld
    next =>
        rw [Option.some.injEq] at hstep
        exact .inr (.inr (.inr (.inr (.inr (.inr ⟨sender, hstep.symm⟩)))))

theorem ClaimInvariant.step
    (hinv : ClaimInvariant gateway) (hguard : SoundStep settings gateway action)
    (hstep : step settings gateway action = some next) :
    ClaimInvariant next := by
  rcases step_cases hstep with
    rfl | ⟨row, hid, hpend, rfl⟩ | ⟨staleBefore, now, rfl⟩ |
    ⟨sender, kind, row, now, hrow, hwaiting, hdrain, rfl⟩ |
    ⟨sender, kind, claim, attempt, phase, hphase, hatt, hnext, rfl⟩ |
    ⟨sender, now, kind, claim, response, outbox, rfl, hphase, hsave, rfl⟩ |
    ⟨sender, rfl⟩
  · exact hinv
  · exact hinv.enqueue hid hpend
  · exact hinv.recover staleBefore now
  · apply hinv.claim kind now hrow hwaiting
    rcases hwaiting with hpend | hretry
    · exact hinv.pending row hrow hpend
    · obtain ⟨destinationChatId, threadId, hready, rfl⟩ := hdrain hretry
      exact hguard row hready
  · exact hinv.attempt hphase hatt hnext
  · have hclaim : claim ∈ (gateway.phases sender).held := by
      rw [hphase]
      rfl
    obtain ⟨⟨row, hrow, hid, hsending⟩, change, rfl, hkeeps, hchange⟩ :=
      saveOutcome_eq_ok hsave
    obtain rfl := hinv.row_eq_claim hclaim hrow hid hsending
    apply hinv.save hclaim hkeeps (hchange row).1 _ hrow
    intro hretry hacc
    by_cases haccepts : response.mayHaveAccepted = true
    · exact hguard kind row response hphase ((hchange row).2 hretry) haccepts row
        (hinv.numbered.get?_of_mem hrow) hsending
    · have hunaccepted : (gateway.phases sender).Unaccepted := by
        rw [hphase]
        exact Bool.eq_false_of_not_eq_true haccepts
      exact hinv.unaccepted sender row hclaim hunaccepted hacc row hrow rfl
  · exact hinv.release sender

theorem ClaimInvariant.step_sent (hinv : ClaimInvariant gateway)
    (hstep : TelegramGateway.step settings gateway action = some next)
    {row : TelegramDelivery} (hrow : row ∈ gateway.outbox) (hsent : row.state = .sent) :
    row ∈ next.outbox ∧ attemptsOf next.attempts row.id = attemptsOf gateway.attempts row.id := by
  rcases step_cases hstep with
    rfl | ⟨added, _, _, rfl⟩ | ⟨staleBefore, now, rfl⟩ |
    ⟨sender, kind, waiting, now, hwaitingRow, hwaiting, _, rfl⟩ |
    ⟨sender, kind, claim, attempt, phase, hphase, hatt, _, rfl⟩ |
    ⟨sender, now, kind, claim, response, outbox, _, hphase, hsave, rfl⟩ |
    ⟨sender, rfl⟩
  · exact ⟨hrow, rfl⟩
  · exact ⟨List.mem_append_left _ hrow, rfl⟩
  · have hnew := List.mem_map_of_mem (f := recovered staleBefore now) hrow
    rcases recovered_cases staleBefore now row with ⟨hsending, _⟩ | hsame
    · rw [hsent] at hsending
      cases hsending
    · rw [hsame] at hnew
      exact ⟨hnew, rfl⟩
  · refine ⟨mem_update_of_ne hrow ?_, rfl⟩
    intro hid
    rw [← hinv.numbered.unique hrow hwaitingRow hid, hsent] at hwaiting
    rcases hwaiting with hstate | hstate <;> cases hstate
  · refine ⟨hrow, ?_⟩
    have hclaim : claim ∈ (gateway.phases sender).held := by
      rw [hphase]
      rfl
    apply attemptsOf_append_of_ne
    rw [hatt]
    exact (hinv.sent_not_held hclaim hrow hsent).symm
  · have hclaim : claim ∈ (gateway.phases sender).held := by
      rw [hphase]
      rfl
    obtain ⟨_, change, rfl, _⟩ := saveOutcome_eq_ok hsave
    exact ⟨mem_update_of_ne hrow (hinv.sent_not_held hclaim hrow hsent), rfl⟩
  · exact ⟨hrow, rfl⟩

theorem ClaimInvariant.of_reaches {before after : TelegramGateway}
    (hreach : Reaches (TelegramGateway.step settings) (SoundStep settings)
      before after) (hinv : ClaimInvariant before) : ClaimInvariant after :=
  hreach.invariant (fun _ _ _ hinv hguard hstep => hinv.step hguard hstep) hinv

theorem ClaimInvariant.sent_final {before after : TelegramGateway}
    (hreach : Reaches (TelegramGateway.step settings) (SoundStep settings)
      before after) (hinv : ClaimInvariant before) {row : TelegramDelivery}
    (hrow : row ∈ before.outbox) (hsent : row.state = .sent) :
    row ∈ after.outbox ∧ attemptsOf after.attempts row.id = attemptsOf before.attempts row.id := by
  induction hreach with
  | refl => exact ⟨hrow, rfl⟩
  | tail hbefore _ hstep ih =>
    obtain ⟨hmiddle, hatts⟩ := ih
    obtain ⟨hafter, hsame⟩ :=
      (hinv.of_reaches hbefore).step_sent hstep hmiddle hsent
    exact ⟨hafter, hsame.trans hatts⟩

theorem answered_of_send {sender : ℕ} {response : TelegramResponse}
    (hstep : TelegramGateway.step settings gateway (.send sender response) = some next) :
    ∃ kind claim, next.phases sender = .answered kind claim response := by
  simp only [TelegramGateway.step] at hstep
  split at hstep
  next kind claim _ =>
      cases hstep
      exact ⟨kind, claim, setPhase_phases_self ..⟩
  next => cases hstep

/-- In every run of sound steps a saved result changes the row only while it is
as the sender claimed it, a sent delivery stays sent and is not attempted again,
and a delivery which was attempted after Telegram may have accepted it carries
the risk. -/
theorem gatewayRun_sound {settings : GatewaySettings} {gateway : TelegramGateway}
    (hreach : Reaches (TelegramGateway.step settings) (SoundStep settings) initial
      gateway) :
    (∀ sender kind claim response now outbox,
      gateway.phases sender = .answered kind claim response →
        saveOutcome settings gateway.outbox kind claim response now =
          .ok outbox → gateway.outbox.get? claim.id = some claim) ∧
    (∀ row ∈ gateway.outbox, row.state = .sent →
      ∀ later, Reaches (TelegramGateway.step settings) (SoundStep settings)
        gateway later → row ∈ later.outbox ∧ attemptsOf later.attempts row.id =
            attemptsOf gateway.attempts row.id) ∧
    ∀ row ∈ gateway.outbox, MayBeSentTwice gateway.attempts row.id →
      row.duplicateRisk = true := by
  have hinv := ClaimInvariant.initial.of_reaches hreach
  refine ⟨?_, ?_, ?_⟩
  · intro sender kind claim response now outbox hphase hsave
    have hclaim : claim ∈ (gateway.phases sender).held := by
      rw [hphase]
      rfl
    obtain ⟨⟨row, hrow, hid, hsending⟩, _⟩ := saveOutcome_eq_ok hsave
    obtain rfl := hinv.row_eq_claim hclaim hrow hid hsending
    exact hinv.numbered.get?_of_mem hrow
  · intro row hrow hsent later hlater
    exact hinv.sent_final hlater hrow hsent
  · intro row hrow htwice
    exact hinv.twice row.id htwice row hrow rfl

theorem gatewayRun_sound_resent : ∃ gateway : TelegramGateway,
    gateway.outbox.map (·.state) = [.sent] ∧ gateway.attempts.length = 2 ∧
    ∀ row ∈ gateway.outbox, MayBeSentTwice gateway.attempts row.id →
      row.duplicateRisk = true := by
  let settings : GatewaySettings := ⟨3, 5, 300, 120⟩
  let actions : List GatewayAction :=
    [.enqueue "s" "d" "c" 0 "t" "u" 0, .drainClaim 0 "c" 0 0,
      .send 0 (.rateLimited none), .settle 0 0, .drainClaim 1 "c" 0 10,
      .send 1 (.message 7), .settle 1 10]
  have hmeet : StepsMeet (step settings) (SoundStep settings) initial actions := by
    refine ⟨trivial, fun _ hfirst => ?_⟩
    obtain rfl := Option.some.inj hfirst
    refine ⟨?_, fun _ hsecond => ?_⟩
    · rintro row _ ⟨sender, claim, hclaim, _⟩
      cases hclaim
    obtain rfl := Option.some.inj hsecond
    refine ⟨trivial, fun _ hthird => ?_⟩
    obtain rfl := Option.some.inj hthird
    refine ⟨?_, fun _ hfourth => ?_⟩
    · intro kind claim response hphase _ haccepts
      cases hphase
      cases haccepts
    obtain rfl := Option.some.inj hfourth
    refine ⟨?_, fun fifth _ => ⟨trivial, fun sixth hsixth =>
      ⟨?_, fun _ _ => trivial⟩⟩⟩
    · rintro row _ hheld
      obtain ⟨sender, claim, hclaim, _⟩ := hheld
      obtain ⟨hne, hclaim⟩ := held_setPhase_idle hclaim
      change claim ∈ (Function.update (Function.update
        (fun _ => SenderPhase.idle) 0 _) 0 _ sender).held at hclaim
      rw [Function.update_of_ne hne, Function.update_of_ne hne] at hclaim
      cases hclaim
    · intro kind claim response hphase hretry
      obtain ⟨_, _, hanswered⟩ := answered_of_send hsixth
      rw [hanswered] at hphase
      cases hphase
      obtain ⟨_, error, herror, _⟩ := hretry
      cases herror
  obtain ⟨gateway, hrun, hstates, hatts⟩ :
      ∃ gateway ∈ runFrom (step settings) initial actions,
        gateway.outbox.map (·.state) = [.sent] ∧ gateway.attempts.length = 2 := by
    decide +kernel
  exact ⟨gateway, hstates, hatts, (gatewayRun_sound (.of_stepsMeet hmeet hrun)).2.2⟩

/-- Two failures of the claims.  A drain worker whose first attempt ended without
an answer repeats it, and the row says that there is no risk.  A worker whose
stale claim was taken back saves its result over the claim of another worker,
which then sends the report a second time. -/
theorem retriedDelivery_withoutRisk :
    (∃ gateway ∈ runFrom (step ⟨3, 5, 300, 120⟩) initial
        [.enqueue "s" "d" "c" 0 "t" "u" 0, .drainClaim 0 "c" 0 0,
          .send 0 .networkError, .settle 0 0, .drainClaim 0 "c" 0 10,
          .send 0 (.message 7), .settle 0 10],
      ∃ row ∈ gateway.outbox, row.state = .sent ∧
        MayBeSentTwice gateway.attempts row.id ∧ row.duplicateRisk = false) ∧
    ∃ gateway ∈ runFrom (step ⟨3, 5, 300, 120⟩) initial
        [.enqueue "s" "d" "c" 0 "t" "u" 0, .drainClaim 0 "c" 0 0, .recover 200,
          .drainClaim 1 "c" 0 200, .send 0 (.message 7)],
      ∃ claim ∈ (gateway.phases 0).held, gateway.outbox.get? claim.id ≠ some claim ∧
        ∃ next ∈ step ⟨3, 5, 300, 120⟩ gateway (.settle 0 0),
          (∃ row ∈ next.outbox, row.id = claim.id ∧ row.state = .sent) ∧
          ∃ later ∈ step ⟨3, 5, 300, 120⟩ next (.send 1 (.message 8)),
            attemptsOf later.attempts claim.id ≠ attemptsOf next.attempts claim.id := by
  decide +kernel

end TelegramGateway

end Nexolab
