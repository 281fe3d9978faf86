import Nexolab.TransitionSystem
import Nexolab.TelegramOutbox

/-!
# Claims on Telegram deliveries

A claim is a state of the row and not a value its owner could be told apart by.
What holds in every run whose claims leave out the deliveries an earlier sender
still works on, and whose retries follow an attempt which cannot have been
accepted or a risk which is already known: the sender who saves a result holds
its claim, a sent delivery is not sent again, and a delivery which may have been
sent twice carries the risk.
-/

namespace Nexolab

namespace DeliveryOutbox

variable {outbox : DeliveryOutbox}

def Risky (outbox : DeliveryOutbox) (deliveryId : ℕ) : Prop :=
  ∀ row ∈ outbox, row.id = deliveryId → row.duplicateRisk = true

/-- The change keeps the identifier of a row and a known risk. -/
structure KeepsRisk (change : TelegramDelivery → TelegramDelivery) : Prop where
  id : ∀ row, (change row).id = row.id
  duplicateRisk : ∀ row, row.duplicateRisk = true → (change row).duplicateRisk = true

variable {change : TelegramDelivery → TelegramDelivery} {row : TelegramDelivery}

theorem Risky.map {deliveryId : ℕ} (hchange : KeepsRisk change) (hrisky : Risky outbox deliveryId) :
    Risky (outbox.map change) deliveryId := by
  intro row hrow hid
  obtain ⟨old, hold, rfl⟩ := List.mem_map.mp hrow
  rw [hchange.id] at hid
  exact hchange.duplicateRisk old (hrisky old hold hid)

def changeAt (deliveryId : ℕ) (change : TelegramDelivery → TelegramDelivery)
    (row : TelegramDelivery) : TelegramDelivery :=
  if row.id = deliveryId then change row else row

theorem update_eq_map (outbox : DeliveryOutbox) (deliveryId : ℕ)
    (change : TelegramDelivery → TelegramDelivery) :
    outbox.update deliveryId change = outbox.map (changeAt deliveryId change) :=
  rfl

theorem changeAt_of_eq {deliveryId : ℕ}
    (hid : row.id = deliveryId) : changeAt deliveryId change row = change row :=
  if_pos hid

theorem changeAt_of_ne {deliveryId : ℕ}
    (hid : row.id ≠ deliveryId) : changeAt deliveryId change row = row :=
  if_neg hid

theorem KeepsRisk.changeAt (hchange : KeepsRisk change) (deliveryId : ℕ) :
    KeepsRisk (changeAt deliveryId change) := by
  constructor
  case id =>
    intro row
    unfold DeliveryOutbox.changeAt
    split
    · exact hchange.id row
    · rfl
  case duplicateRisk =>
    intro row hrisk
    unfold DeliveryOutbox.changeAt
    split
    · exact hchange.duplicateRisk row hrisk
    · exact hrisk

theorem mem_update_of_ne {deliveryId : ℕ} (hrow : row ∈ outbox) (hid : row.id ≠ deliveryId) :
    row ∈ outbox.update deliveryId change := by
  rw [update_eq_map]
  exact List.mem_map.mpr ⟨row, hrow, changeAt_of_ne hid⟩

theorem mem_update {deliveryId : ℕ} (hrow : row ∈ outbox.update deliveryId change) :
    (∃ old ∈ outbox, old.id = deliveryId ∧ row = change old) ∨
      (row.id ≠ deliveryId ∧ row ∈ outbox) := by
  rw [update_eq_map] at hrow
  obtain ⟨old, hold, rfl⟩ := List.mem_map.mp hrow
  by_cases hid : old.id = deliveryId
  · exact .inl ⟨old, hold, hid, changeAt_of_eq hid⟩
  · rw [changeAt_of_ne hid]
    exact .inr ⟨hid, hold⟩

/-- The identifiers are the numbers from one in the order of insertion. -/
def Numbered (outbox : DeliveryOutbox) : Prop :=
  outbox.map (·.id) = List.range' 1 outbox.length

theorem Numbered.map (hnumbered : Numbered outbox) (hchange : KeepsRisk change) :
    Numbered (outbox.map change) := by
  have hids : (fun row : TelegramDelivery => row.id) ∘ change =
      fun row => row.id := funext hchange.id
  unfold Numbered
  rw [List.map_map, hids, List.length_map]
  exact hnumbered

theorem Numbered.append (hnumbered : Numbered outbox)
    (hid : row.id = outbox.length + 1) : Numbered (outbox ++ [row]) := by
  unfold Numbered at hnumbered ⊢
  rw [List.map_append, hnumbered, List.length_append, List.range'_append_1.symm]
  simp [hid, Nat.add_comm]

theorem Numbered.id_le (hnumbered : Numbered outbox)
    (hrow : row ∈ outbox) : row.id ≤ outbox.length := by
  have hmem : row.id ∈ outbox.map (·.id) := List.mem_map_of_mem hrow
  rw [hnumbered, List.mem_range'_1] at hmem
  omega

theorem Numbered.unique {first second : TelegramDelivery}
    (hnumbered : Numbered outbox) (hfirst : first ∈ outbox)
    (hsecond : second ∈ outbox) (hid : first.id = second.id) :
    first = second := by
  have hnodup : (outbox.map (·.id)).Nodup := by
    rw [hnumbered]
    exact List.nodup_range'
  exact List.inj_on_of_nodup_map hnodup hfirst hsecond hid

theorem get?_eq_some {deliveryId : ℕ} (hget : outbox.get? deliveryId = some row) :
    row ∈ outbox ∧ row.id = deliveryId := by
  constructor
  · exact List.mem_of_find?_eq_some hget
  · simpa using List.find?_some hget

theorem Numbered.get?_of_mem (hnumbered : Numbered outbox) (hrow : row ∈ outbox) :
    outbox.get? row.id = some row := by
  cases hget : outbox.get? row.id with
  | none =>
    have hnone := List.find?_eq_none.mp hget row hrow
    simp at hnone
  | some found =>
    obtain ⟨hfound, hid⟩ := get?_eq_some hget
    rw [hnumbered.unique hfound hrow hid]

/-! ## What the operations change -/

theorem recovered_keepsRisk (staleBefore now : ℚ) :
    KeepsRisk (recovered staleBefore now) := by
  constructor
  case id =>
    intro row
    unfold recovered
    split <;> rfl
  case duplicateRisk =>
    intro row hrisk
    unfold recovered
    split
    · rfl
    · exact hrisk

theorem recovered_cases (staleBefore now : ℚ) (row : TelegramDelivery) :
    (row.state = .sending ∧ (recovered staleBefore now row).state = .retryWait ∧
      (recovered staleBefore now row).duplicateRisk = true) ∨
    recovered staleBefore now row = row := by
  unfold recovered
  split
  next hstale => exact .inl ⟨hstale.1, rfl, rfl⟩
  next => exact .inr rfl

theorem claimed_keepsRisk (now : ℚ) : KeepsRisk (claimed now) :=
  ⟨fun _ => rfl, fun _ hrisk => hrisk⟩

variable {now : ℚ} {threadId : ℕ}

theorem firstReady_eq_some {destinationChatId : String}
    (hready : outbox.firstReady destinationChatId threadId now = some row) :
    row ∈ outbox ∧ Ready destinationChatId threadId now row := by
  have hmem := List.mem_of_mem_head? hready
  rw [List.mem_insertionSort, List.mem_filter, decide_eq_true_eq] at hmem
  exact hmem

theorem claimNextForDestination_eq_some {destinationChatId : String} {delivery : TelegramDelivery}
    {next : DeliveryOutbox}
    (hclaim : outbox.claimNextForDestination destinationChatId threadId now =
      some (delivery, next)) :
    ∃ row, outbox.firstReady destinationChatId threadId now = some row ∧
      delivery = claimed now row ∧ next = outbox.update row.id (claimed now) := by
  unfold claimNextForDestination at hclaim
  rw [Option.map_eq_some_iff] at hclaim
  obtain ⟨row, hready, hpair⟩ := hclaim
  rw [Prod.mk.injEq] at hpair
  exact ⟨row, hready, hpair.1.symm, hpair.2.symm⟩

theorem claimExact_eq_ok {snapshotId destinationChatId : String}
    {delivery : TelegramDelivery} {next : DeliveryOutbox}
    (hclaim : outbox.claimExact snapshotId destinationChatId threadId now = .ok (delivery, next)) :
    ∃ row ∈ outbox, row.state = .pending ∧ delivery = claimed now row ∧
      next = outbox.update row.id (claimed now) := by
  unfold claimExact at hclaim
  split at hclaim
  next => cases hclaim
  next row hfound =>
      have hrow : row ∈ outbox := List.mem_of_find?_eq_some hfound
      by_cases hpend : row.state ≠ .pending
      · rw [if_pos hpend] at hclaim
        cases hclaim
      · rw [if_neg hpend] at hclaim
        by_cases havail : now < row.availableAt
        · rw [if_pos havail] at hclaim
          cases hclaim
        · rw [if_neg havail, Except.ok.injEq, Prod.mk.injEq] at hclaim
          exact ⟨row, hrow, not_not.mp hpend, hclaim.1.symm, hclaim.2.symm⟩

theorem enqueue_eq_ok {snapshotId payloadSha256 destinationChatId : String}
    {text buttonUrl : String} {next : DeliveryOutbox}
    (henqueue : outbox.enqueue snapshotId payloadSha256 destinationChatId threadId
      text buttonUrl now = .ok next) :
    next = outbox ∨ ∃ row : TelegramDelivery, next = outbox ++ [row] ∧
      row.id = outbox.length + 1 ∧ row.state = .pending := by
  unfold enqueue at henqueue
  split at henqueue
  next existing _ =>
      by_cases hcont : existing.snapshotSha256 ≠ payloadSha256
      · rw [if_pos hcont] at henqueue
        cases henqueue
      · rw [if_neg hcont, Except.ok.injEq] at henqueue
        exact .inl henqueue.symm
  next =>
      rw [Except.ok.injEq] at henqueue
      exact .inr ⟨_, henqueue.symm, rfl, rfl⟩

theorem transitionFromSending_eq_ok {deliveryId : ℕ}
    {state : TelegramDeliveryState} {availableAt : ℚ} {errorCode : Option String}
    {messageId : Option ℤ} {sentAt : Option ℚ} {risk : Bool} {next : DeliveryOutbox}
    (htrans : outbox.transitionFromSending deliveryId state availableAt
      errorCode messageId sentAt risk = .ok next) :
    ∃ row ∈ outbox, row.id = deliveryId ∧ row.state = .sending ∧
      ∃ change, next = outbox.update deliveryId change ∧ KeepsRisk change ∧
        ∀ row, (change row).state = state := by
  unfold transitionFromSending at htrans
  split at htrans
  next => cases htrans
  next row hget =>
      obtain ⟨hrow, hid⟩ := get?_eq_some hget
      by_cases hsending : row.state ≠ .sending
      · rw [if_pos hsending] at htrans
        cases htrans
      · rw [if_neg hsending, Except.ok.injEq] at htrans
        refine ⟨row, hrow, hid, not_not.mp hsending, _, htrans.symm, ?_, ?_⟩
        · constructor
          case id => exact fun _ => rfl
          case duplicateRisk =>
            intro row hrisk
            simp [hrisk]
        · exact fun _ => rfl

end DeliveryOutbox

/-- The attempts to send the delivery, in the order they were made. -/
def attemptsOf (attempts : List SendAttempt) (deliveryId : ℕ) :
    List SendAttempt :=
  attempts.filter fun attempt => attempt.deliveryId = deliveryId

def MayBeAccepted (attempts : List SendAttempt) (deliveryId : ℕ) : Prop :=
  ∃ attempt ∈ attemptsOf attempts deliveryId, attempt.mayHaveAccepted = true

/-- The delivery was attempted again after Telegram may have accepted it. -/
def MayBeSentTwice (attempts : List SendAttempt) (deliveryId : ℕ) : Prop :=
  ∃ attempt ∈ (attemptsOf attempts deliveryId).dropLast, attempt.mayHaveAccepted = true

instance (attempts : List SendAttempt) (deliveryId : ℕ) :
    Decidable (MayBeSentTwice attempts deliveryId) :=
  inferInstanceAs (Decidable (∃ attempt ∈ _, _))

section Attempts

variable {attempts : List SendAttempt} {attempt : SendAttempt} {deliveryId : ℕ}

theorem attemptsOf_append_of_eq (hid : attempt.deliveryId = deliveryId) :
    attemptsOf (attempts ++ [attempt]) deliveryId =
      attemptsOf attempts deliveryId ++ [attempt] := by
  simp [attemptsOf, List.filter_append, hid]

theorem attemptsOf_append_of_ne (hid : attempt.deliveryId ≠ deliveryId) :
    attemptsOf (attempts ++ [attempt]) deliveryId = attemptsOf attempts deliveryId := by
  simp [attemptsOf, List.filter_append, hid]

theorem mayBeAccepted_append (hacc : MayBeAccepted (attempts ++ [attempt]) deliveryId) :
    MayBeAccepted attempts deliveryId ∨
      (attempt.deliveryId = deliveryId ∧ attempt.mayHaveAccepted = true) := by
  by_cases hid : attempt.deliveryId = deliveryId
  · obtain ⟨found, hfound, haccepts⟩ := hacc
    rw [attemptsOf_append_of_eq hid, List.mem_append, List.mem_singleton] at hfound
    rcases hfound with hfound | rfl
    · exact .inl ⟨found, hfound, haccepts⟩
    · exact .inr ⟨hid, haccepts⟩
  · unfold MayBeAccepted at hacc
    rw [attemptsOf_append_of_ne hid] at hacc
    exact .inl hacc

theorem mayBeSentTwice_append (htwice : MayBeSentTwice (attempts ++ [attempt]) deliveryId) :
    MayBeSentTwice attempts deliveryId ∨
      (attempt.deliveryId = deliveryId ∧ MayBeAccepted attempts deliveryId) := by
  unfold MayBeSentTwice at htwice
  by_cases hid : attempt.deliveryId = deliveryId
  · rw [attemptsOf_append_of_eq hid, List.dropLast_concat] at htwice
    exact .inr ⟨hid, htwice⟩
  · rw [attemptsOf_append_of_ne hid] at htwice
    exact .inl htwice

end Attempts

/-! ## Claims -/

def SenderPhase.held : SenderPhase → Option TelegramDelivery
  | .idle => none
  | .claimed _ delivery => some delivery
  | .answered _ delivery _ => some delivery

/-- The attempt under the claim is not made yet or was not accepted. -/
def SenderPhase.Unaccepted : SenderPhase → Prop
  | .answered _ _ response => response.mayHaveAccepted = false
  | _ => True

namespace TelegramGateway

open DeliveryOutbox

def Held (gateway : TelegramGateway) (deliveryId : ℕ) : Prop :=
  ∃ sender, ∃ claim ∈ (gateway.phases sender).held, claim.id = deliveryId

/-- What is true of the claims and the attempts in a sound run. -/
structure ClaimInvariant (gateway : TelegramGateway) : Prop where
  numbered : Numbered gateway.outbox
  attempted : ∀ attempt ∈ gateway.attempts, attempt.deliveryId ≤ gateway.outbox.length
  pending : ∀ row ∈ gateway.outbox, row.state = .pending → ¬ gateway.Held row.id
  held : ∀ sender, ∀ claim ∈ (gateway.phases sender).held,
    (claim ∈ gateway.outbox ∧ claim.state = .sending) ∨
      ∃ row ∈ gateway.outbox, row.id = claim.id ∧ row.state = .retryWait ∧ row.duplicateRisk = true
  alone : ∀ sender, ∀ claim ∈ (gateway.phases sender).held,
    ∀ other, ∀ second ∈ (gateway.phases other).held, claim.id = second.id → sender = other
  waiting : ∀ row ∈ gateway.outbox, row.state = .pending ∨ row.state = .retryWait →
    MayBeAccepted gateway.attempts row.id → row.duplicateRisk = true
  unaccepted : ∀ sender, ∀ claim ∈ (gateway.phases sender).held,
    (gateway.phases sender).Unaccepted →
      MayBeAccepted gateway.attempts claim.id → Risky gateway.outbox claim.id
  twice : ∀ deliveryId, MayBeSentTwice gateway.attempts deliveryId → Risky gateway.outbox deliveryId

variable {gateway next : TelegramGateway}

theorem ClaimInvariant.initial : ClaimInvariant .initial := by
  constructor
  case numbered => rfl
  case attempted => exact fun _ hatt => absurd hatt List.not_mem_nil
  case pending => exact fun _ hrow => absurd hrow List.not_mem_nil
  case held => exact fun _ _ hclaim => by cases hclaim
  case alone => exact fun _ _ hclaim => by cases hclaim
  case waiting => exact fun _ hrow => absurd hrow List.not_mem_nil
  case unaccepted => exact fun _ _ hclaim => by cases hclaim
  case twice => exact fun _ _ row hrow => absurd hrow List.not_mem_nil

theorem setPhase_phases_self (gateway : TelegramGateway) (sender : ℕ)
    (phase : SenderPhase) : (gateway.setPhase sender phase).phases sender = phase :=
  Function.update_self ..

theorem setPhase_phases_of_ne {sender other : ℕ} (hother : other ≠ sender)
    (gateway : TelegramGateway) (phase : SenderPhase) :
    (gateway.setPhase sender phase).phases other = gateway.phases other :=
  Function.update_of_ne hother ..

theorem held_setPhase_idle {sender other : ℕ} {claim : TelegramDelivery}
    (hheld : claim ∈ ((gateway.setPhase sender .idle).phases other).held) :
    other ≠ sender ∧ claim ∈ (gateway.phases other).held := by
  by_cases hother : other = sender
  · subst hother
    rw [setPhase_phases_self] at hheld
    cases hheld
  · rw [setPhase_phases_of_ne hother] at hheld
    exact ⟨hother, hheld⟩

theorem Held.of_setPhase_idle {sender deliveryId : ℕ}
    (hheld : (gateway.setPhase sender .idle).Held deliveryId) :
    gateway.Held deliveryId := by
  obtain ⟨other, claim, hclaim, hid⟩ := hheld
  exact ⟨other, claim, (held_setPhase_idle hclaim).2, hid⟩

theorem ClaimInvariant.release (hinv : ClaimInvariant gateway) (sender : ℕ) :
    ClaimInvariant (gateway.setPhase sender .idle) := by
  constructor
  case numbered => exact hinv.numbered
  case attempted => exact hinv.attempted
  case pending =>
    intro row hrow hpend hheld
    exact hinv.pending row hrow hpend hheld.of_setPhase_idle
  case held =>
    intro other claim hclaim
    exact hinv.held other claim (held_setPhase_idle hclaim).2
  case alone =>
    intro first claim hclaim second other hother hid
    exact hinv.alone first claim (held_setPhase_idle hclaim).2 second other
      (held_setPhase_idle hother).2 hid
  case waiting => exact hinv.waiting
  case unaccepted =>
    intro other claim hclaim hunaccepted
    obtain ⟨hne, hheld⟩ := held_setPhase_idle hclaim
    rw [setPhase_phases_of_ne hne] at hunaccepted
    exact hinv.unaccepted other claim hheld hunaccepted
  case twice => exact hinv.twice

theorem ClaimInvariant.enqueue (hinv : ClaimInvariant gateway)
    {row : TelegramDelivery} (hid : row.id = gateway.outbox.length + 1)
    (hpend : row.state = .pending) :
    ClaimInvariant { gateway with outbox := gateway.outbox ++ [row] } := by
  have hfresh : ¬ MayBeAccepted gateway.attempts row.id := by
    rintro ⟨attempt, hatt, _⟩
    rw [attemptsOf, List.mem_filter, decide_eq_true_eq] at hatt
    have hle := hinv.attempted attempt hatt.1
    omega
  have hrisky : ∀ deliveryId, deliveryId ≠ row.id → Risky gateway.outbox deliveryId →
        Risky (gateway.outbox ++ [row]) deliveryId := by
    intro deliveryId hne hold other hother hotherId
    rw [List.mem_append, List.mem_singleton] at hother
    rcases hother with hother | rfl
    · exact hold other hother hotherId
    · exact absurd hotherId.symm hne
  have hheldId : ∀ sender, ∀ claim ∈ (gateway.phases sender).held,
      claim.id ≤ gateway.outbox.length := by
    intro sender claim hclaim
    rcases hinv.held sender claim hclaim with ⟨hmem, _⟩ | ⟨old, hold, holdId, _⟩
    · exact hinv.numbered.id_le hmem
    · exact holdId ▸ hinv.numbered.id_le hold
  constructor
  case numbered => exact hinv.numbered.append hid
  case attempted =>
    intro attempt hatt
    have hle := hinv.attempted attempt hatt
    simp only [List.length_append, List.length_singleton]
    omega
  case pending =>
    intro other hother hotherPending
    rw [List.mem_append, List.mem_singleton] at hother
    rcases hother with hother | rfl
    · exact hinv.pending other hother hotherPending
    · rintro ⟨sender, claim, hclaim, hclaimId⟩
      have hle := hheldId sender claim hclaim
      omega
  case held =>
    intro sender claim hclaim
    rcases hinv.held sender claim hclaim with
      ⟨hmem, hsending⟩ | ⟨old, hold, hrest⟩
    · exact .inl ⟨List.mem_append_left _ hmem, hsending⟩
    · exact .inr ⟨old, List.mem_append_left _ hold, hrest⟩
  case alone => exact hinv.alone
  case waiting =>
    intro other hother hwaiting hacc
    rw [List.mem_append, List.mem_singleton] at hother
    rcases hother with hother | rfl
    · exact hinv.waiting other hother hwaiting hacc
    · exact absurd hacc hfresh
  case unaccepted =>
    intro sender claim hclaim hunaccepted hacc
    have hle := hheldId sender claim hclaim
    exact hrisky claim.id (by omega) (hinv.unaccepted sender claim hclaim hunaccepted hacc)
  case twice =>
    intro deliveryId htwice
    apply hrisky deliveryId
    · rintro rfl
      obtain ⟨attempt, hatt, haccepts⟩ := htwice
      exact hfresh ⟨attempt, List.mem_of_mem_dropLast hatt, haccepts⟩
    · exact hinv.twice deliveryId htwice

theorem ClaimInvariant.recover (hinv : ClaimInvariant gateway) (staleBefore now : ℚ) :
    ClaimInvariant { gateway with
      outbox := gateway.outbox.map (recovered staleBefore now) } := by
  have hkeeps := recovered_keepsRisk staleBefore now
  constructor
  case numbered => exact hinv.numbered.map hkeeps
  case attempted =>
    intro attempt hatt
    rw [List.length_map]
    exact hinv.attempted attempt hatt
  case pending =>
    intro row hrow hpend
    obtain ⟨old, hold, rfl⟩ := List.mem_map.mp hrow
    rcases recovered_cases staleBefore now old with ⟨_, hretry, _⟩ | hsame
    · rw [hretry] at hpend
      cases hpend
    · rw [hsame] at hpend ⊢
      exact hinv.pending old hold hpend
  case held =>
    intro sender claim hclaim
    rcases hinv.held sender claim hclaim with
      ⟨hmem, hsending⟩ | ⟨old, hold, hid, hretry, hrisk⟩
    · have hnew := List.mem_map_of_mem (f := recovered staleBefore now) hmem
      rcases recovered_cases staleBefore now claim with
        ⟨_, hretry, hrisk⟩ | hsame
      · exact .inr ⟨_, hnew, hkeeps.id claim, hretry, hrisk⟩
      · rw [hsame] at hnew
        exact .inl ⟨hnew, hsending⟩
    · have hnew := List.mem_map_of_mem (f := recovered staleBefore now) hold
      rcases recovered_cases staleBefore now old with ⟨hsending, _⟩ | hsame
      · rw [hretry] at hsending
        cases hsending
      · rw [hsame] at hnew
        exact .inr ⟨old, hnew, hid, hretry, hrisk⟩
  case alone => exact hinv.alone
  case waiting =>
    intro row hrow hwaiting hacc
    obtain ⟨old, hold, rfl⟩ := List.mem_map.mp hrow
    rcases recovered_cases staleBefore now old with ⟨_, _, hrisk⟩ | hsame
    · exact hrisk
    · rw [hsame] at hwaiting hacc ⊢
      exact hinv.waiting old hold hwaiting hacc
  case unaccepted =>
    intro sender claim hclaim hunaccepted hacc
    exact (hinv.unaccepted sender claim hclaim hunaccepted hacc).map hkeeps
  case twice => exact fun id htwice => (hinv.twice id htwice).map hkeeps

theorem ClaimInvariant.claim (hinv : ClaimInvariant gateway) {sender : ℕ}
    (kind : SenderKind) {row : TelegramDelivery} (now : ℚ) (hrow : row ∈ gateway.outbox)
    (hwaiting : row.state = .pending ∨ row.state = .retryWait) (hfree : ¬ gateway.Held row.id) :
    ClaimInvariant ({ gateway with
      outbox := gateway.outbox.update row.id (claimed now) }.setPhase sender
        (.claimed kind (claimed now row))) := by
  have hkeeps := (claimed_keepsRisk now).changeAt row.id
  have hother : ∀ other, other ≠ sender → ∀ claim ∈ (gateway.phases other).held,
      claim.id ≠ row.id := by
    intro other _ claim hclaim hid
    exact hfree ⟨other, claim, hclaim, hid⟩
  -- The claims of the next state are the new one and the old ones of others.
  have hclaims : ∀ other, ∀ claim ∈ (({ gateway with
      outbox := gateway.outbox.update row.id (claimed now) }.setPhase sender
        (.claimed kind (claimed now row))).phases other).held,
      (other = sender ∧ claim = claimed now row) ∨
        (other ≠ sender ∧ claim ∈ (gateway.phases other).held ∧
          claim.id ≠ row.id) := by
    intro other claim hclaim
    by_cases hne : other = sender
    · subst hne
      rw [setPhase_phases_self] at hclaim
      exact .inl ⟨rfl, (Option.some.inj hclaim).symm⟩
    · rw [setPhase_phases_of_ne hne] at hclaim
      exact .inr ⟨hne, hclaim, hother other hne claim hclaim⟩
  constructor
  case numbered => exact hinv.numbered.map hkeeps
  case attempted =>
    intro attempt hatt
    change attempt.deliveryId ≤ (gateway.outbox.update row.id _).length
    rw [update_eq_map, List.length_map]
    exact hinv.attempted attempt hatt
  case pending =>
    intro other hmem hpend
    rcases mem_update hmem with ⟨old, _, _, rfl⟩ | ⟨hne, hold⟩
    · cases hpend
    · rintro ⟨holder, claim, hclaim, hid⟩
      rcases hclaims holder claim hclaim with ⟨_, rfl⟩ | ⟨_, hheld, _⟩
      · exact hne hid.symm
      · exact hinv.pending other hold hpend ⟨holder, claim, hheld, hid⟩
  case held =>
    intro other claim hclaim
    rcases hclaims other claim hclaim with ⟨_, rfl⟩ | ⟨_, hheld, hne⟩
    · have hnew := List.mem_map_of_mem (f := changeAt row.id (claimed now)) hrow
      rw [changeAt_of_eq rfl] at hnew
      exact .inl ⟨hnew, rfl⟩
    · rcases hinv.held other claim hheld with
        ⟨hmem, hsending⟩ | ⟨old, hold, hid, hrest⟩
      · exact .inl ⟨mem_update_of_ne hmem hne, hsending⟩
      · refine .inr ⟨old, mem_update_of_ne hold ?_, hid, hrest⟩
        exact fun heq => hne (hid.symm.trans heq)
  case alone =>
    intro first claim hfirst second other hsecond hid
    rcases hclaims first claim hfirst with ⟨rfl, rfl⟩ | ⟨_, hheld, hne⟩
    · rcases hclaims second other hsecond with ⟨rfl, _⟩ | ⟨_, _, hsecondNe⟩
      · rfl
      · exact absurd hid.symm hsecondNe
    · rcases hclaims second other hsecond with ⟨_, rfl⟩ | ⟨_, hsecondHeld, _⟩
      · exact absurd hid hne
      · exact hinv.alone first claim hheld second other hsecondHeld hid
  case waiting =>
    intro other hmem hotherWaiting hacc
    rcases mem_update hmem with ⟨old, _, _, rfl⟩ | ⟨_, hold⟩
    · rcases hotherWaiting with hstate | hstate <;> cases hstate
    · exact hinv.waiting other hold hotherWaiting hacc
  case unaccepted =>
    intro other claim hclaim hunaccepted hacc
    rcases hclaims other claim hclaim with ⟨_, rfl⟩ | ⟨hne, hheld, _⟩
    · have hrisk : Risky gateway.outbox row.id := by
        intro found hfound hid
        rw [hinv.numbered.unique hfound hrow hid]
        exact hinv.waiting row hrow hwaiting hacc
      exact hrisk.map hkeeps
    · rw [setPhase_phases_of_ne hne] at hunaccepted
      exact (hinv.unaccepted other claim hheld hunaccepted hacc).map hkeeps
  case twice => exact fun id htwice => (hinv.twice id htwice).map hkeeps

theorem ClaimInvariant.attempt (hinv : ClaimInvariant gateway) {sender : ℕ}
    {kind : SenderKind} {claim : TelegramDelivery} {attempt : SendAttempt}
    {phase : SenderPhase} (hphase : gateway.phases sender = .claimed kind claim)
    (hatt : attempt.deliveryId = claim.id)
    (hnext : ∀ held ∈ phase.held, held = claim ∧
      (phase.Unaccepted → attempt.mayHaveAccepted = false)) :
    ClaimInvariant ({ gateway with
      attempts := gateway.attempts ++ [attempt] }.setPhase sender phase) := by
  have hheldNow : claim ∈ (gateway.phases sender).held := by
    rw [hphase]
    rfl
  have hopen : (gateway.phases sender).Unaccepted := by
    rw [hphase]
    trivial
  have hrisky : MayBeAccepted gateway.attempts claim.id → Risky gateway.outbox claim.id :=
    hinv.unaccepted sender claim hheldNow hopen
  -- The claims of the next state are claims of this state.
  have hclaims : ∀ other, ∀ held ∈ (({ gateway with
      attempts := gateway.attempts ++ [attempt] }.setPhase sender
        phase).phases other).held, held ∈ (gateway.phases other).held := by
    intro other held hheld
    by_cases hne : other = sender
    · subst hne
      rw [setPhase_phases_self] at hheld
      rw [(hnext held hheld).1]
      exact hheldNow
    · rwa [setPhase_phases_of_ne hne] at hheld
  constructor
  case numbered => exact hinv.numbered
  case attempted =>
    intro other hother
    rcases List.mem_append.mp hother with hold | hnew
    · exact hinv.attempted other hold
    · rw [List.mem_singleton.mp hnew, hatt]
      rcases hinv.held sender claim hheldNow with
        ⟨hmem, _⟩ | ⟨row, hrow, hid, _⟩
      · exact hinv.numbered.id_le hmem
      · exact hid ▸ hinv.numbered.id_le hrow
  case pending =>
    rintro row hrow hpend ⟨other, held, hheld, hid⟩
    exact hinv.pending row hrow hpend ⟨other, held, hclaims other held hheld, hid⟩
  case held =>
    exact fun other held hheld => hinv.held other held (hclaims other held hheld)
  case alone =>
    intro first held hheld second other hother hid
    exact hinv.alone first held (hclaims first held hheld) second other
      (hclaims second other hother) hid
  case waiting =>
    intro row hrow hwaiting hacc
    rcases mayBeAccepted_append hacc with hold | ⟨hid, _⟩
    · exact hinv.waiting row hrow hwaiting hold
    · -- A row which waits while it is claimed was taken back with its risk.
      rw [hatt] at hid
      rcases hinv.held sender claim hheldNow with
        ⟨hmem, hsending⟩ | ⟨old, hold, holdId, _, hrisk⟩
      · rw [hinv.numbered.unique hrow hmem hid.symm, hsending] at hwaiting
        rcases hwaiting with hstate | hstate <;> cases hstate
      · rw [hinv.numbered.unique hrow hold (hid.symm.trans holdId.symm)]
        exact hrisk
  case unaccepted =>
    intro other held hheld hunaccepted hacc
    by_cases hne : other = sender
    · subst hne
      rw [setPhase_phases_self] at hheld hunaccepted
      obtain ⟨rfl, hrefused⟩ := hnext held hheld
      rcases mayBeAccepted_append hacc with hold | ⟨_, haccepts⟩
      · exact hrisky hold
      · rw [hrefused hunaccepted] at haccepts
        cases haccepts
    · have hheldOther := hclaims other held hheld
      rw [setPhase_phases_of_ne hne] at hunaccepted
      rcases mayBeAccepted_append hacc with hold | ⟨hid, _⟩
      · exact hinv.unaccepted other held hheldOther hunaccepted hold
      · rw [hatt] at hid
        exact absurd (hinv.alone other held hheldOther sender claim hheldNow hid.symm) hne
  case twice =>
    intro deliveryId htwice
    rcases mayBeSentTwice_append htwice with hold | ⟨hid, hacc⟩
    · exact hinv.twice deliveryId hold
    · rw [hatt] at hid
      subst hid
      exact hrisky hacc

theorem ClaimInvariant.save (hinv : ClaimInvariant gateway) {sender : ℕ}
    {claim : TelegramDelivery} {change : TelegramDelivery → TelegramDelivery}
    (hclaim : claim ∈ (gateway.phases sender).held) (hkeeps : KeepsRisk change)
    (hnotPending : (change claim).state ≠ .pending)
    (hretry : (change claim).state = .retryWait →
      MayBeAccepted gateway.attempts claim.id → claim.duplicateRisk = true)
    (hmem : claim ∈ gateway.outbox) :
    ClaimInvariant ({ gateway with
      outbox := gateway.outbox.update claim.id change }.setPhase sender .idle) := by
  have hkeepsAt := hkeeps.changeAt claim.id
  have hrows : ∀ row ∈ gateway.outbox.update claim.id change,
      row = change claim ∨ (row.id ≠ claim.id ∧ row ∈ gateway.outbox) := by
    intro row hrow
    rcases mem_update hrow with ⟨old, hold, hid, rfl⟩ | hother
    · rw [hinv.numbered.unique hold hmem hid]
      exact .inl rfl
    · exact .inr hother
  constructor
  case numbered => exact hinv.numbered.map hkeepsAt
  case attempted =>
    intro attempt hatt
    change attempt.deliveryId ≤ (gateway.outbox.update claim.id change).length
    rw [update_eq_map, List.length_map]
    exact hinv.attempted attempt hatt
  case pending =>
    intro row hrow hpend hheld
    rcases hrows row hrow with rfl | ⟨_, hold⟩
    · exact hnotPending hpend
    · exact hinv.pending row hold hpend hheld.of_setPhase_idle
  case held =>
    intro other held hheld
    obtain ⟨hne, hheld⟩ := held_setPhase_idle hheld
    have hid : held.id ≠ claim.id := fun heq =>
      hne (hinv.alone other held hheld sender claim hclaim heq)
    rcases hinv.held other held hheld with
      ⟨hheldMem, hsending⟩ | ⟨old, hold, holdId, hrest⟩
    · exact .inl ⟨mem_update_of_ne hheldMem hid, hsending⟩
    · refine .inr ⟨old, mem_update_of_ne hold ?_, holdId, hrest⟩
      exact fun heq => hid (holdId.symm.trans heq)
  case alone =>
    intro first held hheld second other hother hid
    exact hinv.alone first held (held_setPhase_idle hheld).2 second other
      (held_setPhase_idle hother).2 hid
  case waiting =>
    intro row hrow hwaiting hacc
    rcases hrows row hrow with rfl | ⟨_, hold⟩
    · rcases hwaiting with hpend | hstate
      · exact absurd hpend hnotPending
      · rw [hkeeps.id] at hacc
        exact hkeeps.duplicateRisk claim (hretry hstate hacc)
    · exact hinv.waiting row hold hwaiting hacc
  case unaccepted =>
    intro other held hheld hunaccepted hacc
    obtain ⟨hne, hheld⟩ := held_setPhase_idle hheld
    rw [setPhase_phases_of_ne hne] at hunaccepted
    exact (hinv.unaccepted other held hheld hunaccepted hacc).map hkeepsAt
  case twice => exact fun id htwice => (hinv.twice id htwice).map hkeepsAt

end TelegramGateway

end Nexolab
