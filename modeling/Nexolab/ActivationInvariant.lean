import Nexolab.ActivationCommits
import Nexolab.TransitionSystem

/-!
# What a rollback goes back to

The first prepared row fixes the document which a rollback goes back to.  From
then on the document of the registry is this one, or this one with the device
activated, and every row and every request in progress has the snapshot of it.
-/

namespace Nexolab

namespace CommissioningAgent

/-- The step takes the request to a restored document, or to the answer that
the activation is rolled back. -/
def RollsBack (before after : CommissioningAgent) (call : ℕ) : Prop :=
  before.phases call ≠ after.phases call ∧
    (after.phases call = .finished (some .rolledBack) ∨
      ∃ asked record, after.phases call = .restored asked record)

/-- The document is back at the start, and the other devices are untouched. -/
structure RolledBack (start : InventoryDocument) (before after : CommissioningAgent) : Prop where
  restored : EnrolledOnly start after.document
  others : ∃ row, after.journal = some row ∧
    OthersKept row.record.snapshot.deviceId before.document after.document

/-- The snapshot is of the start, to which enrollments have added at most. -/
def SnapshotOfStart (start : InventoryDocument) (snapshot : ActivationSnapshot) : Prop :=
  ∃ base device, EnrolledOnly start base ∧ device ∈ base.devices ∧ snapshot = base.snapshotOf device

/-- An activation which has found no journal row takes the lock while there is
still none, or the row is of the same request and its snapshot holds.  A
rollback is journalled while its snapshot holds and no activation is between its
prepared row and its commit. -/
def Undisturbed (agent : CommissioningAgent) : CommissioningAction → Prop
  | .enter call _ _ => ∀ asked, agent.phases call = .loaded asked none →
      ∀ row, agent.journal = some row → row.identity = asked.identity ∧
        row.record.snapshot.HoldsIn agent.document
  | .complete call => ∀ asked record, agent.phases call = .restored asked record →
      record.snapshot.HoldsIn agent.document ∧
        ∀ other activating prepared, agent.phases other ≠ .prepared activating prepared
  | _ => True

def FreshPhase (agent : CommissioningAgent) (call : ℕ) :
    ActivationPhase → Prop
  | .waiting => True
  | .loaded asked row => asked.action = .activate ∧ row = none
  | .enrolled _ => agent.lock = some call
  | .finished _ => True
  | _ => False

structure Fresh (start : InventoryDocument) (agent : CommissioningAgent) :
    Prop where
  enrolled : EnrolledOnly start agent.document
  journal : agent.journal = none
  phases : ∀ call, FreshPhase agent call (agent.phases call)

section Journaled

variable (base : InventoryDocument) (device : InventoryDevice) (identity : ActivationIdentity)

/-- After the first prepared row, which was saved over the base document. -/
def JournaledPhase (agent : CommissioningAgent) (call : ℕ) :
    ActivationPhase → Prop
  | .waiting => True
  | .loaded asked none => asked.action = .activate
  | .loaded asked (some row) => asked.identity = identity ∧
      row.record.snapshot = base.snapshotOf device
  | .enrolled asked => asked.identity = identity ∧ agent.lock = some call ∧
      SameInventory agent.document base
  | .prepared asked record => asked.identity = identity ∧
      record.snapshot = base.snapshotOf device ∧ agent.lock = some call ∧
      SameInventory agent.document base
  | .activated asked record => asked.identity = identity ∧ record.snapshot = base.snapshotOf device
  | .restored asked record => asked.identity = identity ∧ record.snapshot = base.snapshotOf device
  | .finished _ => True

/-- What every journal row of the activation id says. -/
structure JournaledRow (agent : CommissioningAgent) (row : JournalRow) :
    Prop where
  sameIdentity : row.identity = identity
  snapshot : row.record.snapshot = base.snapshotOf device
  rolledBack : row.state = .rolledBack → SameInventory agent.document base ∧
    ∀ call asked record, agent.phases call ≠ .prepared asked record

structure Journaled (start : InventoryDocument) (agent : CommissioningAgent) :
    Prop where
  valid : base.Valid
  enrolled : EnrolledOnly start base
  commissioned : ∃ family, identity.family = some family ∧
    base.commissioningDevice identity family = some device
  staged : Staged base device agent.document
  journal : ∃ row, agent.journal = some row ∧ JournaledRow base device identity agent row
  phases : ∀ call, JournaledPhase base device identity agent call (agent.phases call)

end Journaled

/-- The journal is empty, or every row is of the first activation. -/
def Commissioned (start : InventoryDocument) (agent : CommissioningAgent) :
    Prop :=
  Fresh start agent ∨ ∃ base device identity, Journaled base device identity start agent

structure StepSound (start : InventoryDocument) (before after : CommissioningAgent) : Prop where
  commissioned : Commissioned start after
  rollbacks : ∀ call, RollsBack before after call → RolledBack start before after

/-! ## Steps of one request -/

section Update

variable {start base : InventoryDocument} {device : InventoryDevice}
  {identity : ActivationIdentity} {agent after : CommissioningAgent}
  {call : ℕ} {phase : ActivationPhase}

def Moves (agent after : CommissioningAgent) (call : ℕ) (phase : ActivationPhase) : Prop :=
  after.phases = Function.update agent.phases call phase

theorem Moves.other (hmoves : Moves agent after call phase) {other : ℕ}
    (hne : other ≠ call) : after.phases other = agent.phases other := by
  rw [hmoves]
  exact Function.update_of_ne hne _ _

theorem Moves.self (hmoves : Moves agent after call phase) :
    after.phases call = phase := by
  rw [hmoves]
  exact Function.update_self _ _ _

def Quiet : ActivationPhase → Prop
  | .finished (some .rolledBack) => False
  | .restored _ _ => False
  | _ => True

theorem Moves.not_rollsBack (hmoves : Moves agent after call phase)
    (hquiet : Quiet phase) (other : ℕ) : ¬ RollsBack agent after other := by
  rintro ⟨hchanged, hend⟩
  by_cases hsame : other = call
  · subst hsame
    rw [hmoves.self] at hend
    rcases hend with rfl | ⟨asked, record, rfl⟩
    · exact hquiet
    · exact hquiet
  · exact hchanged (hmoves.other hsame).symm

theorem JournaledPhase.transfer (hphase : JournaledPhase base device identity agent call phase)
    (hkept : agent.lock = some call → after.lock = some call ∧
      (SameInventory agent.document base → SameInventory after.document base)) :
    JournaledPhase base device identity after call phase := by
  cases phase with
  | enrolled asked =>
    obtain ⟨hid, hlock, hsame⟩ := hphase
    obtain ⟨hafter, hdoc⟩ := hkept hlock
    exact ⟨hid, hafter, hdoc hsame⟩
  | prepared asked record =>
    obtain ⟨hid, hsnap, hlock, hsame⟩ := hphase
    obtain ⟨hafter, hdoc⟩ := hkept hlock
    exact ⟨hid, hsnap, hafter, hdoc hsame⟩
  | loaded asked row =>
    cases row with
    | none => exact hphase
    | some row => exact hphase
  | waiting => trivial
  | activated asked record => exact hphase
  | restored asked record => exact hphase
  | finished answer => trivial

theorem FreshPhase.transfer (hphase : FreshPhase agent call phase)
    (hkept : agent.lock = some call → after.lock = some call) :
    FreshPhase after call phase := by
  cases phase with
  | enrolled asked => exact hkept hphase
  | loaded asked row => exact hphase
  | waiting => trivial
  | finished answer => trivial
  | prepared asked record => exact hphase
  | activated asked record => exact hphase
  | restored asked record => exact hphase

theorem Fresh.move (hfresh : Fresh start agent) (hmoves : Moves agent after call phase)
    (hlock : ∀ other, other ≠ call → agent.lock = some other → after.lock = some other)
    (henrolled : EnrolledOnly agent.document after.document)
    (hjournal : after.journal = none) (hphase : FreshPhase after call phase) :
    Fresh start after := by
  constructor
  case enrolled => exact hfresh.enrolled.trans henrolled
  case journal => exact hjournal
  case phases =>
    intro other
    by_cases hsame : other = call
    · subst hsame
      rw [hmoves.self]
      exact hphase
    · rw [hmoves.other hsame]
      exact (hfresh.phases other).transfer (hlock other hsame)

theorem Journaled.move (hjour : Journaled base device identity start agent)
    (hmoves : Moves agent after call phase)
    (hlock : ∀ other, other ≠ call → agent.lock = some other → after.lock = some other ∧
        (SameInventory agent.document base → SameInventory after.document base))
    (hstaged : Staged base device after.document)
    (hjournal : ∃ row, after.journal = some row ∧
      JournaledRow base device identity after row)
    (hphase : JournaledPhase base device identity after call phase) :
    Journaled base device identity start after := by
  refine { hjour with staged := ?staged, journal := ?journal, phases := ?phases }
  case staged => exact hstaged
  case journal => exact hjournal
  case phases =>
    intro other
    by_cases hsame : other = call
    · subst hsame
      rw [hmoves.self]
      exact hphase
    · rw [hmoves.other hsame]
      exact (hjour.phases other).transfer (hlock other hsame)

theorem JournaledRow.move {row : JournalRow} (hrow : JournaledRow base device identity agent row)
    (hmoves : Moves agent after call phase)
    (hdoc : row.state = .rolledBack → SameInventory agent.document base →
      SameInventory after.document base)
    (hphase : row.state = .rolledBack →
      ∀ asked record, phase ≠ .prepared asked record) :
    JournaledRow base device identity after row := by
  refine { hrow with rolledBack := ?rolledBack }
  case rolledBack =>
    intro hstate
    obtain ⟨hsame, hunprepared⟩ := hrow.rolledBack hstate
    refine ⟨hdoc hstate hsame, ?_⟩
    intro other
    by_cases hother : other = call
    · subst hother
      rw [hmoves.self]
      exact hphase hstate
    · rw [hmoves.other hother]
      exact hunprepared other

theorem Journaled.device_mem (hjour : Journaled base device identity start agent) :
    device ∈ base.devices := by
  obtain ⟨family, _, hfound⟩ := hjour.commissioned
  exact (InventoryDocument.commissioningDevice_mem hfound).1

theorem Journaled.document_valid (agent : CommissioningAgent) :
    agent.document.Valid :=
  agent.registry.facts

theorem Journaled.rolledBack (hstaged : Staged base device agent.document)
    (hafter : Journaled base device identity start after)
    (hsame : SameInventory after.document base) :
    RolledBack start agent after := by
  obtain ⟨row, hjournal, hrow⟩ := hafter.journal
  constructor
  case restored => exact hafter.enrolled.of_same hsame
  case others =>
    refine ⟨row, hjournal, ?_⟩
    rw [hrow.snapshot]
    exact hstaged.othersKept hsame

theorem Journaled.quietStep (hafter : Journaled base device identity start after)
    (hmoves : Moves agent after call phase) (hquiet : Quiet phase) :
    StepSound start agent after :=
  ⟨.inr ⟨base, device, identity, hafter⟩, fun other hrollback =>
    absurd hrollback (hmoves.not_rollsBack hquiet other)⟩

theorem Journaled.rollbackStep (hbefore : Journaled base device identity start agent)
    (hafter : Journaled base device identity start after)
    (hsame : SameInventory after.document base) :
    StepSound start agent after :=
  ⟨.inr ⟨base, device, identity, hafter⟩, fun _ _ =>
    Journaled.rolledBack hbefore.staged hafter hsame⟩

theorem Fresh.quietStep (hafter : Fresh start after)
    (hmoves : Moves agent after call phase) (hquiet : Quiet phase) :
    StepSound start agent after :=
  ⟨.inl hafter, fun other hrollback =>
    absurd hrollback (hmoves.not_rollsBack hquiet other)⟩

end Update

end CommissioningAgent

end Nexolab
