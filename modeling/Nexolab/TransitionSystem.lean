import Mathlib.Tactic

/-!
# Transition systems

A component is given by a state, a type of actions and a partial step; an
action whose step is `none` is not enabled in that state.  Runs are finite
lists of actions.  The module packages the induction over runs once: an
invariant which every admissible step preserves holds in every state a run
reaches.  The guard of `Reaches` restricts the steps of a run, so that a
property of all runs whose steps meet a condition is stated with the same
relation as a property of all runs.  The tables of a state are partial functions
of their keys, which a step updates.
-/

namespace Nexolab

variable {σ τ α β : Type*}

/-- Execute a list of actions; the first action which is not enabled stops
the run without a result. -/
def runFrom (step : σ → α → Option σ) : σ → List α → Option σ
  | state, [] => some state
  | state, action :: rest =>
    match step state action with
    | none => none
    | some next => runFrom step next rest

@[simp] theorem runFrom_nil (step : σ → α → Option σ) (state : σ) :
    runFrom step state [] = some state := rfl

theorem runFrom_cons_of_step {step : σ → α → Option σ} {state next : σ} {action : α}
    (hstep : step state action = some next) (rest : List α) :
    runFrom step state (action :: rest) = runFrom step next rest := by
  simp [runFrom, hstep]

theorem runFrom_cons_eq_some {step : σ → α → Option σ} {state last : σ} {action : α} {rest : List α}
    (hrun : runFrom step state (action :: rest) = some last) :
    ∃ next, step state action = some next ∧ runFrom step next rest = some last := by
  cases hstep : step state action with
  | none => simp [runFrom, hstep] at hrun
  | some next =>
    refine ⟨next, rfl, ?_⟩
    simpa [runFrom, hstep] using hrun

/-- `Reaches step guard before after` holds when `after` is reached from
`before` by steps which all satisfy the guard in the state they start from. -/
inductive Reaches (step : σ → α → Option σ) (guard : σ → α → Prop) :
    σ → σ → Prop
  | refl (state : σ) : Reaches step guard state state
  | tail {before middle after : σ} {action : α} :
      Reaches step guard before middle → guard middle action →
      step middle action = some after → Reaches step guard before after

namespace Reaches

variable {step : σ → α → Option σ} {guard : σ → α → Prop}

theorem single {before after : σ} {action : α}
    (hguard : guard before action) (hstep : step before action = some after) :
    Reaches step guard before after :=
  .tail (.refl before) hguard hstep

theorem trans {first second third : σ} (hfirst : Reaches step guard first second)
    (hsecond : Reaches step guard second third) :
    Reaches step guard first third := by
  induction hsecond with
  | refl => exact hfirst
  | tail _ hguard hstep ih => exact .tail ih hguard hstep

theorem invariant {P : σ → Prop}
    (hpreserve : ∀ state action next, P state → guard state action →
      step state action = some next → P next)
    {before after : σ} (hreach : Reaches step guard before after)
    (hbefore : P before) : P after := by
  induction hreach with
  | refl => exact hbefore
  | tail _ hguard hstep ih => exact hpreserve _ _ _ ih hguard hstep

end Reaches

/-- Every step of the executed run meets the guard in the state it starts
from. -/
def StepsMeet (step : σ → α → Option σ) (guard : σ → α → Prop) :
    σ → List α → Prop
  | _, [] => True
  | state, action :: rest =>
    guard state action ∧ ∀ next, step state action = some next → StepsMeet step guard next rest

instance StepsMeet.decidable (step : σ → α → Option σ) (guard : σ → α → Prop)
    [hguard : ∀ state action, Decidable (guard state action)] :
    ∀ state actions, Decidable (StepsMeet step guard state actions)
  | _, [] => .isTrue trivial
  | state, action :: rest =>
    match hstep : step state action with
    | none => decidable_of_iff (guard state action) (by simp [StepsMeet, hstep])
    | some next =>
      have := StepsMeet.decidable step guard next rest
      decidable_of_iff (guard state action ∧ StepsMeet step guard next rest)
        (by simp [StepsMeet, hstep])

theorem runFrom_append (step : σ → α → Option σ) (state : σ) (first second : List α) :
    runFrom step state (first ++ second) = (runFrom step state first).bind fun middle =>
        runFrom step middle second := by
  induction first generalizing state with
  | nil => rfl
  | cons action rest ih =>
    cases hstep : step state action with
    | none => simp [runFrom, hstep]
    | some next => simp [runFrom, hstep, ih]

variable {actions : List α}

variable {state : σ}

theorem StepsMeet.of_prefixes {step : σ → α → Option σ} {guard : σ → α → Prop}
    (hguard : ∀ done action rest, actions = done ++ action :: rest →
      ∀ middle, runFrom step state done = some middle → guard middle action) :
    StepsMeet step guard state actions := by
  induction actions generalizing state with
  | nil => exact trivial
  | cons action rest ih =>
    refine ⟨hguard [] action rest rfl state rfl, ?_⟩
    intro next hstep
    apply ih
    intro done other remaining hsplit middle hrun
    apply hguard (action :: done) other remaining
    · rw [hsplit]
      rfl
    · rw [runFrom_cons_of_step hstep]
      exact hrun

theorem StepsMeet.split {step : σ → α → Option σ} {guard : σ → α → Prop}
    {done rest : List α} (hmeet : StepsMeet step guard state (done ++ rest)) :
    StepsMeet step guard state done ∧ ∀ middle, runFrom step state done = some middle →
        StepsMeet step guard middle rest := by
  induction done generalizing state with
  | nil =>
    refine ⟨trivial, ?_⟩
    intro middle hrun
    cases hrun
    exact hmeet
  | cons action done ih =>
    obtain ⟨hhead, htail⟩ := hmeet
    constructor
    · exact ⟨hhead, fun next hstep => (ih (htail next hstep)).1⟩
    · intro middle hrun
      obtain ⟨next, hstep, hdone⟩ := runFrom_cons_eq_some hrun
      exact (ih (htail next hstep)).2 middle hdone

theorem Reaches.of_stepsMeet {step : σ → α → Option σ} {guard : σ → α → Prop} {before after : σ}
    (hguard : StepsMeet step guard before actions)
    (hrun : runFrom step before actions = some after) :
    Reaches step guard before after := by
  induction actions generalizing before with
  | nil =>
    simp only [runFrom_nil, Option.some.injEq] at hrun
    subst after
    exact .refl before
  | cons action rest ih =>
    obtain ⟨hhead, htail⟩ := hguard
    obtain ⟨next, hstep, hrest⟩ := runFrom_cons_eq_some hrun
    exact (Reaches.single hhead hstep).trans (ih (htail next hstep) hrest)

theorem StepsMeet.append {step : σ → α → Option σ} {guard : σ → α → Prop}
    {done rest : List α} (hdone : StepsMeet step guard state done)
    (hrest : ∀ middle, runFrom step state done = some middle →
      StepsMeet step guard middle rest) :
    StepsMeet step guard state (done ++ rest) := by
  induction done generalizing state with
  | nil => exact hrest state rfl
  | cons action done ih =>
    obtain ⟨hhead, htail⟩ := hdone
    refine ⟨hhead, fun next hstep => ih (htail next hstep) fun middle hrun => ?_⟩
    exact hrest middle ((runFrom_cons_of_step hstep done).trans hrun)

theorem StepsMeet.of_forall {step : σ → α → Option σ} {guard : σ → α → Prop}
    (hguard : ∀ state, ∀ action ∈ actions, guard state action) (state : σ) :
    StepsMeet step guard state actions := by
  induction actions generalizing state with
  | nil => exact trivial
  | cons action rest ih =>
    refine ⟨hguard state action List.mem_cons_self, fun next _ => ?_⟩
    exact ih (fun other action haction =>
      hguard other action (List.mem_cons_of_mem _ haction)) next

theorem StepsMeet.of_invariant
    {step : σ → α → Option σ} {guard conclusion : σ → α → Prop} {P : σ → Prop}
    (hpreserve : ∀ state action next, P state → guard state action →
      step state action = some next → P next)
    (himplies : ∀ state action, P state → guard state action → conclusion state action)
    (hstate : P state) (hmeet : StepsMeet step guard state actions) :
    StepsMeet step conclusion state actions := by
  induction actions generalizing state with
  | nil => exact trivial
  | cons action rest ih =>
    obtain ⟨hhead, htail⟩ := hmeet
    constructor
    · exact himplies state action hstate hhead
    · intro next hstep
      exact ih (hpreserve state action next hstate hhead hstep) (htail next hstep)

theorem Reaches.of_runFrom {step : σ → α → Option σ} {guard : σ → α → Prop} {before after : σ}
    (hguard : ∀ state, ∀ action ∈ actions, guard state action)
    (hrun : runFrom step before actions = some after) :
    Reaches step guard before after :=
  .of_stepsMeet (.of_forall hguard before) hrun

theorem Reaches.exists_of_runFrom {step : σ → α → Option σ} {guard : σ → α → Prop}
    {before : σ} {P : σ → Prop} (actions : List α)
    (hguard : ∀ state, ∀ action ∈ actions, guard state action)
    (hrun : ∃ after ∈ runFrom step before actions, P after) :
    ∃ after, Reaches step guard before after ∧ P after := by
  obtain ⟨after, hafter, hholds⟩ := hrun
  exact ⟨after, .of_runFrom hguard hafter, hholds⟩

theorem runFrom_of_foldlM {ε : Type*} {f : σ → α → Except ε σ} {state last : σ} {items : List α}
    (hfold : items.foldlM f state = .ok last) :
    runFrom (fun current item => (f current item).toOption) state items = some last := by
  induction items generalizing state with
  | nil =>
    cases hfold
    rfl
  | cons item rest ih =>
    rw [List.foldlM_cons] at hfold
    cases hstep : f state item with
    | error error =>
      rw [hstep] at hfold
      cases hfold
    | ok next =>
      rw [hstep] at hfold
      have hsome : (f state item).toOption = some next := by
        rw [hstep]
        rfl
      rw [runFrom_cons_of_step hsome]
      exact ih hfold

/-- The simulation rule: related states which step to related states under a
translation of the actions execute related runs. -/
theorem runFrom_simulates {step : σ → α → Option σ} {otherStep : τ → β → Option τ}
    {translate : α → β} {guard : σ → α → Prop} {related : σ → τ → Prop}
    (hsimulates : ∀ state other action next, related state other →
      guard state action → step state action = some next →
      ∃ otherNext, otherStep other (translate action) = some otherNext ∧
        related next otherNext)
    {state last : σ} {other : τ} (hrelated : related state other)
    (hguard : StepsMeet step guard state actions) (hrun : runFrom step state actions = some last) :
    ∃ otherLast, runFrom otherStep other (actions.map translate) =
        some otherLast ∧ related last otherLast := by
  induction actions generalizing state other with
  | nil =>
    rw [runFrom_nil] at hrun
    cases hrun
    exact ⟨other, rfl, hrelated⟩
  | cons action rest ih =>
    obtain ⟨hhead, htail⟩ := hguard
    obtain ⟨next, hstep, hrest⟩ := runFrom_cons_eq_some hrun
    obtain ⟨otherNext, hother, hnext⟩ :=
      hsimulates state other action next hrelated hhead hstep
    obtain ⟨otherLast, hlast, hrelatedLast⟩ :=
      ih hnext (htail next hstep) hrest
    refine ⟨otherLast, ?_, hrelatedLast⟩
    rw [List.map_cons, runFrom_cons_of_step hother]
    exact hlast

/-! ## Tables of a state -/

theorem update_eq_some {κ ν : Type*} [DecidableEq κ] {table : κ → Option ν}
    {key other : κ} {value found : ν}
    (hfound : Function.update table key (some value) other = some found) :
    other = key ∧ found = value ∨ other ≠ key ∧ table other = some found := by
  by_cases hother : other = key
  · subst hother
    rw [Function.update_self] at hfound
    cases hfound
    exact .inl ⟨rfl, rfl⟩
  · rw [Function.update_of_ne hother] at hfound
    exact .inr ⟨hother, hfound⟩

end Nexolab
