import Nexolab.FallibleList

/-!
# Sequences of reconciliation passes

A pass looks a document over and returns it with the changes it has made.  The
passes of a sequence run one after another; a pass which changes something
commits the new document.  The sequence reaches a fixpoint in one run when
every pass is settled by itself and no later pass unsettles it.
-/

namespace Nexolab

structure ReconciliationPass (ε δ χ ι : Type) where
  label : ι
  run : δ → Except ε (δ × List χ)

structure PassCommit (δ χ ι : Type) where
  label : ι
  document : δ
  changes : List χ

section Passes

variable {ε δ χ ι : Type}

def ReconciliationPass.Settled (pass : ReconciliationPass ε δ χ ι) (document : δ) : Prop :=
  pass.run document = .ok (document, [])

def runPasses : List (ReconciliationPass ε δ χ ι) → δ → Except ε (δ × List (PassCommit δ χ ι))
  | [], document => .ok (document, [])
  | pass :: rest, document =>
    match pass.run document with
    | .error error => .error error
    | .ok (_, []) => runPasses rest document
    | .ok (updated, change :: changes) =>
      match runPasses rest updated with
      | .error error => .error error
      | .ok (final, commits) =>
        .ok (final, ⟨pass.label, updated, change :: changes⟩ :: commits)

variable {commits : List (PassCommit δ χ ι)} {document final : δ}
  {passes : List (ReconciliationPass ε δ χ ι)}

theorem runPasses_cons_cases {pass : ReconciliationPass ε δ χ ι}
    {rest : List (ReconciliationPass ε δ χ ι)}
    (hrun : runPasses (pass :: rest) document = .ok (final, commits)) :
    (∃ updated, pass.run document = .ok (updated, []) ∧
        runPasses rest document = .ok (final, commits)) ∨
      (∃ updated changes others, changes ≠ [] ∧ pass.run document = .ok (updated, changes) ∧
        runPasses rest updated = .ok (final, others) ∧
        commits = ⟨pass.label, updated, changes⟩ :: others) := by
  unfold runPasses at hrun
  split at hrun
  next => cases hrun
  next updated hpass => exact .inl ⟨updated, hpass, hrun⟩
  next updated change changes hpass =>
    split at hrun
    next => cases hrun
    next last others hrest =>
      cases hrun
      exact .inr ⟨updated, _, others, List.cons_ne_nil _ _, hpass, hrest, rfl⟩

theorem runPasses_settled {document : δ} (hsettled : ∀ pass ∈ passes, pass.Settled document) :
    runPasses passes document = .ok (document, []) := by
  induction passes with
  | nil => rfl
  | cons pass rest ih =>
    have hfirst : pass.run document = .ok (document, []) :=
      hsettled pass List.mem_cons_self
    unfold runPasses
    rw [hfirst]
    exact ih fun other hother => hsettled other (List.mem_cons_of_mem _ hother)

theorem runPasses_without_commits (hrun : runPasses passes document = .ok (final, [])) :
    final = document ∧ ∀ pass ∈ passes, ∃ updated, pass.run document = .ok (updated, []) := by
  induction passes with
  | nil =>
    cases hrun
    exact ⟨rfl, fun _ hpass => nomatch hpass⟩
  | cons pass rest ih =>
    rcases runPasses_cons_cases hrun with
      ⟨updated, hpass, hnext⟩ | ⟨_, _, _, _, _, _, hcommits⟩
    · obtain ⟨hfinal, hrest⟩ := ih hnext
      refine ⟨hfinal, ?_⟩
      intro other hother
      rcases List.mem_cons.mp hother with rfl | hmem
      · exact ⟨updated, hpass⟩
      · exact hrest other hmem
    · cases hcommits

theorem runPasses_keeps {P : δ → Prop}
    (hkeep : ∀ pass ∈ passes, ∀ before after changes, P before →
      pass.run before = .ok (after, changes) → P after)
    (hrun : runPasses passes document = .ok (final, commits)) (hdoc : P document) : P final := by
  induction passes generalizing document commits with
  | nil =>
    cases hrun
    exact hdoc
  | cons pass rest ih =>
    have hrest : ∀ other ∈ rest, ∀ before after changes, P before →
        other.run before = .ok (after, changes) → P after :=
      fun other hother => hkeep other (List.mem_cons_of_mem _ hother)
    rcases runPasses_cons_cases hrun with
      ⟨_, _, hnext⟩ | ⟨updated, changes, others, _, hpass, hnext, _⟩
    · exact ih hrest hnext hdoc
    · exact ih hrest hnext (hkeep pass List.mem_cons_self _ _ _ hdoc hpass)

theorem settled_of_runPasses {P : δ → Prop}
    (hsettles : ∀ pass ∈ passes, ∀ before after changes, P before →
      pass.run before = .ok (after, changes) →
      P after ∧ pass.Settled after ∧ (changes = [] → after = before))
    (horder : passes.Pairwise fun earlier later => ∀ before after changes,
      P before → earlier.Settled before →
      later.run before = .ok (after, changes) → earlier.Settled after)
    (hrun : runPasses passes document = .ok (final, commits))
    (hdoc : P document) : ∀ pass ∈ passes, pass.Settled final := by
  induction passes generalizing document commits with
  | nil => simp
  | cons pass rest ih =>
    rw [List.pairwise_cons] at horder
    have hrest : ∀ other ∈ rest, ∀ before after changes, P before →
        other.run before = .ok (after, changes) →
        P after ∧ other.Settled after ∧ (changes = [] → after = before) :=
      fun other hother => hsettles other (List.mem_cons_of_mem _ hother)
    obtain ⟨start, others, hnext, hstart, hsettled⟩ : ∃ start others,
        runPasses rest start = .ok (final, others) ∧ P start ∧ pass.Settled start := by
      rcases runPasses_cons_cases hrun with
        ⟨updated, hpass, hnext⟩ | ⟨updated, changes, others, _, hpass, hnext, _⟩
      · obtain ⟨_, hsettled, hsame⟩ :=
          hsettles pass List.mem_cons_self _ _ _ hdoc hpass
        rw [hsame rfl] at hsettled
        exact ⟨document, _, hnext, hdoc, hsettled⟩
      · obtain ⟨hupdated, hsettled, _⟩ :=
          hsettles pass List.mem_cons_self _ _ _ hdoc hpass
        exact ⟨updated, others, hnext, hupdated, hsettled⟩
    have hkept : P final ∧ pass.Settled final := by
      refine runPasses_keeps (P := fun d => P d ∧ pass.Settled d) ?_ hnext
        ⟨hstart, hsettled⟩
      intro other hother before after changes hbefore hother'
      exact ⟨(hrest other hother _ _ _ hbefore.1 hother').1,
        horder.1 other hother _ _ _ hbefore.1 hbefore.2 hother'⟩
    intro other hother
    rcases List.mem_cons.mp hother with rfl | hmem
    · exact hkept.2
    · exact ih hrest horder.2 hnext hstart other hmem

/-- The commits of a run carry consecutive revisions and lead from the document
to the last one. -/
structure CommitsFrom (revision : δ → ℕ) (V : δ → Prop) (document final : δ)
    (commits : List (PassCommit δ χ ι)) : Prop where
  revisions : commits.map (fun commit => revision commit.document) =
    List.range' (revision document + 1) commits.length
  valid : ∀ commit ∈ commits, V commit.document
  final_revision : revision final = revision document + commits.length
  last : (document :: commits.map PassCommit.document).getLast? = some final

variable {V : δ → Prop} {revision : δ → ℕ}

theorem CommitsFrom.nil (document : δ) :
    CommitsFrom (χ := χ) (ι := ι) revision V document document [] where
  revisions := rfl
  valid := fun _ hcommit => absurd hcommit List.not_mem_nil
  final_revision := rfl
  last := rfl

theorem CommitsFrom.cons {commit : PassCommit δ χ ι} {others : List (PassCommit δ χ ι)}
    (hothers : CommitsFrom revision V commit.document final others) (hvalid : V commit.document)
    (hrev : revision commit.document = revision document + 1) :
    CommitsFrom revision V document final (commit :: others) := by
  constructor
  case revisions =>
    rw [List.map_cons, hothers.revisions, List.length_cons, List.range'_succ, hrev]
  case valid =>
    intro other hother
    rcases List.mem_cons.mp hother with rfl | hmem
    · exact hvalid
    · exact hothers.valid other hmem
  case final_revision =>
    rw [hothers.final_revision, hrev, List.length_cons]
    omega
  case last =>
    rw [List.map_cons, List.getLast?_cons_cons]
    exact hothers.last

theorem commitsFrom_of_runPasses
    (hstep : ∀ pass ∈ passes, ∀ before after changes, V before →
      pass.run before = .ok (after, changes) → changes ≠ [] →
      V after ∧ revision after = revision before + 1)
    (hrun : runPasses passes document = .ok (final, commits)) (hdoc : V document) :
    CommitsFrom revision V document final commits := by
  induction passes generalizing document commits with
  | nil =>
    cases hrun
    exact CommitsFrom.nil _
  | cons pass rest ih =>
    have hrest : ∀ other ∈ rest, ∀ before after changes, V before →
        other.run before = .ok (after, changes) → changes ≠ [] →
        V after ∧ revision after = revision before + 1 :=
      fun other hother => hstep other (List.mem_cons_of_mem _ hother)
    rcases runPasses_cons_cases hrun with
      ⟨_, _, hnext⟩ | ⟨updated, changes, others, hchanges, hpass, hnext, rfl⟩
    · exact ih hrest hnext hdoc
    · obtain ⟨hvalid, hrev⟩ :=
        hstep pass List.mem_cons_self _ _ _ hdoc hpass hchanges
      exact (ih hrest hnext hvalid).cons hvalid hrev

end Passes

end Nexolab
