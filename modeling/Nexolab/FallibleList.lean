import Mathlib.Tactic

/-!
# Fallible computations over lists

Inversion lemmas for `Except`: a successful bind comes from two successful
steps, and the elements of a successful traversal come from the list.
-/

namespace Nexolab

variable {ε α β : Type}

theorem bind_eq_ok {first : Except ε α} {next : α → Except ε β} {result : β} :
    (first >>= next) = .ok result ↔ ∃ value, first = .ok value ∧ next value = .ok result := by
  cases first with
  | error error => simp [bind, Except.bind]
  | ok value => simp [bind, Except.bind]

theorem ok_bind {value : α} {next : α → Except ε β} :
    ((.ok value : Except ε α) >>= next) = next value := rfl

theorem pure_eq_ok {value result : α} :
    (pure value : Except ε α) = .ok result ↔ value = result := by
  simp [pure, Except.pure]

variable {items : List α}

theorem exists_mem_of_mapM_ok {f : α → Except ε β} {results : List β}
    (hmap : items.mapM f = .ok results) {result : β} (hres : result ∈ results) :
    ∃ item ∈ items, f item = .ok result := by
  induction items generalizing results with
  | nil =>
    simp only [List.mapM_nil, pure_eq_ok] at hmap
    subst hmap
    cases hres
  | cons item rest ih =>
    rw [List.mapM_cons, bind_eq_ok] at hmap
    obtain ⟨first, hfirst, hrest⟩ := hmap
    rw [bind_eq_ok] at hrest
    obtain ⟨others, hothers, hresults⟩ := hrest
    cases hresults
    rcases List.mem_cons.mp hres with rfl | hmem
    · exact ⟨item, List.mem_cons_self, hfirst⟩
    · obtain ⟨source, hsrc, hf⟩ := ih hothers hmem
      exact ⟨source, List.mem_cons_of_mem _ hsrc, hf⟩

theorem mapM_total {f : α → Except ε β} (htotal : ∀ item ∈ items, ∃ result, f item = .ok result) :
    ∃ results, items.mapM f = .ok results := by
  induction items with
  | nil => exact ⟨[], rfl⟩
  | cons item rest ih =>
    obtain ⟨result, hres⟩ := htotal item List.mem_cons_self
    obtain ⟨results, hresults⟩ := ih fun other hother =>
      htotal other (List.mem_cons_of_mem _ hother)
    refine ⟨result :: results, ?_⟩
    rw [List.mapM_cons, hres, hresults]
    rfl

theorem forall₂_of_mapM_ok {f : α → Except ε β} {results : List β}
    (hmap : items.mapM f = .ok results) :
    List.Forall₂ (fun item result => f item = .ok result) items results := by
  induction items generalizing results with
  | nil =>
    simp only [List.mapM_nil, pure_eq_ok] at hmap
    subst hmap
    exact .nil
  | cons item rest ih =>
    rw [List.mapM_cons, bind_eq_ok] at hmap
    obtain ⟨first, hfirst, hrest⟩ := hmap
    rw [bind_eq_ok] at hrest
    obtain ⟨others, hothers, hresults⟩ := hrest
    cases hresults
    exact .cons hfirst (ih hothers)

theorem mapM_map_ok {γ : Type} {f : α → Except ε β} {g : γ → α} {h : γ → β}
    {items : List γ} (hall : ∀ item ∈ items, f (g item) = .ok (h item)) :
    (items.map g).mapM f = .ok (items.map h) := by
  induction items with
  | nil => rfl
  | cons item rest ih =>
    have hrest := ih fun other hother =>
      hall other (List.mem_cons_of_mem _ hother)
    rw [List.map_cons, List.mapM_cons, hall item List.mem_cons_self, hrest]
    rfl

theorem mapM_eq_ok_map {f g : α → Except ε β} {h : β → β} {results : List β}
    (hmap : items.mapM f = .ok results)
    (hall : ∀ item result, f item = .ok result → g item = .ok (h result)) :
    items.mapM g = .ok (results.map h) := by
  have hrelated := forall₂_of_mapM_ok hmap
  clear hmap
  induction hrelated with
  | nil => rfl
  | cons hfirst _ ih =>
    rw [List.mapM_cons, hall _ _ hfirst, ih]
    rfl

theorem find?_forall₂ {R : α → β → Prop} {results : List β}
    (hrelated : List.Forall₂ R items results) {p : α → Bool} {q : β → Bool}
    (hsame : ∀ item result, R item result → p item = q result) :
    Option.Rel R (items.find? p) (results.find? q) := by
  induction hrelated with
  | nil => exact .none
  | cons hhead _ ih =>
    rw [List.find?_cons, List.find?_cons, hsame _ _ hhead]
    split
    · exact .some hhead
    · exact ih

theorem exists_of_forall₂ {R : α → β → Prop}
    {results : List β} (hrelated : List.Forall₂ R items results) {item : α}
    (hitem : item ∈ items) : ∃ result ∈ results, R item result := by
  induction hrelated with
  | nil => cases hitem
  | cons hhead _ ih =>
    rcases List.mem_cons.mp hitem with rfl | hmem
    · exact ⟨_, List.mem_cons_self, hhead⟩
    · obtain ⟨result, hres, hrelation⟩ := ih hmem
      exact ⟨result, List.mem_cons_of_mem _ hres, hrelation⟩

theorem mem_of_filterAuxM_ok {p : α → Except ε Bool} {items kept results : List α}
    (hfilter : List.filterAuxM p items kept = .ok results) {result : α} (hres : result ∈ results) :
    result ∈ items ∨ result ∈ kept := by
  induction items generalizing kept with
  | nil =>
    simp only [List.filterAuxM, pure_eq_ok] at hfilter
    subst hfilter
    exact .inr hres
  | cons item rest ih =>
    unfold List.filterAuxM at hfilter
    rw [bind_eq_ok] at hfilter
    obtain ⟨verdict, _, hrest⟩ := hfilter
    rcases ih hrest with hmem | hmem
    · exact .inl (List.mem_cons_of_mem _ hmem)
    · cases verdict with
      | false => exact .inr hmem
      | true =>
        rcases List.mem_cons.mp hmem with rfl | hkept
        · exact .inl List.mem_cons_self
        · exact .inr hkept

theorem mem_of_filterM_ok {p : α → Except ε Bool} {items results : List α}
    (hfilter : items.filterM p = .ok results) {result : α}
    (hres : result ∈ results) : result ∈ items := by
  unfold List.filterM at hfilter
  rw [bind_eq_ok] at hfilter
  obtain ⟨reversed, haux, hpure⟩ := hfilter
  cases hpure
  rcases mem_of_filterAuxM_ok haux (List.mem_reverse.mp hres) with
    hmem | hmem
  · exact hmem
  · cases hmem

theorem filterAuxM_total {p : α → Except ε Bool}
    (htotal : ∀ item ∈ items, ∃ verdict, p item = .ok verdict)
    (kept : List α) : ∃ results, List.filterAuxM p items kept = .ok results := by
  induction items generalizing kept with
  | nil => exact ⟨kept, rfl⟩
  | cons item rest ih =>
    obtain ⟨verdict, hverdict⟩ := htotal item List.mem_cons_self
    unfold List.filterAuxM
    rw [hverdict]
    exact ih (fun other hother => htotal other (List.mem_cons_of_mem _ hother)) _

theorem filterM_total {p : α → Except ε Bool}
    (htotal : ∀ item ∈ items, ∃ verdict, p item = .ok verdict) :
    ∃ results, items.filterM p = .ok results := by
  obtain ⟨results, haux⟩ := filterAuxM_total htotal []
  refine ⟨results.reverse, ?_⟩
  unfold List.filterM
  rw [haux]
  rfl

/-! ## Folds -/

section Fold

variable {σ : Type} {f : σ → α → Except ε σ}

theorem foldlM_cons_eq_ok {item : α} {rest : List α} {first last : σ} :
    (item :: rest).foldlM f first = .ok last ↔
      ∃ middle, f first item = .ok middle ∧ rest.foldlM f middle = .ok last := by
  rw [List.foldlM_cons, bind_eq_ok]

theorem foldlM_invariant_of_mem {P : σ → Prop} {items : List α} {first last : σ}
    (hpreserve : ∀ before item after, item ∈ items → P before →
      f before item = .ok after → P after)
    (hfold : items.foldlM f first = .ok last) (hfirst : P first) :
    P last := by
  induction items generalizing first with
  | nil =>
    cases hfold
    exact hfirst
  | cons item rest ih =>
    obtain ⟨middle, hmiddle, hrest⟩ := foldlM_cons_eq_ok.mp hfold
    refine ih (fun before other after hother => ?_) hrest
      (hpreserve first item middle List.mem_cons_self hfirst hmiddle)
    exact hpreserve before other after (List.mem_cons_of_mem _ hother)

theorem foldlM_invariant {P : σ → Prop} {items : List α} {first last : σ}
    (hpreserve : ∀ before item after, P before → f before item = .ok after → P after)
    (hfold : items.foldlM f first = .ok last) (hfirst : P first) :
    P last :=
  foldlM_invariant_of_mem (fun before item after _ => hpreserve before item after) hfold hfirst

theorem exists_step_of_foldlM_ok {items : List α} {first last : σ}
    (hfold : items.foldlM f first = .ok last) {item : α} (hitem : item ∈ items) :
    ∃ before after, f before item = .ok after := by
  induction items generalizing first with
  | nil => cases hitem
  | cons head rest ih =>
    obtain ⟨middle, hmiddle, hrest⟩ := foldlM_cons_eq_ok.mp hfold
    rcases List.mem_cons.mp hitem with rfl | hmem
    · exact ⟨first, middle, hmiddle⟩
    · exact ih hrest hmem

theorem foldlM_fixed {items : List α} {state : σ}
    (hfixed : ∀ item ∈ items, f state item = .ok state) :
    items.foldlM f state = .ok state := by
  induction items with
  | nil => rfl
  | cons head rest ih =>
    rw [foldlM_cons_eq_ok]
    exact ⟨state, hfixed head List.mem_cons_self,
      ih fun item hitem => hfixed item (List.mem_cons_of_mem _ hitem)⟩

end Fold

end Nexolab
