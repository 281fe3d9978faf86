import Mathlib.Tactic

/-!
# Histories of half-open validity intervals

A table keeps the rows of many histories.  A new row closes the last one of its
history where it starts itself, so that the rows follow one another; what is looked up
at a time is not touched by what starts later.
-/

namespace Nexolab

variable {κ τ α : Type*}

/-- A row of the history of a key; an open row has no end. -/
structure HistoryRow (κ τ α : Type*) where
  key : κ
  validFrom : τ
  validTo : Option τ
  revision : ℕ
  content : α
  deriving DecidableEq

namespace HistoryRow

/-- What is recorded of a row, whether it has been closed or not. -/
def identity (row : HistoryRow κ τ α) : τ × ℕ × α :=
  (row.validFrom, row.revision, row.content)

def close (row : HistoryRow κ τ α) (time : τ) : HistoryRow κ τ α :=
  { row with validTo := some time }

@[simp] theorem close_validTo (row : HistoryRow κ τ α) (time : τ) :
    (row.close time).validTo = some time := rfl

section Order

variable [LinearOrder τ]

def covers (row : HistoryRow κ τ α) (time : τ) : Bool :=
  decide (row.validFrom ≤ time) && row.validTo.all fun bound => decide (time < bound)

theorem covers_iff {row : HistoryRow κ τ α} {time : τ} :
    row.covers time = true ↔ row.validFrom ≤ time ∧ ∀ bound ∈ row.validTo, time < bound := by
  unfold covers
  rw [Bool.and_eq_true, decide_eq_true_eq, Option.all_eq_true]
  simp

def rank (row : HistoryRow κ τ α) : τ ×ₗ ℕ := toLex (row.validFrom, row.revision)

def selected (rows : List (HistoryRow κ τ α)) (time : τ) : List (τ × ℕ × α) :=
  (rows.filter fun row => row.covers time).map identity

def latest (rows : List (HistoryRow κ τ α)) : Option (HistoryRow κ τ α) :=
  rows.argmax rank

end Order

section Table

variable [DecidableEq κ]

def ofKey (key : κ) (table : List (HistoryRow κ τ α)) : List (HistoryRow κ τ α) :=
  table.filter fun row => row.key = key

def closeIn (table : List (HistoryRow κ τ α)) (closed : HistoryRow κ τ α) (time : τ) :
    List (HistoryRow κ τ α) :=
  table.map fun row =>
    if row.key = closed.key ∧ row.revision = closed.revision then row.close time else row

/-- The table with a new row behind the last one of its history. -/
def appendTo [LinearOrder τ] (table : List (HistoryRow κ τ α)) (key : κ) (validFrom : τ)
    (content : α) : List (HistoryRow κ τ α) :=
  match latest (ofKey key table) with
  | none => table ++ [⟨key, validFrom, none, 1, content⟩]
  | some last =>
    closeIn table last validFrom ++ [⟨key, validFrom, none, last.revision + 1, content⟩]

end Table

/-! ## Consecutive rows -/

/-- The rows are numbered from one, and each ends where the next one starts. -/
structure Consecutive [LE τ] (rows : List (HistoryRow κ τ α)) : Prop where
  revisions : rows.map revision = List.range' 1 rows.length
  chained : rows.IsChain fun row next => row.validTo = some next.validFrom
  bounded : ∀ row ∈ rows, ∀ bound ∈ row.validTo, row.validFrom ≤ bound

def LastOpen (rows : List (HistoryRow κ τ α)) : Prop :=
  ∀ row ∈ rows.getLast?, row.validTo = none

section Consecutive

variable [LinearOrder τ] {rows : List (HistoryRow κ τ α)}

theorem Consecutive.nil : Consecutive ([] : List (HistoryRow κ τ α)) :=
  ⟨rfl, .nil, nofun⟩

theorem Consecutive.ends_before (hrows : Consecutive rows) :
    rows.Pairwise fun row later => ∃ bound, row.validTo = some bound ∧
      row.validFrom ≤ bound ∧ bound ≤ later.validFrom := by
  obtain ⟨_, hchained, hbounded⟩ := hrows
  clear * - hchained hbounded
  induction rows with
  | nil => exact .nil
  | cons row rest ih =>
    have hrest := ih hchained.of_cons fun later hlater =>
      hbounded later (List.mem_cons_of_mem _ hlater)
    refine List.pairwise_cons.mpr ⟨?_, hrest⟩
    intro later hlater
    cases rest with
    | nil => cases hlater
    | cons next others =>
      have hend : row.validTo = some next.validFrom := hchained.rel
      refine ⟨next.validFrom, hend, hbounded row List.mem_cons_self _ hend, ?_⟩
      rcases List.mem_cons.mp hlater with rfl | hothers
      · exact le_rfl
      · obtain ⟨bound, _, hfirst, hlast⟩ :=
          (List.pairwise_cons.mp hrest).1 later hothers
        exact hfirst.trans hlast

theorem Consecutive.starts_sorted (hrows : Consecutive rows) :
    rows.Pairwise fun row later => row.validFrom ≤ later.validFrom :=
  hrows.ends_before.imp fun ⟨_, _, hfirst, hlast⟩ => hfirst.trans hlast

theorem Consecutive.disjoint (hrows : Consecutive rows) :
    rows.Pairwise fun row later => ∀ time, row.covers time = true → later.covers time = false := by
  refine hrows.ends_before.imp ?_
  rintro row later ⟨bound, hend, _, hlast⟩ time hcovers
  rw [← Bool.not_eq_true, covers_iff]
  rintro ⟨hstart, _⟩
  exact absurd ((covers_iff.mp hcovers).2 bound hend) (not_lt.mpr (hlast.trans hstart))

theorem Consecutive.closed (hrows : Consecutive rows) :
    ∀ row ∈ rows.dropLast, row.validTo ≠ none := by
  obtain ⟨_, hchained, _⟩ := hrows
  clear * - hchained
  induction rows with
  | nil => nofun
  | cons row rest ih =>
    cases rest with
    | nil => nofun
    | cons next others =>
      have hend : row.validTo = some next.validFrom := hchained.rel
      rw [List.dropLast_cons_cons]
      refine List.forall_mem_cons.mpr ⟨?_, ih hchained.of_cons⟩
      rw [hend]
      nofun

theorem Consecutive.getLast?_of_open (hrows : Consecutive rows)
    {row : HistoryRow κ τ α} (hrow : row ∈ rows) (hopen : row.validTo = none) :
    rows.getLast? = some row := by
  obtain ⟨last, hlast⟩ := List.getLast?_isSome.mpr (List.ne_nil_of_mem hrow) |>
    Option.isSome_iff_exists.mp
  rw [← List.dropLast_append_getLast? last hlast] at hrow
  rcases List.mem_append.mp hrow with hinit | hend
  · exact absurd hopen (hrows.closed row hinit)
  · cases List.mem_singleton.mp hend
    exact hlast

theorem Consecutive.exists_unique (hrows : Consecutive rows) (hopen : LastOpen rows)
    {first : HistoryRow κ τ α} (hfirst : rows.head? = some first) {time : τ}
    (htime : first.validFrom ≤ time) :
    ∃ row ∈ rows, rows.filter (fun row => row.covers time) = [row] := by
  have hdisjoint := hrows.disjoint
  obtain ⟨_, hchained, _⟩ := hrows
  clear * - hchained hopen hfirst htime hdisjoint
  induction rows generalizing first with
  | nil => cases hfirst
  | cons row rest ih =>
    cases hfirst
    obtain ⟨hlater, hrest⟩ := List.pairwise_cons.mp hdisjoint
    cases hcovers : row.covers time with
    | true =>
      refine ⟨row, List.mem_cons_self, ?_⟩
      rw [List.filter_cons, if_pos hcovers, List.cons_inj_right, List.filter_eq_nil_iff]
      intro later hmem
      rw [hlater later hmem time hcovers]
      exact Bool.false_ne_true
    | false =>
      have hover : ∃ bound ∈ row.validTo, bound ≤ time := by
        by_contra hnone
        push Not at hnone
        rw [← Bool.not_eq_true, covers_iff] at hcovers
        exact hcovers ⟨htime, hnone⟩
      obtain ⟨bound, hend, hle⟩ := hover
      cases rest with
      | nil =>
        have hnone := hopen row rfl
        rw [hnone] at hend
        cases hend
      | cons next others =>
        have hnext : row.validTo = some next.validFrom := hchained.rel
        cases hend.symm.trans hnext
        obtain ⟨found, hfound, hsingle⟩ := ih
          (fun last hlast => hopen last (by rwa [List.getLast?_cons_cons]))
          rfl hle hrest hchained.of_cons
        refine ⟨found, List.mem_cons_of_mem _ hfound, ?_⟩
        rw [List.filter_cons, hcovers, if_neg Bool.false_ne_true]
        exact hsingle

theorem Consecutive.latest_eq (hrows : Consecutive rows) :
    latest rows = rows.getLast? := by
  cases hlast : rows.getLast? with
  | none =>
    rw [List.getLast?_eq_none_iff] at hlast
    rw [hlast]
    rfl
  | some last =>
    obtain ⟨init, rfl⟩ := List.getLast?_eq_some_iff.mp hlast
    have hrevisions : (init ++ [last]).Pairwise fun row later =>
        row.revision < later.revision := by
      rw [← @List.pairwise_map _ _ revision (· < ·), hrows.revisions]
      exact List.pairwise_lt_range'
    have hrank : ∀ row ∈ init, row.rank < last.rank := by
      intro row hrow
      have hstart := (List.pairwise_append.mp hrows.starts_sorted).2.2 row hrow last
        (List.mem_singleton_self _)
      have hrev := (List.pairwise_append.mp hrevisions).2.2 row hrow last
        (List.mem_singleton_self _)
      exact Prod.Lex.toLex_lt_toLex.mpr (hstart.lt_or_eq.imp id fun h => ⟨h, hrev⟩)
    unfold latest
    rw [List.argmax_concat]
    cases hother : init.argmax rank with
    | none => rfl
    | some other => simp only [if_pos (hrank other (List.argmax_mem hother))]

end Consecutive

section LastRow

variable [LinearOrder τ] {init : List (HistoryRow κ τ α)} {last : HistoryRow κ τ α}
  {time : τ}

theorem Consecutive.close (hrows : Consecutive (init ++ [last]))
    (hstart : last.validFrom ≤ time) : Consecutive (init ++ [last.close time]) := by
  constructor
  · have hrevisions := hrows.revisions
    simp only [List.map_append, List.map_cons, List.map_nil, List.length_append,
      List.length_singleton] at hrevisions ⊢
    exact hrevisions
  · obtain ⟨hinit, _, hjoin⟩ := List.isChain_append.mp hrows.chained
    refine List.isChain_append.mpr ⟨hinit, .singleton _, ?_⟩
    intro row hrow next hnext
    cases hnext
    exact hjoin row hrow last rfl
  · intro row hrow
    rcases List.mem_append.mp hrow with hinit | hlast
    · exact hrows.bounded row (List.mem_append_left _ hinit)
    · cases List.mem_singleton.mp hlast
      intro bound hbound
      cases hbound
      exact hstart

theorem Consecutive.concat (hrows : Consecutive (init ++ [last.close time]))
    {next : HistoryRow κ τ α} (hstart : next.validFrom = time)
    (hopen : next.validTo = none) (hrev : next.revision = last.revision + 1) :
    Consecutive (init ++ [last.close time, next]) := by
  have hsplit : init ++ [last.close time, next] = (init ++ [last.close time]) ++ [next] := by
    rw [List.append_assoc]
    rfl
  have hlast : last.revision = init.length + 1 := by
    have hrevisions := congrArg List.getLast? hrows.revisions
    rw [List.map_append, List.map_singleton, List.getLast?_concat,
      List.getLast?_range'] at hrevisions
    have hclosed : (last.close time).revision = last.revision := rfl
    simpa [hclosed, add_comm] using hrevisions
  rw [hsplit]
  constructor
  · rw [List.map_append, hrows.revisions, List.map_singleton, hrev, hlast]
    simp [List.range'_concat, add_comm]
  · refine List.isChain_append.mpr ⟨hrows.chained, .singleton _, ?_⟩
    intro row hrow other hother
    rw [List.getLast?_concat] at hrow
    cases hrow
    cases hother
    rw [close_validTo, hstart]
  · intro row hrow
    rcases List.mem_append.mp hrow with hold | hnew
    · exact hrows.bounded row hold
    · cases List.mem_singleton.mp hnew
      rw [hopen]
      nofun

theorem selected_append (front back : List (HistoryRow κ τ α)) (now : τ) :
    selected (front ++ back) now = selected front now ++ selected back now := by
  unfold selected
  rw [List.filter_append, List.map_append]

theorem selected_close {now : τ} (hopen : last.validTo = none) (hbefore : now < time) :
    selected [last.close time] now = selected [last] now := by
  have hcovers : (last.close time).covers now = last.covers now := by
    rw [Bool.eq_iff_iff, covers_iff, covers_iff, hopen, close_validTo]
    simp only [Option.mem_some_iff, forall_eq', hbefore, and_true]
    exact ⟨fun hstart => ⟨hstart, nofun⟩, And.left⟩
  unfold selected
  rw [List.filter_cons, List.filter_cons, hcovers]
  split_ifs <;> rfl

theorem selected_later {next : HistoryRow κ τ α} {now : τ}
    (hbefore : now < next.validFrom) : selected [next] now = [] := by
  have hcovers : next.covers now = false := by
    rw [← Bool.not_eq_true, covers_iff]
    exact fun hstart => absurd hstart.1 (not_le.mpr hbefore)
  unfold selected
  rw [List.filter_cons, hcovers]
  rfl

end LastRow

section Additions

variable [DecidableEq κ] {table : List (HistoryRow κ τ α)} {key other : κ}

theorem mem_ofKey {row : HistoryRow κ τ α} :
    row ∈ ofKey key table ↔ row ∈ table ∧ row.key = key := by
  simp [ofKey, List.mem_filter]

theorem ofKey_closeIn (closed : HistoryRow κ τ α) (time : τ) :
    ofKey key (closeIn table closed time) = closeIn (ofKey key table) closed time := by
  unfold ofKey closeIn
  rw [List.filter_map]
  congr 1
  apply List.filter_congr
  intro row _
  rw [Function.comp_apply]
  split_ifs <;> rfl

theorem closeIn_other {closed : HistoryRow κ τ α} (hother : closed.key ≠ key)
    (time : τ) : closeIn (ofKey key table) closed time = ofKey key table := by
  unfold closeIn
  conv_rhs => rw [← List.map_id (ofKey key table)]
  apply List.map_congr_left
  intro row hrow
  rw [if_neg]
  · rfl
  · rintro ⟨hkey, _⟩
    exact hother (hkey.symm.trans (mem_ofKey.mp hrow).2)

theorem mem_closeIn {closed row : HistoryRow κ τ α} {time : τ}
    (hrow : row ∈ closeIn table closed time) :
    ∃ old ∈ table, row.key = old.key ∧ row.content = old.content := by
  obtain ⟨old, hold, rfl⟩ := List.mem_map.mp hrow
  refine ⟨old, hold, ?_⟩
  split_ifs <;> exact ⟨rfl, rfl⟩

variable [LinearOrder τ]

theorem mem_appendTo {row : HistoryRow κ τ α} {validFrom : τ} {content : α}
    (hrow : row ∈ appendTo table key validFrom content) :
    row.key = key ∧ row.content = content ∨
      ∃ old ∈ table, row.key = old.key ∧ row.content = old.content := by
  unfold appendTo at hrow
  split at hrow
  next =>
    rcases List.mem_append.mp hrow with hold | hnew
    · exact .inr ⟨row, hold, rfl, rfl⟩
    · cases List.mem_singleton.mp hnew
      exact .inl ⟨rfl, rfl⟩
  next =>
    rcases List.mem_append.mp hrow with hold | hnew
    · exact .inr (mem_closeIn hold)
    · cases List.mem_singleton.mp hnew
      exact .inl ⟨rfl, rfl⟩

theorem latest_key {last : HistoryRow κ τ α} (hlast : latest (ofKey key table) = some last) :
    last.key = key :=
  (mem_ofKey.mp (List.argmax_mem hlast)).2

theorem closeIn_last {last : HistoryRow κ τ α} (hrows : Consecutive (ofKey key table))
    (hlast : (ofKey key table).getLast? = some last) (time : τ) :
    closeIn (ofKey key table) last time = (ofKey key table).dropLast ++ [last.close time] := by
  have hrevisions : (ofKey key table).Pairwise fun row later =>
      row.revision < later.revision := by
    rw [← @List.pairwise_map _ _ revision (· < ·), hrows.revisions]
    exact List.pairwise_lt_range'
  obtain ⟨init, hinit⟩ := List.getLast?_eq_some_iff.mp hlast
  rw [hinit] at hrevisions ⊢
  unfold closeIn
  rw [List.map_append, List.dropLast_concat, List.map_singleton, if_pos ⟨rfl, rfl⟩]
  congr 1
  conv_rhs => rw [← List.map_id init]
  apply List.map_congr_left
  intro row hrow
  have hlt := (List.pairwise_append.mp hrevisions).2.2 row hrow last (List.mem_singleton_self _)
  rw [if_neg]
  · rfl
  · exact fun hsame => hlt.ne hsame.2

theorem ofKey_appendTo_other (hother : key ≠ other) (validFrom : τ) (content : α) :
    ofKey other (appendTo table key validFrom content) = ofKey other table := by
  unfold appendTo
  cases hlast : latest (ofKey key table) with
  | none =>
    unfold ofKey
    rw [List.filter_append, List.filter_cons, if_neg (by simp [hother])]
    simp
  | some last =>
    have hkey : last.key ≠ other := latest_key hlast ▸ hother
    have hnew : ofKey other [⟨key, validFrom, none, last.revision + 1, content⟩] =
        ([] : List (HistoryRow κ τ α)) := by
      simp [ofKey, hother]
    have happ : ∀ front back : List (HistoryRow κ τ α),
        ofKey other (front ++ back) = ofKey other front ++ ofKey other back :=
      fun _ _ => List.filter_append ..
    rw [happ, hnew, List.append_nil, ofKey_closeIn, closeIn_other hkey]

theorem ofKey_appendTo (hrows : Consecutive (ofKey key table)) (validFrom : τ) (content : α) :
    ofKey key (appendTo table key validFrom content) =
      match (ofKey key table).getLast? with
      | none => [⟨key, validFrom, none, 1, content⟩]
      | some last =>
        (ofKey key table).dropLast ++ [last.close validFrom,
          ⟨key, validFrom, none, last.revision + 1, content⟩] := by
  have happ : ∀ front back : List (HistoryRow κ τ α),
      ofKey key (front ++ back) = ofKey key front ++ ofKey key back :=
    fun _ _ => List.filter_append ..
  unfold appendTo
  rw [hrows.latest_eq]
  cases hlast : (ofKey key table).getLast? with
  | none =>
    rw [List.getLast?_eq_none_iff] at hlast
    simp only [happ, hlast, List.nil_append]
    simp [ofKey]
  | some last =>
    simp only [happ, ofKey_closeIn]
    rw [closeIn_last hrows hlast]
    simp [ofKey]

theorem Consecutive.appendTo (hrows : Consecutive (ofKey key table)) {validFrom : τ}
    (horder : ∀ last ∈ (ofKey key table).getLast?, last.validFrom ≤ validFrom) (content : α) :
    Consecutive (ofKey key (appendTo table key validFrom content)) ∧
      LastOpen (ofKey key (appendTo table key validFrom content)) := by
  rw [ofKey_appendTo hrows]
  cases hlast : (ofKey key table).getLast? with
  | none =>
    refine ⟨⟨rfl, .singleton _, ?_⟩, ?_⟩
    · intro row hrow
      cases List.mem_singleton.mp hrow
      nofun
    · intro row hrow
      cases hrow
      rfl
  | some last =>
    have hsplit : (ofKey key table).dropLast ++ [last] = ofKey key table :=
      List.dropLast_append_getLast? last hlast
    have hclosed := (hsplit ▸ hrows).close (horder last hlast)
    refine ⟨hclosed.concat rfl rfl rfl, ?_⟩
    intro row hrow
    dsimp only at hrow
    rw [List.getLast?_append] at hrow
    cases hrow
    rfl

theorem Consecutive.closeIn {last : HistoryRow κ τ α} (hrows : Consecutive (ofKey key table))
    (hlast : (ofKey key table).getLast? = some last) {time : τ} (hstart : last.validFrom ≤ time) :
    Consecutive (ofKey key (HistoryRow.closeIn table last time)) := by
  have hsplit : (ofKey key table).dropLast ++ [last] = ofKey key table :=
    List.dropLast_append_getLast? last hlast
  rw [ofKey_closeIn, closeIn_last hrows hlast]
  exact (hsplit ▸ hrows).close hstart

theorem selected_closeIn {last : HistoryRow κ τ α} (hrows : Consecutive (ofKey key table))
    (hlast : (ofKey key table).getLast? = some last) (hopen : last.validTo = none)
    {time now : τ} (hbefore : now < time) :
    selected (ofKey key (HistoryRow.closeIn table last time)) now =
      selected (ofKey key table) now := by
  have hsplit : (ofKey key table).dropLast ++ [last] = ofKey key table :=
    List.dropLast_append_getLast? last hlast
  rw [ofKey_closeIn, closeIn_last hrows hlast, selected_append,
    selected_close hopen hbefore, ← selected_append, hsplit]

theorem selected_appendTo (hrows : Consecutive (ofKey key table))
    (hopen : LastOpen (ofKey key table)) {validFrom now : τ} (hbefore : now < validFrom)
    (content : α) :
    selected (ofKey key (appendTo table key validFrom content)) now =
      selected (ofKey key table) now := by
  rw [ofKey_appendTo hrows]
  cases hlast : (ofKey key table).getLast? with
  | none =>
    rw [List.getLast?_eq_none_iff] at hlast
    rw [hlast]
    exact selected_later hbefore
  | some last =>
    have hsplit : (ofKey key table).dropLast ++ [last] = ofKey key table :=
      List.dropLast_append_getLast? last hlast
    have hpair : ∀ first second : HistoryRow κ τ α,
        [first, second] = [first] ++ [second] := fun _ _ => rfl
    have hlater : selected [(⟨key, validFrom, none, last.revision + 1, content⟩ :
        HistoryRow κ τ α)] now = [] := selected_later hbefore
    dsimp only
    rw [hpair, selected_append, selected_append, hlater,
      selected_close (hopen last hlast) hbefore, List.append_nil, ← selected_append,
      hsplit]

end Additions

end HistoryRow

end Nexolab
