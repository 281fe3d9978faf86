import Mathlib.Tactic

/-!
# Dictionaries in insertion order

A dictionary is the list of its entries.  Assigning to a key which is present
keeps the place of the entry; a new key is appended.
-/

namespace Nexolab

variable {κ ν : Type*} [DecidableEq κ]

abbrev Dictionary (κ ν : Type*) := List (κ × ν)

namespace Dictionary

def get? (dictionary : Dictionary κ ν) (key : κ) : Option ν :=
  (dictionary.find? fun entry => entry.1 = key).map Prod.snd

def set : Dictionary κ ν → κ → ν → Dictionary κ ν
  | [], key, value => [(key, value)]
  | entry :: rest, key, value =>
    if entry.1 = key then (key, value) :: rest
    else entry :: set rest key value

def erase (dictionary : Dictionary κ ν) (key : κ) : Dictionary κ ν :=
  dictionary.filter fun entry => entry.1 ≠ key

def keys (dictionary : Dictionary κ ν) : List κ := dictionary.map Prod.fst

def values (dictionary : Dictionary κ ν) : List ν := dictionary.map Prod.snd

def ofItems (key : ν → κ) (items : List ν) : Dictionary κ ν :=
  items.foldl (fun dictionary item => dictionary.set (key item) item) []

def Keyed (key : ν → κ) (dictionary : Dictionary κ ν) : Prop :=
  ∀ entry ∈ dictionary, key entry.2 = entry.1

@[simp] theorem get?_nil (key : κ) : get? ([] : Dictionary κ ν) key = none := rfl

theorem get?_cons (entry : κ × ν) (rest : Dictionary κ ν) (key : κ) :
    get? (entry :: rest) key =
      if entry.1 = key then some entry.2 else get? rest key := by
  unfold get?
  rw [List.find?_cons]
  split_ifs with hkey
  · simp [hkey]
  · simp [hkey]

theorem get?_set (dictionary : Dictionary κ ν) (key other : κ) (value : ν) :
    (dictionary.set key value).get? other =
      if key = other then some value else dictionary.get? other := by
  induction dictionary with
  | nil => simp [set, get?_cons]
  | cons entry rest ih =>
    unfold set
    by_cases hent : entry.1 = key
    · rw [if_pos hent, get?_cons, get?_cons, hent]
      split_ifs
      · rfl
      · rfl
    · rw [if_neg hent, get?_cons, get?_cons, ih]
      by_cases hsame : entry.1 = other
      · have hother : key ≠ other := fun heq => hent (hsame.trans heq.symm)
        rw [if_pos hsame, if_pos hsame, if_neg hother]
      · rw [if_neg hsame, if_neg hsame]

theorem get?_erase (dictionary : Dictionary κ ν) (key other : κ) :
    (dictionary.erase key).get? other =
      if key = other then none else dictionary.get? other := by
  induction dictionary with
  | nil => simp [erase]
  | cons entry rest ih =>
    unfold erase at ih ⊢
    rw [List.filter_cons, get?_cons]
    by_cases hent : entry.1 = key
    · rw [if_neg (by simp [hent]), ih, hent]
      split_ifs
      · rfl
      · rfl
    · rw [if_pos (by simp [hent]), get?_cons, ih]
      by_cases hsame : entry.1 = other
      · have hother : key ≠ other := fun heq => hent (hsame.trans heq.symm)
        rw [if_pos hsame, if_neg hother, if_pos hsame]
      · rw [if_neg hsame, if_neg hsame]

variable {dictionary : Dictionary κ ν}

theorem get?_eq_none_iff {key : κ} :
    dictionary.get? key = none ↔ key ∉ dictionary.keys := by
  induction dictionary with
  | nil => simp [keys]
  | cons entry rest ih =>
    rw [get?_cons]
    split_ifs with hkey
    · simp [keys, hkey]
    · rw [ih]
      have hother : key ≠ entry.1 := fun heq => hkey heq.symm
      simp [keys, hother]

theorem mem_of_get? {key : κ} {value : ν}
    (hget : dictionary.get? key = some value) : (key, value) ∈ dictionary := by
  induction dictionary with
  | nil => cases hget
  | cons entry rest ih =>
    rw [get?_cons] at hget
    split_ifs at hget with hkey
    · rw [← hkey, ← Option.some.inj hget]
      exact List.mem_cons_self
    · exact List.mem_cons_of_mem _ (ih hget)

theorem get?_eq_some_of_unique {key : κ} {value : ν} (hmem : (key, value) ∈ dictionary)
    (hunique : ∀ entry ∈ dictionary, entry.1 = key → entry.2 = value) :
    dictionary.get? key = some value := by
  induction dictionary with
  | nil => cases hmem
  | cons entry rest ih =>
    rw [get?_cons]
    split_ifs with hkey
    · rw [hunique entry List.mem_cons_self hkey]
    · rcases List.mem_cons.mp hmem with rfl | hrest
      · exact absurd rfl hkey
      · exact ih hrest fun other hother =>
          hunique other (List.mem_cons_of_mem _ hother)

theorem mem_set {key : κ} {value : ν} {entry : κ × ν} (hmem : entry ∈ dictionary.set key value) :
    entry = (key, value) ∨ entry ∈ dictionary := by
  induction dictionary with
  | nil => simpa [set] using hmem
  | cons first rest ih =>
    unfold set at hmem
    split_ifs at hmem with hfirst
    · rcases List.mem_cons.mp hmem with rfl | hrest
      · exact .inl rfl
      · exact .inr (List.mem_cons_of_mem _ hrest)
    · rcases List.mem_cons.mp hmem with rfl | hrest
      · exact .inr List.mem_cons_self
      · exact (ih hrest).imp_right (List.mem_cons_of_mem _)

theorem set_keys_of_mem {key : κ} (value : ν) (hkey : key ∈ dictionary.keys) :
    (dictionary.set key value).keys = dictionary.keys := by
  induction dictionary with
  | nil => simp [keys] at hkey
  | cons first rest ih =>
    unfold set
    split_ifs with hfirst
    · simp [keys, hfirst]
    · have hrest : key ∈ keys rest := by
        rcases List.mem_cons.mp hkey with heq | hmem
        · exact absurd heq.symm hfirst
        · exact hmem
      have htail := ih hrest
      simp only [keys, List.map_cons] at htail ⊢
      rw [htail]

theorem set_of_not_mem {key : κ} (value : ν) (hkey : key ∉ dictionary.keys) :
    dictionary.set key value = dictionary ++ [(key, value)] := by
  induction dictionary with
  | nil => rfl
  | cons first rest ih =>
    simp only [keys, List.map_cons, List.mem_cons, not_or] at hkey
    unfold set
    rw [if_neg (fun heq => hkey.1 heq.symm), ih hkey.2]
    rfl

theorem set_keys_nodup {key : κ} (value : ν)
    (hnodup : dictionary.keys.Nodup) : (dictionary.set key value).keys.Nodup := by
  by_cases hkey : key ∈ dictionary.keys
  · rw [set_keys_of_mem value hkey]
    exact hnodup
  · rw [set_of_not_mem value hkey]
    simp only [keys, List.map_append, List.map_cons, List.map_nil]
    rw [List.nodup_append]
    refine ⟨hnodup, List.nodup_singleton _, ?_⟩
    intro left hleft right hright heq
    rw [List.mem_singleton] at hright
    exact hkey (hright ▸ heq ▸ hleft)

theorem Keyed.set {key : ν → κ} (hkeyed : Keyed key dictionary) (value : ν) :
    Keyed key (dictionary.set (key value) value) := by
  intro entry hmem
  rcases mem_set hmem with rfl | hold
  · rfl
  · exact hkeyed entry hold

omit [DecidableEq κ] in
theorem Keyed.values_map {key : ν → κ} (hkeyed : Keyed key dictionary) :
    dictionary.values.map key = dictionary.keys := by
  unfold values keys
  rw [List.map_map]
  exact List.map_congr_left hkeyed

theorem Keyed.find?_values {key : ν → κ} (hkeyed : Keyed key dictionary) (wanted : κ) :
    (dictionary.values.find? fun value => key value = wanted) = dictionary.get? wanted := by
  induction dictionary with
  | nil => rfl
  | cons entry rest ih =>
    have hrest : Keyed key rest := fun other hmem =>
      hkeyed other (List.mem_cons_of_mem _ hmem)
    have htail := ih hrest
    rw [get?_cons, ← htail, values, List.map_cons, List.find?_cons, hkeyed entry List.mem_cons_self]
    split_ifs with hsame
    · simp [hsame]
    · simp [hsame, values]

theorem ofItems_eq {key : ν → κ} {items : List ν} (hnodup : (items.map key).Nodup) :
    ofItems key items = items.map fun item => (key item, item) := by
  unfold ofItems
  have hgeneral : ∀ (done : Dictionary κ ν) (rest : List ν), (done.keys ++ rest.map key).Nodup →
      rest.foldl (fun dictionary item => dictionary.set (key item) item) done =
        done ++ rest.map fun item => (key item, item) := by
    intro done rest
    induction rest generalizing done with
    | nil => simp
    | cons item rest ih =>
      intro hdist
      have hnew : key item ∉ done.keys := by
        intro hmem
        have hdisjoint := (List.nodup_append.mp hdist).2.2
        exact hdisjoint _ hmem _ (by simp) rfl
      rw [List.foldl_cons, set_of_not_mem item hnew, ih, List.append_assoc]
      · rfl
      · simpa [keys, List.append_assoc] using hdist
  simpa [keys] using hgeneral [] items (by simpa [keys] using hnodup)

end Dictionary

/-! ## Lookups by a distinguishing key -/

section Lookup

variable {α : Type*} {key : α → κ} {items : List α}

theorem find?_key_iff (hnodup : (items.map key).Nodup) {wanted : κ} {item : α} :
    (items.find? fun other => key other = wanted) = some item ↔
      item ∈ items ∧ key item = wanted := by
  constructor
  · intro hfind
    refine ⟨List.mem_of_find?_eq_some hfind, ?_⟩
    simpa using List.find?_some hfind
  · rintro ⟨hmem, rfl⟩
    induction items with
    | nil => cases hmem
    | cons first rest ih =>
      rw [List.map_cons, List.nodup_cons] at hnodup
      rcases List.mem_cons.mp hmem with rfl | hrest
      · simp
      · have hother : key first ≠ key item := fun heq =>
          hnodup.1 (heq ▸ List.mem_map_of_mem hrest)
        rw [List.find?_cons_of_neg (by simpa using hother)]
        exact ih hnodup.2 hrest

theorem find?_key_perm {others : List α} (hperm : items.Perm others)
    (hnodup : (items.map key).Nodup) (wanted : κ) :
    (items.find? fun other => key other = wanted) =
      others.find? fun other => key other = wanted := by
  have hother : (others.map key).Nodup := (hperm.map key).nodup_iff.mp hnodup
  apply Option.ext
  intro item
  rw [find?_key_iff hnodup, find?_key_iff hother, hperm.mem_iff]

end Lookup

end Nexolab
