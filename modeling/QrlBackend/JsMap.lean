import Mathlib.Data.List.Nodup
import Mathlib.Data.List.Perm.Subperm

/-!
# Insertion-ordered maps

A JavaScript `Map` enumerates its entries in insertion order and holds one entry for
each key. `JsMap` is that : a list of entries whose keys have no duplicate, carried as
a field. Setting a present key keeps its place, setting a new one appends.

Everything is read off `get?` : membership in the entries is `get?` (`mem_entries`),
and `get?` of an updated map is an `if` (`get?_set`, `get?_delete`). As a multiset the
values lose one at a deletion (`values_perm_delete`) and gain one at a new key
(`values_set_of_none`).
-/

set_option autoImplicit false
set_option linter.unusedSectionVars false

/-- Entries in insertion order, one for each key. -/
structure JsMap (K V : Type*) where
  entries : List (K × V)
  nodup : (entries.map Prod.fst).Nodup

namespace JsMap

variable {K V : Type*}

@[ext]
theorem ext {m m' : JsMap K V} (h : m.entries = m'.entries) : m = m' := by
  cases m
  cases m'
  cases h
  rfl

/-- No entries. -/
def empty : JsMap K V := ⟨[], by simp⟩

instance : Inhabited (JsMap K V) := ⟨empty⟩

/-- The keys, in insertion order. -/
def keys (m : JsMap K V) : List K := m.entries.map Prod.fst

/-- The values, in insertion order of their keys. -/
def values (m : JsMap K V) : List V := m.entries.map Prod.snd

/-- `Map.size`. -/
def size (m : JsMap K V) : ℕ := m.entries.length

variable [DecidableEq K]

/-- `Map.get`. -/
def get? (m : JsMap K V) (k : K) : Option V := (m.entries.find? fun e => e.1 = k).map Prod.snd

/-- `Map.has`. -/
def has (m : JsMap K V) (k : K) : Bool := (m.get? k).isSome

/-- `Map.delete`. -/
def delete (m : JsMap K V) (k : K) : JsMap K V where
  entries := m.entries.filter fun e => e.1 ≠ k
  nodup := m.nodup.sublist (List.filter_sublist.map Prod.fst)

/-- Replacing a value moves no key. -/
theorem map_fst_replace (l : List (K × V)) (k : K) (v : V) :
    (l.map fun e => if e.1 = k then (k, v) else e).map Prod.fst = l.map Prod.fst := by
  rw [List.map_map]
  refine List.map_congr_left fun e _ => ?_
  by_cases h : e.1 = k <;> simp [h]

theorem has_eq_false_iff (m : JsMap K V) (k : K) : m.has k = false ↔ k ∉ m.keys := by
  simp only [has, get?, Option.isSome_map, keys, List.mem_map, ← Bool.not_eq_true,
    List.find?_isSome, decide_eq_true_eq]

theorem has_iff_mem_keys (m : JsMap K V) (k : K) : m.has k = true ↔ k ∈ m.keys := by
  rw [← not_iff_not, Bool.not_eq_true, has_eq_false_iff]

/-- `Map.set` : a present key keeps its place, a new one goes last. -/
def set (m : JsMap K V) (k : K) (v : V) : JsMap K V :=
  if h : m.has k then
    ⟨m.entries.map fun e => if e.1 = k then (k, v) else e, by
      rw [map_fst_replace]
      exact m.nodup⟩
  else
    ⟨m.entries ++ [(k, v)], by
      rw [List.map_append, List.nodup_append]
      refine ⟨m.nodup, by simp, fun a ha b hb hab => ?_⟩
      rw [List.map_singleton, List.mem_singleton] at hb
      rw [Bool.not_eq_true, has_eq_false_iff] at h
      rw [hab, hb] at ha
      exact h ha⟩

/-- A key that is set again keeps its place. -/
theorem keys_set_of_has {m : JsMap K V} {k : K} (v : V) (h : m.has k = true) :
    (m.set k v).keys = m.keys := by
  unfold set keys
  rw [dif_pos h]
  exact map_fst_replace m.entries k v

/-- A new key goes to the end. -/
theorem keys_set_of_not_has {m : JsMap K V} {k : K} (v : V) (h : m.has k = false) :
    (m.set k v).keys = m.keys ++ [k] := by
  unfold set keys
  rw [dif_neg (by rw [h]; exact Bool.false_ne_true), List.map_append]
  rfl

theorem keys_delete (m : JsMap K V) (k : K) : (m.delete k).keys = m.keys.erase k := by
  unfold delete keys
  have hfilter : (m.entries.filter fun e => e.1 ≠ k).map Prod.fst =
      (m.entries.map Prod.fst).filter (· ≠ k) := by
    rw [List.filter_map]
    rfl
  rw [hfilter, m.nodup.erase_eq_filter]
  refine List.filter_congr fun k' _ => ?_
  by_cases hk : k' = k <;> simp [hk]

/-! ## Reading entries -/

/-- An entry is what `get?` returns at its key. -/
theorem mem_entries {m : JsMap K V} {k : K} {v : V} : (k, v) ∈ m.entries ↔ m.get? k = some v := by
  obtain ⟨l, hl⟩ := m
  simp only [get?]
  induction l with
  | nil => simp
  | cons e l ih =>
    obtain ⟨k', v'⟩ := e
    rw [List.map_cons, List.nodup_cons] at hl
    have ih := ih hl.2
    by_cases hk : k' = k
    · subst hk
      have hnot : (k', v) ∉ l := fun h => hl.1 (List.mem_map.2 ⟨_, h, rfl⟩)
      simp [hnot, eq_comm]
    · simp [hk, ih, Ne.symm hk]

theorem mem_keys {m : JsMap K V} {k : K} : k ∈ m.keys ↔ ∃ v, m.get? k = some v := by
  rw [← has_iff_mem_keys, has, Option.isSome_iff_exists]

theorem mem_values {m : JsMap K V} {v : V} : v ∈ m.values ↔ ∃ k, m.get? k = some v := by
  simp [values, mem_entries]

@[simp] theorem get?_empty (k : K) : (empty : JsMap K V).get? k = none := rfl

@[simp] theorem entries_empty : (empty : JsMap K V).entries = [] := rfl

/-- Only the key deleted is missing. -/
theorem get?_delete (m : JsMap K V) (k k' : K) :
    (m.delete k).get? k' = if k' = k then none else m.get? k' := by
  ext v
  rw [← mem_entries, delete, List.mem_filter, mem_entries]
  by_cases h : k' = k <;> simp [h]

@[simp] theorem get?_delete_self (m : JsMap K V) (k : K) : (m.delete k).get? k = none := by
  simp [get?_delete]

theorem get?_delete_of_ne (m : JsMap K V) {k k' : K} (h : k' ≠ k) :
    (m.delete k).get? k' = m.get? k' := by
  simp [get?_delete, h]

/-- Only the key set has another value. -/
theorem get?_set (m : JsMap K V) (k k' : K) (v : V) :
    (m.set k v).get? k' = if k' = k then some v else m.get? k' := by
  ext w
  rw [← mem_entries]
  unfold set
  split
  next h =>
    obtain ⟨u, hu⟩ := mem_keys.1 ((m.has_iff_mem_keys k).1 h)
    simp only [List.mem_map, Prod.exists]
    by_cases hk : k' = k
    · subst hk
      constructor
      · rintro ⟨a, b, -, hab⟩
        by_cases ha : a = k'
        · simpa [ha] using hab
        · rw [if_neg ha] at hab
          exact absurd (congrArg Prod.fst hab) ha
      · intro hw
        exact ⟨k', u, mem_entries.2 hu, by simpa using hw⟩
    · rw [if_neg hk, ← mem_entries]
      constructor
      · rintro ⟨a, b, hm, hab⟩
        by_cases ha : a = k
        · rw [if_pos ha] at hab
          exact absurd (congrArg Prod.fst hab).symm hk
        · rw [if_neg ha] at hab
          exact hab ▸ hm
      · intro hm
        exact ⟨k', w, hm, by simp [hk]⟩
  next h =>
    rw [Bool.not_eq_true, has, Option.isSome_eq_false_iff, Option.isNone_iff_eq_none] at h
    rw [List.mem_append, List.mem_singleton, mem_entries]
    by_cases hk : k' = k
    · subst hk
      simp [h, eq_comm]
    · simp [hk]

@[simp] theorem get?_set_self (m : JsMap K V) (k : K) (v : V) : (m.set k v).get? k = some v := by
  simp [get?_set]

theorem get?_set_of_ne (m : JsMap K V) {k k' : K} (v : V) (h : k' ≠ k) :
    (m.set k v).get? k' = m.get? k' := by
  simp [get?_set, h]

/-- Set where there is no entry yet. -/
def setIfNew (m : JsMap K V) (k : K) (v : V) : JsMap K V := if m.has k then m else m.set k v

theorem get?_setIfNew (m : JsMap K V) (k k' : K) (v : V) :
    (m.setIfNew k v).get? k' = (m.get? k').or (if k = k' then some v else none) := by
  unfold setIfNew
  cases hk : m.get? k with
  | some w =>
    rw [if_pos (by rw [has, hk]; rfl)]
    split
    next heq => rw [← heq, hk, Option.some_or]
    next => rw [Option.or_none]
  | none =>
    rw [if_neg (by rw [has, hk]; nofun), get?_set]
    by_cases heq : k = k'
    · rw [← heq, if_pos rfl, if_pos rfl, hk, Option.none_or]
    · rw [if_neg (Ne.symm heq), if_neg heq, Option.or_none]

/-- Setting each where there is no entry yet keeps the first value of every key. -/
theorem get?_foldl_setIfNew (key : V → K) (l : List V) (m : JsMap K V) (k : K) :
    (l.foldl (fun m v => m.setIfNew (key v) v) m).get? k =
      (m.get? k).or (l.find? fun v => key v = k) := by
  induction l generalizing m with
  | nil => rw [List.foldl_nil, List.find?_nil, Option.or_none]
  | cons v l ih =>
    rw [List.foldl_cons, ih, get?_setIfNew, Option.or_assoc, List.find?_cons]
    by_cases hv : key v = k
    · rw [if_pos hv, Option.some_or, decide_eq_true hv]
    · rw [if_neg hv, Option.none_or, decide_eq_false hv]

theorem has_eq (m : JsMap K V) (k : K) : m.has k = (m.get? k).isSome := rfl

/-- A map all of whose keys are equal has at most one entry. -/
theorem size_le_one {m : JsMap K V} (h : ∀ k k', m.has k → m.has k' → k = k') : m.size ≤ 1 := by
  obtain ⟨l, hl⟩ := m
  match l, hl with
  | [], _ => simp [size]
  | [e], _ => simp [size]
  | e :: e' :: l, hl =>
    have hne : e.1 ≠ e'.1 := by
      intro he
      simp [he] at hl
    refine absurd (h e.1 e'.1 ?_ ?_) hne
    · rw [has_iff_mem_keys]
      simp [keys]
    · rw [has_iff_mem_keys]
      simp [keys]

/-! ## Values as a multiset -/

/-- Deleting a key takes its value out of the values. -/
theorem values_perm_delete {m : JsMap K V} {k : K} {v : V} (h : m.get? k = some v) :
    m.values.Perm (v :: (m.delete k).values) := by
  obtain ⟨l, hl⟩ := m
  simp only [get?] at h
  simp only [values, delete]
  induction l with
  | nil => simp at h
  | cons e l ih =>
    obtain ⟨k', v'⟩ := e
    rw [List.map_cons, List.nodup_cons] at hl
    by_cases hk : k' = k
    · subst hk
      have hfilter : (l.filter fun e => e.1 ≠ k') = l := by
        rw [List.filter_eq_self]
        intro e he
        have : e.1 ≠ k' := fun h => hl.1 (List.mem_map.2 ⟨e, he, h⟩)
        simpa using this
      have hv : v' = v := by simpa using h
      rw [List.filter_cons_of_neg (by simp), hfilter, List.map_cons, hv]
    · rw [List.filter_cons_of_pos (by simpa using hk), List.map_cons, List.map_cons]
      have h : (l.find? fun e => e.1 = k).map Prod.snd = some v := by simpa [hk] using h
      exact ((ih hl.2 h).cons v').trans (List.Perm.swap _ _ _)

/-- Maps with the same entries have the same values. -/
theorem values_perm {m m' : JsMap K V} (h : ∀ k, m.get? k = m'.get? k) :
    m.values.Perm m'.values := by
  refine List.Perm.map _ ((List.perm_ext_iff_of_nodup m.nodup.of_map m'.nodup.of_map).2 ?_)
  rintro ⟨k, v⟩
  rw [mem_entries, mem_entries, h]

/-- A map with fewer entries has fewer values. -/
theorem values_subperm {m m' : JsMap K V} (h : ∀ k v, m'.get? k = some v → m.get? k = some v) :
    m'.values.Subperm m.values := by
  have hsub : m'.entries ⊆ m.entries := fun e he => mem_entries.2 (h e.1 e.2 (mem_entries.1 he))
  obtain ⟨l, hperm, hsublist⟩ := List.subperm_of_subset m'.nodup.of_map hsub
  exact ⟨l.map Prod.snd, hperm.map _, hsublist.map _⟩

/-- Setting a new key adds its value. -/
theorem values_set_of_none {m : JsMap K V} {k : K} (v : V) (h : m.get? k = none) :
    (m.set k v).values = m.values ++ [v] := by
  have hhas : m.has k = false := by simp [has, h]
  simp [set, values, hhas]

theorem values_delete_of_none {m : JsMap K V} {k : K} (h : m.get? k = none) :
    m.values.Perm (m.delete k).values :=
  values_perm fun k' => by
    rw [get?_delete]
    split
    next hk => rw [hk, h]
    next => rfl

/-- Setting a key puts its value in the place of the old one. -/
theorem values_perm_set (m : JsMap K V) (k : K) (v : V) :
    (m.set k v).values.Perm (v :: (m.delete k).values) := by
  refine (values_perm_delete (m.get?_set_self k v)).trans ((values_perm fun k' => ?_).cons v)
  rw [get?_delete, get?_delete]
  split
  · rfl
  next hk => rw [get?_set_of_ne _ _ hk]

end JsMap
