import QrlBackend.JsMap
import Mathlib.Algebra.Order.Group.Defs
import Mathlib.Data.Set.Card

/-!
# Keys seen in a window of time

A map holds for each key the time at which it was last seen. Whenever a key is seen, the
keys whose time has left the window are dropped first (`note`). Dropping late is enough : as
long as the clock does not go back, the map has after each sighting just the keys that were
seen in the window before it (`Tracks.size_note`).
-/

set_option autoImplicit false

namespace RecentKeys

variable {K T : Type*} [DecidableEq K] [AddCommGroup T] [LinearOrder T]

/-- Drop the keys that have left the window. -/
def expire (window now : T) (m : JsMap K T) : JsMap K T :=
  m.entries.foldl (fun m' e => if window ≤ now - e.2 then m'.delete e.1 else m') m

/-- Drop the keys that have left the window, and see a key. -/
def note (window now : T) (k : K) (m : JsMap K T) : JsMap K T := (expire window now m).set k now

/-- The map, for the sightings since it was empty. What is not stored any more has left the
window, and leaves it for good. -/
structure Tracks (window : T) (m : JsMap K T) (seen : Set (K × T)) : Prop where
  stored : ∀ k t, m.get? k = some t → (k, t) ∈ seen
  recent : ∀ k t now, (k, t) ∈ seen → (∀ o ∈ seen, o.2 ≤ now) → now - t < window →
    ∃ t', t ≤ t' ∧ m.get? k = some t'

/-- Before the first key. -/
theorem Tracks.empty (window : T) : Tracks window (.empty : JsMap K T) ∅ where
  stored _ _ h := by cases h
  recent _ _ _ h := h.elim

theorem get?_foldl_expire (window now : T) (k : K) (l : List (K × T)) (m : JsMap K T) :
    (l.foldl (fun m' e => if window ≤ now - e.2 then m'.delete e.1 else m') m).get? k =
      if l.any fun e => k = e.1 && window ≤ now - e.2 then none else m.get? k := by
  induction l generalizing m with
  | nil => rfl
  | cons e l ih =>
    rw [List.foldl_cons, ih, List.any_cons]
    by_cases hold : window ≤ now - e.2
    · rw [if_pos hold, JsMap.get?_delete]
      by_cases hk : k = e.1
      · rw [if_pos hk, ite_self, decide_eq_true hk, decide_eq_true hold, Bool.and_self,
          Bool.true_or, if_pos rfl]
      · rw [if_neg hk, decide_eq_false hk, Bool.false_and, Bool.false_or]
    · rw [if_neg hold, decide_eq_false hold, Bool.and_false, Bool.false_or]

/-- Expiry leaves the keys within the window. -/
theorem get?_expire (window now : T) (k : K) (m : JsMap K T) :
    (expire window now m).get? k = (m.get? k).filter fun t => now - t < window := by
  rw [expire, get?_foldl_expire]
  cases hk : m.get? k with
  | none => rw [ite_self, Option.filter_none]
  | some t =>
    have hany : (m.entries.any fun e => k = e.1 && window ≤ now - e.2) = true ↔
        window ≤ now - t := by
      rw [List.any_eq_true]
      constructor
      · rintro ⟨⟨k', t'⟩, hmem, h⟩
        rw [Bool.and_eq_true, decide_eq_true_eq, decide_eq_true_eq] at h
        obtain ⟨rfl, hold⟩ := h
        cases (JsMap.mem_entries.1 hmem).symm.trans hk
        exact hold
      · exact fun hold => ⟨(k, t), JsMap.mem_entries.2 hk, by simpa using hold⟩
    by_cases hold : window ≤ now - t
    · rw [if_pos (hany.2 hold), Option.filter_some_neg (by simpa using hold)]
    · rw [if_neg (mt hany.1 hold), Option.filter_some_pos (by simpa using hold)]

/-- A key is noted, and the old ones expire. -/
theorem get?_note (window now : T) (k k' : K) (m : JsMap K T) :
    (note window now k m).get? k' =
      if k' = k then some now else (m.get? k').filter fun t => now - t < window := by
  rw [note, JsMap.get?_set, get?_expire]

variable [IsOrderedAddMonoid T] {window now : T} {m : JsMap K T} {seen : Set (K × T)}

/-- The table keeps track. -/
theorem Tracks.note (h : Tracks window m seen) (k : K) (hnow : ∀ o ∈ seen, o.2 ≤ now) :
    Tracks window (note window now k m) (insert (k, now) seen) where
  stored k' t hget := by
    rw [get?_note] at hget
    split at hget
    next hk =>
      cases hget
      exact .inl (by rw [hk])
    next => exact .inr (h.stored k' t (Option.filter_eq_some_iff.1 hget).1)
  recent k' t later hmem hlater hrecent := by
    rw [get?_note]
    split
    next hk =>
      refine ⟨now, ?_, rfl⟩
      rcases hmem with hmem | hmem
      · exact (congrArg Prod.snd hmem).le
      · exact hnow _ hmem
    next hk =>
      have hmem : (k', t) ∈ seen := hmem.resolve_left fun hmem => hk (congrArg Prod.fst hmem)
      have hle : now ≤ later := hlater (k, now) (.inl rfl)
      have hrecent' : now - t < window := (sub_le_sub_right hle t).trans_lt hrecent
      obtain ⟨t', ht', hget⟩ := h.recent k' t now hmem hnow hrecent'
      refine ⟨t', ht', Option.filter_eq_some_iff.2 ⟨hget, decide_eq_true ?_⟩⟩
      exact (sub_le_sub_left ht' now).trans_lt hrecent'

/-- After a sighting the map has the keys seen in the window before it. -/
theorem Tracks.size_note (h : Tracks window m seen) (k : K) (hnow : ∀ o ∈ seen, o.2 ≤ now) :
    (RecentKeys.note window now k m).size =
      {k' | k' = k ∨ ∃ t, (k', t) ∈ seen ∧ now - t < window}.ncard := by
  have hkeys : {k' | k' = k ∨ ∃ t, (k', t) ∈ seen ∧ now - t < window} =
      ((RecentKeys.note window now k m).keys.toFinset : Set K) := by
    ext k'
    rw [List.coe_toFinset, Set.mem_ofPred_eq, Set.mem_ofPred_eq, JsMap.mem_keys, get?_note]
    by_cases hk : k' = k
    · simp [hk]
    · rw [if_neg hk, or_iff_right hk]
      constructor
      · rintro ⟨t, hmem, hrecent⟩
        obtain ⟨t', ht', hget⟩ := h.recent k' t now hmem hnow hrecent
        refine ⟨t', Option.filter_eq_some_iff.2 ⟨hget, decide_eq_true ?_⟩⟩
        exact (sub_le_sub_left ht' now).trans_lt hrecent
      · rintro ⟨t, hget⟩
        obtain ⟨hget, hrecent⟩ := Option.filter_eq_some_iff.1 hget
        exact ⟨t, h.stored k' t hget, of_decide_eq_true hrecent⟩
  rw [hkeys, Set.ncard_coe_finset, JsMap.keys, List.toFinset_card_of_nodup (JsMap.nodup _),
    List.length_map, JsMap.size]

end RecentKeys
