import QrlBackend.JsMap
import Mathlib.Data.List.Count

/-!
# Tallies

A map from keys to numbers that counts how often each key occurs in a list and has no entry
for a key that does not (`Tallies`). One more occurrence adds one to the key's number, one
less takes one off or deletes the key with its last occurrence.
-/

set_option autoImplicit false

namespace JsMap

variable {K : Type*} [DecidableEq K]

/-- The map has the number of occurrences of each key of the list, and no other key. -/
def Tallies (m : JsMap K ℕ) (l : List K) : Prop :=
  ∀ k, m.get? k = if l.count k = 0 then none else some (l.count k)

theorem tallies_empty : Tallies (empty : JsMap K ℕ) [] := fun k => by simp

namespace Tallies

variable {m : JsMap K ℕ} {l l' : List K} {k : K}

theorem perm (h : Tallies m l) (hperm : l.Perm l') : Tallies m l' := by
  intro k
  rw [← hperm.count_eq k]
  exact h k

theorem getD (h : Tallies m l) (k : K) : (m.get? k).getD 0 = l.count k := by
  rw [h k]
  split
  next hzero => rw [hzero, Option.getD_none]
  next => rw [Option.getD_some]

/-- The number of a key that occurs, whatever the default. -/
theorem getD_of_mem (h : Tallies m (k :: l)) (d : ℕ) : (m.get? k).getD d = l.count k + 1 := by
  rw [h k, if_neg (by simp), Option.getD_some, List.count_cons_self]

/-- One more occurrence. -/
theorem enter (h : Tallies m l) (k : K) : Tallies (m.set k ((m.get? k).getD 0 + 1)) (k :: l) := by
  intro k'
  rw [get?_set, h.getD]
  by_cases hk : k' = k
  · subst hk
    rw [if_pos rfl, List.count_cons_self, if_neg (Nat.succ_ne_zero _)]
  · rw [if_neg hk, List.count_cons_of_ne (Ne.symm hk), h k']

/-- The last occurrence goes. -/
theorem delete (h : Tallies m (k :: l)) (hlast : l.count k = 0) : Tallies (m.delete k) l := by
  intro k'
  rw [get?_delete]
  by_cases hk : k' = k
  · subst hk
    rw [if_pos rfl, if_pos hlast]
  · rw [if_neg hk, h k', List.count_cons_of_ne (Ne.symm hk)]

/-- An occurrence goes that is not the last. -/
theorem set (h : Tallies m (k :: l)) (hmore : l.count k ≠ 0) :
    Tallies (m.set k (l.count k)) l := by
  intro k'
  rw [get?_set]
  by_cases hk : k' = k
  · subst hk
    rw [if_pos rfl, if_neg hmore]
  · rw [if_neg hk, h k', List.count_cons_of_ne (Ne.symm hk)]

/-- One occurrence less. -/
theorem leave (h : Tallies m (k :: l)) :
    Tallies (if (m.get? k).getD 0 ≤ 1 then m.delete k else m.set k ((m.get? k).getD 0 - 1)) l := by
  rw [h.getD_of_mem, Nat.add_sub_cancel]
  split
  next hlast => exact h.delete (by omega)
  next hmore => exact h.set (by omega)

end Tallies

end JsMap
