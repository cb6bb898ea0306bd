import Mathlib.Data.List.Sort

/-!
# Stable sorting

Insertion sort by a total preorder commutes with selection (`filter_insertionSort`), so
what is left out has no influence on the order of the rest. Selecting the ties of an
element in a sorted list gives them in their original order (`filter_ties`).
-/

set_option autoImplicit false

namespace StableSort

variable {α : Type*} {r : α → α → Prop} [DecidableRel r]

/-- An element that is related to all the others goes first. -/
theorem orderedInsert_of_forall {a : α} {l : List α} (h : ∀ b ∈ l, r a b) :
    l.orderedInsert r a = a :: l := by
  cases l with
  | nil => rfl
  | cons b l => exact List.orderedInsert_cons_of_le r l (h b List.mem_cons_self)

theorem filter_orderedInsert [IsTrans α r] (p : α → Bool) (a : α) {l : List α}
    (hl : l.Pairwise r) : (l.orderedInsert r a).filter p =
      if p a then (l.filter p).orderedInsert r a else l.filter p := by
  induction l with
  | nil =>
    rw [List.orderedInsert_nil, List.filter_cons]
    split <;> rfl
  | cons b l ih =>
    rw [List.orderedInsert_cons]
    by_cases hab : r a b
    · rw [if_pos hab, List.filter_cons]
      split
      · refine (orderedInsert_of_forall fun c hc => ?_).symm
        rcases List.mem_cons.1 (List.mem_filter.1 hc).1 with rfl | hc
        · exact hab
        · exact trans_of r hab (List.rel_of_pairwise_cons hl hc)
      · rfl
    · rw [if_neg hab, List.filter_cons, ih hl.of_cons, List.filter_cons]
      by_cases hb : p b = true
      · rw [if_pos hb, if_pos hb, List.orderedInsert_of_not_le r _ hab]
        split <;> rfl
      · rw [if_neg hb, if_neg hb]

variable [Std.Total r] [IsTrans α r]

/-- Sorting commutes with selection. -/
theorem filter_insertionSort (p : α → Bool) (l : List α) :
    (l.insertionSort r).filter p = (l.filter p).insertionSort r := by
  induction l with
  | nil => rfl
  | cons a l ih =>
    rw [List.insertionSort_cons, filter_orderedInsert p a (List.pairwise_insertionSort r l), ih,
      List.filter_cons]
    split <;> rfl

/-- Sorting keeps elements that are related both ways in place. -/
theorem filter_ties {p : α → Bool} (hp : ∀ a b, p a = true → p b = true → r a b) (l : List α) :
    (l.insertionSort r).filter p = l.filter p := by
  rw [filter_insertionSort]
  refine List.Pairwise.insertionSort_eq (List.pairwise_of_forall_mem_list fun a ha b hb => ?_)
  exact hp a b (List.mem_filter.1 ha).2 (List.mem_filter.1 hb).2

end StableSort
