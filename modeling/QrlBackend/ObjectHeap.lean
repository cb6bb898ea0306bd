import Mathlib.Algebra.BigOperators.Group.Finset.Basic
import Mathlib.Algebra.Order.BigOperators.Group.Finset

/-!
# Objects with identity

A program that keeps references to mutable objects can hold on to an object after every
table has dropped it. `ObjectHeap` gives each allocated object a reference, a natural
number handed out in order, and never forgets an object. A reference stays the same
through updates of the object behind it, and no reference is handed out twice.

`total` adds a weight over every object ever allocated, reachable or not. A change of one
object changes it by that object's weight before and after (`total_update`).
`total_eq_of_support` restricts the sum to the objects that weigh anything.
-/

set_option autoImplicit false

/-- The objects allocated so far. The references below `next` are in use. -/
structure ObjectHeap (α : Type*) where
  cells : ℕ → α
  next : ℕ

namespace ObjectHeap

variable {α : Type*}

/-- No object allocated. The cells hold a filler no reference points to. -/
def empty [Inhabited α] : ObjectHeap α := ⟨fun _ => default, 0⟩

/-- The object behind a reference. -/
def get (h : ObjectHeap α) (r : ℕ) : α := h.cells r

/-- Update the object behind a reference. -/
def modify (h : ObjectHeap α) (r : ℕ) (f : α → α) : ObjectHeap α where
  cells r' := if r' = r then f (h.cells r) else h.cells r'
  next := h.next

/-- Allocate an object. Its reference is `h.next`. -/
def alloc (h : ObjectHeap α) (a : α) : ObjectHeap α where
  cells r' := if r' = h.next then a else h.cells r'
  next := h.next + 1

theorem get_modify (h : ObjectHeap α) (r r' : ℕ) (f : α → α) :
    (h.modify r f).get r' = if r' = r then f (h.get r) else h.get r' :=
  rfl

theorem get_alloc (h : ObjectHeap α) (a : α) (r : ℕ) :
    (h.alloc a).get r = if r = h.next then a else h.get r :=
  rfl

@[simp] theorem get_alloc_next (h : ObjectHeap α) (a : α) : (h.alloc a).get h.next = a := by
  simp [get_alloc]

theorem get_alloc_of_ne (h : ObjectHeap α) (a : α) {r : ℕ} (hr : r ≠ h.next) :
    (h.alloc a).get r = h.get r := by
  simp [get_alloc, hr]

/-! ## Sums over objects -/

section Total

variable {M : Type*} [AddCommMonoid M]

/-- The sum of a weight over the allocated objects. -/
def total (w : ℕ → α → M) (h : ObjectHeap α) : M := ∑ r ∈ Finset.range h.next, w r (h.get r)

@[simp] theorem total_empty [Inhabited α] (w : ℕ → α → M) :
    (empty : ObjectHeap α).total w = 0 := by
  simp [total, empty]

/-- If one object at most changes its weight, the sum changes by its weight before and
after. -/
theorem total_update {w : ℕ → α → M} {h h' : ObjectHeap α} {r : ℕ} (hnext : h'.next = h.next)
    (hr : r < h.next) (hother : ∀ r', r' ≠ r → w r' (h'.get r') = w r' (h.get r')) :
    h'.total w + w r (h.get r) = h.total w + w r (h'.get r) := by
  have hmem : r ∈ Finset.range h.next := Finset.mem_range.2 hr
  have hrest : ∑ x ∈ (Finset.range h.next).erase r, w x (h'.get x) =
      ∑ x ∈ (Finset.range h.next).erase r, w x (h.get x) :=
    Finset.sum_congr rfl fun x hx => hother x (Finset.ne_of_mem_erase hx)
  rw [total, total, hnext, ← Finset.add_sum_erase _ _ hmem,
    ← Finset.add_sum_erase (Finset.range h.next) _ hmem, hrest]
  rw [add_right_comm, add_comm (w r (h'.get r)), add_right_comm]

/-- If no object changes its weight, the sum is the same. -/
theorem total_congr {w : ℕ → α → M} {h h' : ObjectHeap α} (hnext : h'.next = h.next)
    (hsame : ∀ r, w r (h'.get r) = w r (h.get r)) : h'.total w = h.total w := by
  rw [total, total, hnext]
  exact Finset.sum_congr rfl fun r _ => hsame r

/-- A new object adds its weight. -/
theorem total_grow {w : ℕ → α → M} {h h' : ObjectHeap α} (hnext : h'.next = h.next + 1)
    (hsame : ∀ r, r ≠ h.next → w r (h'.get r) = w r (h.get r)) :
    h'.total w = h.total w + w h.next (h'.get h.next) := by
  rw [total, total, hnext, Finset.sum_range_succ]
  congr 1
  exact Finset.sum_congr rfl fun r hr => hsame r (Finset.mem_range.1 hr).ne

/-- If only the objects behind the references `rs` weigh anything, the sum is over them. -/
theorem total_eq_of_support (w : ℕ → α → M) (h : ObjectHeap α) {rs : List ℕ} (hnd : rs.Nodup)
    (hlt : ∀ r ∈ rs, r < h.next) (hzero : ∀ r < h.next, r ∉ rs → w r (h.get r) = 0) :
    h.total w = (rs.map fun r => w r (h.get r)).sum := by
  rw [← List.sum_toFinset _ hnd, total]
  refine (Finset.sum_subset (fun r hr => ?_) fun r hr hr' => ?_).symm
  · exact Finset.mem_range.2 (hlt r (List.mem_toFinset.1 hr))
  · exact hzero r (Finset.mem_range.1 hr) fun h => hr' (List.mem_toFinset.2 h)

end Total

end ObjectHeap
