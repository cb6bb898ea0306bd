import QrlBackend.ObjectHeap
import QrlBackend.Runs
import QrlBackend.Tallies
import Mathlib.Tactic.Ring

/-!
# Admission slots

The counters that bound concurrent upstream calls, in `services/rpc.service.ts` and in
`routes/ipfs.routes.ts`. Taking a slot adds to the counters and returns a callback, and the
first call of the callback takes the same amounts off again. A callback is a closure with
its own `released` variable, so it is an object, and a slot is the reference to it. The RPC
service also counts the slots of each client.

However slots are taken and released, the counters are those of the slots that are taken
and not released (`Exact`), and within the limits (`Exact.acquire`, `Exact.release`).
-/

set_option autoImplicit false

namespace QrlBackend

/-- What the callback of a slot closes over. -/
structure Slot where
  clientKey : Option String
  reservation : ℕ
  released : Bool
  deriving Inhabited

structure SlotLimits where
  maxConcurrent : ℕ
  maxInflightBytes : ℕ
  /-- The bytes a slot reserves. -/
  reservation : ℕ

structure Slots where
  active : ℤ
  reservedBytes : ℤ
  activeByClient : JsMap String ℕ
  closures : ObjectHeap Slot

namespace Slots

def empty : Slots where
  active := 0
  reservedBytes := 0
  activeByClient := .empty
  closures := .empty

/-- Take a slot, unless a limit is reached. -/
def acquire (limits : SlotLimits) (st : Slots) (clientKey : Option String) : Option ℕ × Slots :=
  if limits.maxConcurrent ≤ st.active ∨
      limits.maxInflightBytes < st.reservedBytes + limits.reservation then (none, st)
  else
    (some st.closures.next, {
      active := st.active + 1
      reservedBytes := st.reservedBytes + limits.reservation
      activeByClient := match clientKey with
        | none => st.activeByClient
        | some key => st.activeByClient.set key ((st.activeByClient.get? key).getD 0 + 1)
      closures := st.closures.alloc ⟨clientKey, limits.reservation, false⟩ })

/-- Set the `released` variable of a callback. -/
def releasedBy (closures : ObjectHeap Slot) (slot : ℕ) : ObjectHeap Slot :=
  closures.modify slot fun closure => { closure with released := true }

/-- The callback of a slot. -/
def release (st : Slots) (slot : ℕ) : Slots :=
  let closure := st.closures.get slot
  if closure.released then st
  else {
    active := st.active - 1
    reservedBytes := st.reservedBytes - closure.reservation
    activeByClient := match closure.clientKey with
      | none => st.activeByClient
      | some key =>
        let remaining := (st.activeByClient.get? key).getD 1 - 1
        if remaining ≤ 0 then st.activeByClient.delete key
        else st.activeByClient.set key remaining
    closures := releasedBy st.closures slot }

/-! ## The outstanding slots -/

section Closures

/-- The slots taken and not released, in the order they were taken. -/
def outstanding (closures : ObjectHeap Slot) : List ℕ :=
  (List.range closures.next).filter fun slot => !(closures.get slot).released

/-- The clients of the outstanding slots. -/
def clients (closures : ObjectHeap Slot) : List String :=
  (outstanding closures).filterMap fun slot => (closures.get slot).clientKey

variable {closures : ObjectHeap Slot} {slot : ℕ} {closure : Slot}

/-- A slot is outstanding until it is released. -/
theorem mem_outstanding : slot ∈ outstanding closures ↔
    slot < closures.next ∧ (closures.get slot).released = false := by
  simp [outstanding]

theorem nodup_outstanding (closures : ObjectHeap Slot) : (outstanding closures).Nodup :=
  List.nodup_range.filter _

/-- A new slot is outstanding. -/
theorem outstanding_alloc (hnew : closure.released = false) :
    outstanding (closures.alloc closure) = outstanding closures ++ [closures.next] := by
  have hkept : ∀ slot ∈ List.range closures.next,
      (closures.alloc closure).get slot = closures.get slot := fun slot hslot =>
    ObjectHeap.get_alloc_of_ne _ _ (List.mem_range.1 hslot).ne
  have hold : (List.range closures.next).filter
      (fun slot => !((closures.alloc closure).get slot).released) = outstanding closures :=
    List.filter_congr fun slot hslot => by rw [hkept slot hslot]
  have hnext : (closures.alloc closure).next = closures.next + 1 := rfl
  rw [outstanding, hnext, List.range_succ, List.filter_append, hold,
    List.filter_singleton, ObjectHeap.get_alloc_next, hnew]
  rfl

/-- A new slot adds its client. -/
theorem clients_alloc (hnew : closure.released = false) :
    clients (closures.alloc closure) = clients closures ++ closure.clientKey.toList := by
  have hkept : ∀ slot ∈ outstanding closures,
      (closures.alloc closure).get slot = closures.get slot := fun slot hslot =>
    ObjectHeap.get_alloc_of_ne _ _ (mem_outstanding.1 hslot).1.ne
  rw [clients, outstanding_alloc hnew, List.filterMap_append, clients]
  congr 1
  · exact List.filterMap_congr fun slot hslot => by rw [hkept slot hslot]
  · rw [List.filterMap_cons, ObjectHeap.get_alloc_next, List.filterMap_nil]
    cases closure.clientKey <;> rfl

theorem clientKey_releasedBy (slot slot' : ℕ) :
    ((releasedBy closures slot).get slot').clientKey = (closures.get slot').clientKey := by
  rw [releasedBy, ObjectHeap.get_modify]
  split
  next h => rw [h]
  next => rfl

/-- A slot that is released is not outstanding, and the others are. -/
theorem outstanding_releasedBy (slot : ℕ) :
    outstanding (releasedBy closures slot) = (outstanding closures).filter (· ≠ slot) := by
  rw [outstanding, outstanding, List.filter_filter]
  refine List.filter_congr fun slot' _ => ?_
  rw [releasedBy, ObjectHeap.get_modify]
  by_cases h : slot' = slot <;> simp [h]

theorem outstanding_perm (h : slot ∈ outstanding closures) :
    (outstanding closures).Perm (slot :: outstanding (releasedBy closures slot)) := by
  have herase : (outstanding closures).erase slot = (outstanding closures).filter (· ≠ slot) := by
    rw [(nodup_outstanding closures).erase_eq_filter]
    exact List.filter_congr fun slot' _ => by by_cases hs : slot' = slot <;> simp [hs]
  rw [outstanding_releasedBy, ← herase]
  exact List.perm_cons_erase h

/-- Its client is one of the clients. -/
theorem clients_perm (h : slot ∈ outstanding closures) :
    (clients closures).Perm
      ((closures.get slot).clientKey.toList ++ clients (releasedBy closures slot)) := by
  have hsame : clients (releasedBy closures slot) =
      (outstanding (releasedBy closures slot)).filterMap fun slot =>
        (closures.get slot).clientKey :=
    List.filterMap_congr fun slot' _ => clientKey_releasedBy slot slot'
  have hperm := (outstanding_perm h).filterMap fun slot => (closures.get slot).clientKey
  rw [hsame]
  refine hperm.trans (.of_eq ?_)
  rw [List.filterMap_cons]
  cases (closures.get slot).clientKey <;> rfl

end Closures

/-- The counters are those of the outstanding slots, which are within the limits. -/
structure Exact (limits : SlotLimits) (st : Slots) : Prop where
  active : st.active = (outstanding st.closures).length
  reservedBytes : st.reservedBytes = (outstanding st.closures).length * limits.reservation
  activeByClient : st.activeByClient.Tallies (clients st.closures)
  /-- Every callback gives back what its slot took. -/
  reservation : ∀ slot < st.closures.next, (st.closures.get slot).reservation = limits.reservation
  concurrent : st.active ≤ limits.maxConcurrent
  bytes : st.reservedBytes ≤ limits.maxInflightBytes

/-- Without slots all counts are zero. -/
theorem exact_empty (limits : SlotLimits) : Exact limits empty where
  active := rfl
  reservedBytes := by simp [empty, outstanding, ObjectHeap.empty]
  activeByClient := JsMap.tallies_empty
  reservation slot h := absurd h (Nat.not_lt_zero slot)
  concurrent := Int.natCast_nonneg _
  bytes := Int.natCast_nonneg _

variable {limits : SlotLimits} {st : Slots} {clientKey : Option String} {slot : ℕ}

/-- A refused request for a slot changes nothing. -/
theorem acquire_refused (h : (st.acquire limits clientKey).1 = none) :
    (st.acquire limits clientKey).2 = st := by
  unfold acquire at h ⊢
  split at h
  next hfull => rw [if_pos hfull]
  next => cases h

/-- A slot taken is a new one. -/
theorem closures_acquire (h : (st.acquire limits clientKey).1 = some slot) :
    slot = st.closures.next ∧ (st.acquire limits clientKey).2.closures =
      st.closures.alloc ⟨clientKey, limits.reservation, false⟩ := by
  unfold acquire at h ⊢
  split at h
  · cases h
  next hroom =>
    rw [if_neg hroom]
    exact ⟨(Option.some.inj h).symm, rfl⟩

/-- A slot that is given out is counted, and a refusal changes nothing. -/
theorem Exact.acquire (h : Exact limits st) (clientKey : Option String) :
    Exact limits (st.acquire limits clientKey).2 := by
  unfold Slots.acquire
  split
  · exact h
  next hroom =>
    rw [not_or, not_le, not_lt] at hroom
    have hnew : (⟨clientKey, limits.reservation, false⟩ : Slot).released = false := rfl
    have hlen : (outstanding (st.closures.alloc ⟨clientKey, limits.reservation, false⟩)).length =
        (outstanding st.closures).length + 1 := by
      rw [outstanding_alloc hnew, List.length_append, List.length_singleton]
    refine ⟨?_, ?_, ?_, fun slot hslot => ?_, Int.add_one_le_iff.2 hroom.1, hroom.2⟩
    · dsimp only
      rw [hlen, h.active]
      rfl
    · dsimp only
      rw [hlen, h.reservedBytes]
      push_cast
      ring
    · dsimp only
      rw [clients_alloc hnew]
      cases clientKey with
      | none => simpa using h.activeByClient
      | some key => exact (h.activeByClient.enter key).perm (List.perm_append_singleton _ _).symm
    · dsimp only
      rw [ObjectHeap.get_alloc]
      split
      · rfl
      next hne => exact h.reservation slot (Nat.lt_of_le_of_ne (Nat.le_of_lt_succ hslot) hne)

/-- The first call of a callback takes its slot off the counters. -/
theorem Exact.release (h : Exact limits st) (hlt : slot < st.closures.next) :
    Exact limits (st.release slot) := by
  unfold Slots.release
  dsimp only
  split
  · exact h
  next hfirst =>
    rw [Bool.not_eq_true] at hfirst
    have hmem : slot ∈ outstanding st.closures := mem_outstanding.2 ⟨hlt, hfirst⟩
    have hlen := (outstanding_perm hmem).length_eq
    rw [List.length_cons] at hlen
    have hclients := clients_perm hmem
    have hactive := h.active
    have hbytes := h.reservedBytes
    rw [hlen] at hactive hbytes
    push_cast at hactive hbytes
    refine ⟨?_, ?_, ?_, fun slot' hslot' => ?_, ?_, ?_⟩
    · dsimp only
      rw [hactive, add_sub_cancel_right]
    · dsimp only
      rw [hbytes, h.reservation slot hlt]
      ring
    · have htally := h.activeByClient.perm hclients
      dsimp only
      cases hkey : (st.closures.get slot).clientKey with
      | none => rwa [hkey] at htally
      | some key =>
        rw [hkey] at htally
        have hcount := htally.getD_of_mem 1
        dsimp only
        rw [hcount, Nat.add_sub_cancel]
        split
        next hlast => exact htally.delete (Nat.le_zero.1 hlast)
        next hmore => exact htally.set (by omega)
    · dsimp only
      rw [releasedBy, ObjectHeap.get_modify]
      split
      · exact h.reservation slot hlt
      · exact h.reservation slot' hslot'
    · exact (sub_le_self _ Int.one_nonneg).trans h.concurrent
    · exact (sub_le_self _ (Int.natCast_nonneg _)).trans h.bytes

/-- A callback called again does nothing. -/
theorem release_twice (st : Slots) (slot : ℕ) :
    (st.release slot).release slot = st.release slot := by
  have hreleased : ((st.release slot).closures.get slot).released = true := by
    unfold release
    dsimp only
    split
    next h => exact h
    next => simp [releasedBy, ObjectHeap.get_modify]
  generalize st.release slot = st' at hreleased ⊢
  unfold release
  dsimp only
  rw [if_pos hreleased]

end Slots

end QrlBackend
