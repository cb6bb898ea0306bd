import Mathlib.Algebra.BigOperators.Group.Multiset.Basic
import Mathlib.Data.Multiset.Filter
import QrlBackend.RoutingEffects

/-!
# What the manager holds

`buffered` is every buffered message with its channel, over all channel objects, and
`reserved` every live reservation. Both are multisets, so an operation is the messages it
takes out and the messages it puts in, and what it leaves alone does not appear.

An operation changes one buffer (`buffered_of_update`), creates a channel
(`buffered_of_created`), sorts messages out of one buffer (`buffered_of_filter`) or out of all
(`buffered_cleanup`), and it ends or grants a reservation (`reserved_of_released`,
`reserved_of_granted`).
-/

set_option autoImplicit false

namespace QrlBackend

variable {V : Type}

/-- The messages of one buffer, with the channel they are in. -/
def tagged (r : ChannelRef) (messages : List (BufferedMessage V)) :
    Multiset (ChannelRef × BufferedMessage V) :=
  (messages.map (Prod.mk r) : List (ChannelRef × BufferedMessage V))

@[simp] theorem tagged_nil (r : ChannelRef) : tagged r ([] : List (BufferedMessage V)) = 0 := rfl

theorem tagged_cons (r : ChannelRef) (message : BufferedMessage V)
    (messages : List (BufferedMessage V)) :
    tagged r (message :: messages) = (r, message) ::ₘ tagged r messages :=
  rfl

theorem tagged_append (r : ChannelRef) (l l' : List (BufferedMessage V)) :
    tagged r (l ++ l') = tagged r l + tagged r l' := by
  simp [tagged]

/-- The order of the messages does not matter. -/
theorem tagged_perm {r : ChannelRef} {l l' : List (BufferedMessage V)} (h : l.Perm l') :
    tagged r l = tagged r l' :=
  Multiset.coe_eq_coe.2 (h.map _)

/-- A filter splits a buffer. -/
theorem tagged_filter_add (r : ChannelRef) (p : BufferedMessage V → Bool)
    (l : List (BufferedMessage V)) :
    tagged r (l.filter p) + tagged r (l.filter fun message => !p message) = tagged r l := by
  rw [← tagged_append]
  exact tagged_perm (List.filter_append_perm p l)

/-- The entry that is evicted and the others are all there were. -/
theorem evictedEntry_append (l : List (BufferedMessage V)) :
    (ChannelManager.evictedEntry l).toList ++ afterEviction l = l := by
  cases h : ChannelManager.evictedEntry l with
  | none => exact ChannelManager.evictedEntry_eq_none h
  | some oldest => exact (ChannelManager.evictedEntry_eq_some h).symm

namespace ChannelManager

/-- Every buffered message, with its channel. -/
def buffered (m : ChannelManager V) : Multiset (ChannelRef × BufferedMessage V) :=
  m.objects.total fun r c => tagged r c.messageBuffer

/-- Every live reservation. -/
def reserved (m : ChannelManager V) : Multiset DirectDeliveryReservation :=
  m.directDeliveries.values

@[simp] theorem buffered_new (cap : Option ℕ) : buffered (new cap : ChannelManager V) = 0 :=
  ObjectHeap.total_empty _

@[simp] theorem reserved_new (cap : Option ℕ) : reserved (new cap : ChannelManager V) = 0 := rfl

/-- Changing the buffer of one channel takes its old messages out and puts its new ones in. -/
theorem buffered_of_update {m m' : ChannelManager V} {r : ChannelRef}
    {b : List (BufferedMessage V)} (hr : r < m.objects.next)
    (hnext : m'.objects.next = m.objects.next)
    (h : ∀ r', (m'.content r').messageBuffer = if r' = r then b else (m.content r').messageBuffer) :
    buffered m' + tagged r (m.content r).messageBuffer = buffered m + tagged r b := by
  have hb : (m'.content r).messageBuffer = b := by rw [h, if_pos rfl]
  have hsum := ObjectHeap.total_update (w := fun r (c : Channel V) => tagged r c.messageBuffer)
    hnext hr fun r' hr' => by
      change tagged r' (m'.content r').messageBuffer = tagged r' (m.content r').messageBuffer
      rw [h, if_neg hr']
  rw [← hb]
  exact hsum

/-- The same buffers hold the same messages. -/
theorem buffered_of_same {m m' : ChannelManager V} (hnext : m'.objects.next = m.objects.next)
    (h : ∀ r, (m'.content r).messageBuffer = (m.content r).messageBuffer) :
    buffered m' = buffered m :=
  ObjectHeap.total_congr hnext fun r => congrArg (tagged r) (h r)

/-- A new channel adds what is in its buffer. -/
theorem buffered_of_created {m m' : ChannelManager V} (hnext : m'.objects.next = m.objects.next + 1)
    (h : ∀ r, r ≠ m.objects.next → (m'.content r).messageBuffer = (m.content r).messageBuffer)
    (hempty : (m'.content m.objects.next).messageBuffer = []) : buffered m' = buffered m := by
  have hsum := ObjectHeap.total_grow (w := fun r (c : Channel V) => tagged r c.messageBuffer)
    hnext fun r hr => congrArg (tagged r) (h r hr)
  refine hsum.trans ?_
  have hzero : tagged m.objects.next (m'.objects.get m.objects.next).messageBuffer = 0 :=
    congrArg (tagged m.objects.next) hempty
  rw [hzero, add_zero]
  rfl

/-- Filtering the buffer of one channel takes out what the filter drops. -/
theorem buffered_of_filter {m m' : ChannelManager V} {r : ChannelRef}
    (p : BufferedMessage V → Bool) (hr : r < m.objects.next)
    (hnext : m'.objects.next = m.objects.next)
    (h : ∀ r', (m'.content r').messageBuffer =
      if r' = r then (m.content r).messageBuffer.filter fun message => !p message
      else (m.content r').messageBuffer) :
    buffered m = tagged r ((m.content r).messageBuffer.filter p) + buffered m' := by
  have hsum := buffered_of_update hr hnext h
  rw [← tagged_filter_add r p, ← add_assoc] at hsum
  rw [add_comm, add_right_cancel hsum]

/-- What is buffered is in the buffer of a channel object. -/
theorem mem_buffered {m : ChannelManager V} {r : ChannelRef} {message : BufferedMessage V} :
    (r, message) ∈ buffered m ↔ r < m.objects.next ∧ message ∈ (m.content r).messageBuffer := by
  simp only [buffered, ObjectHeap.total, Multiset.mem_sum, Finset.mem_range, tagged,
    Multiset.mem_coe, List.mem_map, Prod.mk.injEq]
  constructor
  · rintro ⟨r', hr', message', hmem, rfl, rfl⟩
    exact ⟨hr', hmem⟩
  · rintro ⟨hr, hmem⟩
    exact ⟨r, hr, message, hmem, rfl, rfl⟩

/-- What `cleanup` drops. -/
def Expires (now : ℕ) (m : ChannelManager V) (e : ChannelRef × BufferedMessage V) : Prop :=
  e.1 ∈ m.channels.values ∧ bufferTtlMs ≤ now - e.2.timestamp

instance (now : ℕ) (m : ChannelManager V) : DecidablePred (Expires now m) := fun _ =>
  inferInstanceAs (Decidable (_ ∧ _))

/-- `cleanup` takes the expired messages of the mapped channels out. -/
theorem buffered_cleanup (now : ℕ) (m : ChannelManager V) :
    buffered (cleanup now m) = (buffered m).filter fun e => ¬Expires now m e := by
  obtain ⟨hc, -, -, hnext, -⟩ := cleanup_spec now m
  let keep : Multiset (ChannelRef × BufferedMessage V) →+
      Multiset (ChannelRef × BufferedMessage V) :=
    ⟨⟨Multiset.filter fun e => ¬Expires now m e, Multiset.filter_zero _⟩,
      Multiset.filter_add _⟩
  change _ = keep (buffered m)
  rw [buffered, buffered, ObjectHeap.total, ObjectHeap.total, hnext, map_sum]
  refine Finset.sum_congr rfl fun r _ => ?_
  change tagged r ((cleanup now m).content r).messageBuffer =
    Multiset.filter (fun e => ¬Expires now m e) (tagged r (m.content r).messageBuffer)
  rw [hc, tagged, tagged, Multiset.filter_coe, List.filter_map, Multiset.coe_eq_coe]
  split
  next hr =>
    refine List.Perm.of_eq (congrArg _ (List.filter_congr fun message _ => ?_))
    simp [Expires, hr, isFresh]
  next hr =>
    rw [List.filter_eq_self.2]
    intro message _
    simp [Expires, hr]

theorem reserved_congr {m m' : ChannelManager V}
    (h : ∀ s, m'.directDeliveries.get? s = m.directDeliveries.get? s) : reserved m' = reserved m :=
  Multiset.coe_eq_coe.2 (JsMap.values_perm h)

/-- What is reserved is the reservation of some socket. -/
theorem mem_reserved {m : ChannelManager V} {reservation : DirectDeliveryReservation} :
    reservation ∈ reserved m ↔ ∃ s, m.directDeliveries.get? s = some reservation :=
  JsMap.mem_values

/-- Releasing a socket's reservation takes it out. -/
theorem reserved_of_released {m m' : ChannelManager V} {s : SocketId}
    {reservation : DirectDeliveryReservation} (h : m.directDeliveries.get? s = some reservation)
    (hdd : ∀ s', m'.directDeliveries.get? s' =
      if s' = s then none else m.directDeliveries.get? s') :
    reserved m = reservation ::ₘ reserved m' := by
  have hperm : m'.directDeliveries.values.Perm (m.directDeliveries.delete s).values :=
    JsMap.values_perm fun s' => (hdd s').trans (m.directDeliveries.get?_delete s s').symm
  exact Multiset.coe_eq_coe.2 ((JsMap.values_perm_delete h).trans (hperm.symm.cons reservation))

/-- Granting a free socket a reservation puts it in. -/
theorem reserved_of_granted {m m' : ChannelManager V} {s : SocketId}
    {reservation : DirectDeliveryReservation} (h : m.directDeliveries.get? s = none)
    (hdd : m'.directDeliveries = m.directDeliveries.set s reservation) :
    reserved m' = reservation ::ₘ reserved m := by
  rw [reserved, reserved, hdd, JsMap.values_set_of_none _ h, ← Multiset.coe_add, add_comm]
  rfl

end ChannelManager

end QrlBackend
