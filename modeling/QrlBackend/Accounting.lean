import Mathlib.Algebra.GroupWithZero.Nat
import QrlBackend.Ledger

/-!
# Byte accounting

`byte_accounting` says what each of the five counters is in terms of the buffers and the
reservations the maps hold. The exact counters add over every channel object ever created.
Under a clock that never goes back an object without an entry holds nothing, so the sums
are over the map.
-/

set_option autoImplicit false

namespace QrlBackend

variable {V : Type}

namespace ChannelManager

/-! ## The counters over the maps -/

/-- The buffered bytes of a channel that came from an address. -/
def bufferedFrom (m : ChannelManager V) (ip : String) (r : ChannelRef) : ℕ :=
  (((m.channel r).messageBuffer.filter (·.sourceIp = ip)).map (·.sizeBytes)).sum

/-- The bytes retained on behalf of an address : buffered in a channel of the map, or
reserved. -/
def bytesFrom (m : ChannelManager V) (ip : String) : ℕ :=
  (m.channels.values.map (m.bufferedFrom ip)).sum +
    ((m.directDeliveries.values.filter (·.sourceIp = ip)).map (·.sizeBytes)).sum

/-- What the byte counters are. -/
structure AccountsExactly (m : ChannelManager V) : Prop where
  bufferedBytes : ∀ r < m.objects.next, (m.channel r).bufferedBytes =
    ((m.channel r).messageBuffer.map (·.sizeBytes)).sum
  directInflightBytes : ∀ r < m.objects.next, (m.channel r).directInflightBytes =
    ((m.directDeliveries.values.filter (·.channel = r)).map (·.sizeBytes)).sum
  totalBufferedBytes : m.totalBufferedBytes =
    (m.channels.values.map fun r => (m.channel r).bufferedBytes).sum
  totalDirectInflightBytes : m.totalDirectInflightBytes =
    (m.directDeliveries.values.map (·.sizeBytes)).sum
  bufferedBytesByIp : ∀ ip, m.bufferedBytesByIp.get? ip = nonzero (m.bytesFrom ip)
  /-- No `Math.max(0, ..)` ever changed a value. -/
  unclamped : m.clamped = false

theorem bytes_tagged (p : Holding → Prop) [DecidablePred p] (r : ChannelRef)
    (messages : List (BufferedMessage V)) :
    bytes p ((tagged r messages).map heldInBuffer) =
      ((messages.filter fun message => p (heldInBuffer (r, message))).map (·.sizeBytes)).sum := by
  induction messages with
  | nil => simp
  | cons message messages ih =>
    rw [tagged_cons, Multiset.map_cons, bytes_cons, ih]
    by_cases hp : p (heldInBuffer (r, message))
    · rw [if_pos hp, List.filter_cons_of_pos (by simpa using hp), List.map_cons, List.sum_cons]
      rfl
    · rw [if_neg hp, List.filter_cons_of_neg (by simpa using hp), zero_add]

theorem bytes_reserved (p : Holding → Prop) [DecidablePred p] (m : ChannelManager V) :
    bytes p ((reserved m).map heldInFlight) =
      ((m.directDeliveries.values.filter fun d => p (heldInFlight d)).map (·.sizeBytes)).sum := by
  unfold reserved
  induction m.directDeliveries.values with
  | nil => simp
  | cons d ds ih =>
    rw [← Multiset.cons_coe, Multiset.map_cons, bytes_cons, ih]
    by_cases hp : p (heldInFlight d)
    · rw [if_pos hp, List.filter_cons_of_pos (by simpa using hp), List.map_cons, List.sum_cons]
      rfl
    · rw [if_neg hp, List.filter_cons_of_neg (by simpa using hp), zero_add]

/-- The bytes of the buffered messages, object by object. -/
theorem bytes_buffered (p : Holding → Prop) [DecidablePred p] (m : ChannelManager V) :
    bytes p ((buffered m).map heldInBuffer) = m.objects.total fun r c =>
      ((c.messageBuffer.filter fun message => p (heldInBuffer (r, message))).map
        (·.sizeBytes)).sum := by
  let weigh : Multiset (ChannelRef × BufferedMessage V) →+ ℕ :=
    ⟨⟨fun held => bytes p (held.map heldInBuffer), by simp⟩, by simp⟩
  change weigh (buffered m) = _
  rw [buffered, ObjectHeap.total, map_sum]
  exact Finset.sum_congr rfl fun r _ => bytes_tagged p r _

theorem values_nodup {m : ChannelManager V} (hm : MapSound m) : m.channels.values.Nodup := by
  refine m.channels.nodup.of_map.map_on fun e he e' he' h => ?_
  have h' : m.channels.get? e'.1 = some e.2 := by
    rw [h]
    exact JsMap.mem_entries.1 he'
  exact Prod.ext (hm.injective e.1 e'.1 e.2 (JsMap.mem_entries.1 he) h') h

/-- If nothing is buffered in an orphan, the buffered bytes are those of the map. -/
theorem bytes_buffered_map {m : ChannelManager V} (hm : MapSound m)
    (horphan : ∀ r < m.objects.next, ¬Mapped m r → (m.content r).messageBuffer = [])
    (p : Holding → Prop) [DecidablePred p] :
    bytes p ((buffered m).map heldInBuffer) = (m.channels.values.map fun r =>
      (((m.channel r).messageBuffer.filter fun message => p (heldInBuffer (r, message))).map
        (·.sizeBytes)).sum).sum := by
  rw [bytes_buffered]
  refine ObjectHeap.total_eq_of_support _ _ (values_nodup hm) (fun r hr => ?_) fun r hr hnot => ?_
  · obtain ⟨id, hid⟩ := JsMap.mem_values.1 hr
    exact hm.lt_next id r hid
  · have hempty : (m.objects.get r).messageBuffer = [] :=
      horphan r hr fun ⟨id, hid⟩ => hnot (JsMap.mem_values.2 ⟨id, hid⟩)
    rw [hempty]
    rfl

theorem Exact.bufferedBytes {m : ChannelManager V} (h : Exact m) {r : ChannelRef}
    (hr : r < m.objects.next) :
    (m.channel r).bufferedBytes = ((m.channel r).messageBuffer.map (·.sizeBytes)).sum := by
  rw [h.exact.buffered, bytes_buffered]
  have hsum := ObjectHeap.total_eq_of_support (fun x (c : Channel V) =>
    ((c.messageBuffer.filter fun message => (heldInBuffer (x, message)).channel = r).map
      (·.sizeBytes)).sum) m.objects (List.nodup_singleton r) (by simpa using hr) fun x _ hx => by
        have hne : x ≠ r := by simpa using hx
        simp [heldInBuffer, hne]
  rw [hsum]
  simp only [heldInBuffer, List.map_singleton, List.sum_singleton, decide_true, List.filter_true]
  rfl

theorem Exact.accountsExactly {m : ChannelManager V} (h : Exact m) (hm : MapSound m)
    (horphan : ∀ r < m.objects.next, ¬Mapped m r → (m.content r).messageBuffer = []) :
    AccountsExactly m where
  bufferedBytes _ hr := h.bufferedBytes hr
  directInflightBytes r _ := by
    rw [h.exact.inflight, bytes_reserved]
    rfl
  totalBufferedBytes := by
    rw [h.exact.totalBuffered, bytes_buffered_map hm horphan]
    refine congrArg List.sum (List.map_congr_left fun r hr => ?_)
    obtain ⟨id, hid⟩ := JsMap.mem_values.1 hr
    rw [h.bufferedBytes (hm.lt_next id r hid)]
    simp
  totalDirectInflightBytes := by
    rw [h.exact.totalInflight, bytes_reserved]
    simp
  bufferedBytesByIp ip := by
    rw [h.exact.byIp, holdings, bytes_add, bytes_buffered_map hm horphan, bytes_reserved]
    rfl
  unclamped := h.exact.unclamped

/-- Under a clock that never goes back, the counters of every run with prompt calls are the
bytes of the buffers and reservations the maps hold. -/
theorem byte_accounting [Unknown V] (cfg : Config) (cap : Option ℕ) {calls : List (Call V)}
    (hclock : ClockMonotone calls) (hprompt : Prompt calls) :
    AccountsExactly (after cfg cap calls) :=
  (exact_after cfg cap calls).accountsExactly (mapSound_after cfg cap calls)
    (orphan_messageBuffer cfg cap hclock hprompt)

/-- A dApp alone in its channel : its message is buffered, and every counter says so. -/
theorem byte_accounting_buffered :
    let m : ChannelManager String := after .unset none
      [⟨0, .join (fun _ => true) "channel" 1 .dapp none (some "ip")⟩,
        ⟨5, .routeMessage (fun _ => true) "channel" 1
          ⟨"channel", .dapp, "hello", none, ⟨1, 0⟩⟩ "ip" 5⟩]
    AccountsExactly m ∧ m.totalBufferedBytes = 54 ∧ m.bufferedBytesByIp.entries = [("ip", 54)] :=
  ⟨byte_accounting .unset none (by decide) (by decide), by decide, by decide⟩

/-- The bytes of a message whose channel was deleted over it stay in the totals. -/
theorem byte_accounting_slowRouting : ClockMonotone slowRouting ∧
    ¬AccountsExactly (after .unset none slowRouting) := by
  refine ⟨by decide, fun h => ?_⟩
  have htotal : (after .unset none slowRouting).totalBufferedBytes = 54 := by decide
  have hmap : (after .unset none slowRouting).channels.values = [] := by decide
  have hsum := h.totalBufferedBytes
  rw [htotal, hmap] at hsum
  cases hsum

end ChannelManager

end QrlBackend
