import QrlBackend.Accounting
import QrlBackend.Conservation
import QrlBackend.TombstoneOrder

/-!
# What the relay reports of itself

`getStats` walks the map of channels and reads the two byte counters; the gauges that a
scrape sees are set from it (`refreshRelayGauges`). Neither looks at the messages that have
already gone through, so nothing in them is right by construction.

`stats_ledger` says what the numbers are in every run under a clock that never goes back :
the buffered messages are those accepted and not yet handed over, evicted, expired or closed
out, the bytes are theirs and those of the reservations, and the channels that `/relay/stats`
counts beyond the gauge are the tombstones of the FIFO.
-/

set_option autoImplicit false

namespace QrlBackend

variable {V : Type}

/-- The answer of `/relay/stats`. -/
structure ChannelStats where
  activeChannels : ℕ
  totalParticipants : ℕ
  totalBufferedMessages : ℕ
  totalBufferedBytes : ℕ
  totalDirectInflightBytes : ℕ
  deriving DecidableEq

/-- The gauges of a scrape. -/
structure RelayGauges where
  activeChannels : ℕ
  bufferedMessages : ℕ
  bufferedBytes : ℕ
  directInflightBytes : ℕ
  deriving DecidableEq

/-- One participant of each role at most. -/
theorem RoleExclusive.size_le_two {participants : JsMap SocketId Participant}
    (h : RoleExclusive participants) : participants.size ≤ 2 := by
  have hnodup : (participants.entries.map fun e => e.2.clientType).Nodup := by
    refine participants.nodup.of_map.map_on fun e he e' he' hsame => ?_
    have hkey : e.1 = e'.1 :=
      h e.1 e'.1 e.2 e'.2 (JsMap.mem_entries.1 he) (JsMap.mem_entries.1 he') hsame
    refine Prod.ext hkey ?_
    have hget := JsMap.mem_entries.1 he
    rw [hkey, JsMap.mem_entries.1 he'] at hget
    exact (Option.some.inj hget).symm
  have hsub : (participants.entries.map fun e => e.2.clientType) ⊆ [.dapp, .wallet] := by
    intro t _
    cases t <;> simp
  exact (List.length_map _).symm.le.trans (List.subperm_of_subset hnodup hsub).length_le

namespace ChannelManager

/-- Stats for the health check and monitoring. -/
def getStats (m : ChannelManager V) : ChannelStats :=
  let (totalParticipants, totalBuffered) :=
    m.channels.values.foldl (fun (totals : ℕ × ℕ) r =>
      (totals.1 + (m.channel r).participants.size,
        totals.2 + (m.channel r).messageBuffer.length)) (0, 0)
  { activeChannels := m.channels.size
    totalParticipants := totalParticipants
    totalBufferedMessages := totalBuffered
    totalBufferedBytes := m.totalBufferedBytes
    totalDirectInflightBytes := m.totalDirectInflightBytes }

/-- The gauges are set from the manager at scrape time. -/
def refreshRelayGauges (m : ChannelManager V) : RelayGauges where
  activeChannels := m.getActiveChannelCount
  bufferedMessages := m.getStats.totalBufferedMessages
  bufferedBytes := m.getStats.totalBufferedBytes
  directInflightBytes := m.getStats.totalDirectInflightBytes

/-- The two totals are added up in one walk over the channels. -/
theorem foldl_totals {α : Type} (f g : α → ℕ) (l : List α) (a b : ℕ) :
    l.foldl (fun (totals : ℕ × ℕ) x => (totals.1 + f x, totals.2 + g x)) (a, b) =
      (a + (l.map f).sum, b + (l.map g).sum) := by
  induction l generalizing a b with
  | nil => rfl
  | cons x l ih =>
    rw [List.foldl_cons, ih]
    simp [add_assoc]

theorem getStats_totalParticipants (m : ChannelManager V) : m.getStats.totalParticipants =
    (m.channels.values.map fun r => (m.content r).participants.size).sum := by
  simp only [getStats, foldl_totals, zero_add]
  rfl

theorem getStats_totalBufferedMessages (m : ChannelManager V) :
    m.getStats.totalBufferedMessages =
      (m.channels.values.map fun r => (m.channel r).messageBuffer.length).sum := by
  simp only [getStats, foldl_totals, zero_add]

/-! ## The messages -/

theorem card_tagged (r : ChannelRef) (messages : List (BufferedMessage V)) :
    (tagged r messages).card = messages.length := by
  simp [tagged]

/-- What the walk over the map counts is every buffered message, if an object without an
entry holds none. -/
theorem getStats_totalBufferedMessages_eq_card {m : ChannelManager V} (hm : MapSound m)
    (horphan : ∀ r < m.objects.next, ¬Mapped m r → (m.content r).messageBuffer = []) :
    m.getStats.totalBufferedMessages = (waiting m).card := by
  rw [getStats_totalBufferedMessages, waiting, Multiset.card_map, buffered, ObjectHeap.total,
    Multiset.card_sum]
  simp only [card_tagged]
  refine (ObjectHeap.total_eq_of_support (fun _ (c : Channel V) => c.messageBuffer.length)
    m.objects (values_nodup hm) (fun r hr => ?_) fun r hr hnot => ?_).symm
  · obtain ⟨id, hid⟩ := JsMap.mem_values.1 hr
    exact hm.lt_next id r hid
  · have hempty : (m.objects.get r).messageBuffer = [] :=
      horphan r hr fun hmapped => hnot (JsMap.mem_values.2 hmapped)
    rw [hempty, List.length_nil]

/-! ## The channels -/

/-- The FIFO names as many channels as the map has tombstones. -/
theorem Tombstoned.length_terminatedOrder {m : ChannelManager V} (h : Tombstoned m) :
    m.terminatedOrder.length = m.channels.values.countP fun r => (m.content r).terminated := by
  have hperm : m.terminatedOrder.Perm
      ((m.channels.entries.filter fun e => (m.content e.2).terminated).map Prod.fst) := by
    refine (List.perm_ext_iff_of_nodup h.nodup
      ((m.channels.nodup.sublist (List.filter_sublist.map _)))).2 fun id => ?_
    rw [h.mem]
    simp [JsMap.mem_entries]
  rw [hperm.length_eq, List.length_map, ← List.countP_eq_length_filter, JsMap.values,
    List.countP_map]
  rfl

/-- `/relay/stats` counts the tombstones among its channels, the gauge does not. -/
theorem Tombstoned.activeChannels {m : ChannelManager V} (h : Tombstoned m) :
    m.getStats.activeChannels = m.getActiveChannelCount + m.terminatedOrder.length := by
  have hsplit := List.length_eq_countP_add_countP (fun r => (m.content r).terminated)
    (l := m.channels.values)
  rw [h.length_terminatedOrder, add_comm, getActiveChannelCount]
  simp only [Bool.not_eq_true, Bool.decide_eq_false] at hsplit
  exact (List.length_map _).symm.trans hsplit

/-! ## The participants -/

variable [Unknown V]

/-- A tombstone has no participants, a live channel at most two. -/
theorem totalParticipants_le (cfg : Config) (cap : Option ℕ) (calls : List (Call V)) :
    (after cfg cap calls).getStats.totalParticipants ≤
      2 * (after cfg cap calls).getActiveChannelCount := by
  have hsize : ∀ r, ((after cfg cap calls).content r).participants.size ≤
      if !((after cfg cap calls).content r).terminated then 2 else 0 := by
    intro r
    split
    next => exact (roleExclusive_after cfg cap calls r).size_le_two
    next hterm =>
      rw [Bool.not_eq_true', Bool.not_eq_false] at hterm
      rw [(cleanTombstone_after cfg cap calls r).participants hterm]
      exact le_rfl
  rw [getStats_totalParticipants, getActiveChannelCount]
  generalize (after cfg cap calls).channels.values = refs
  induction refs with
  | nil => exact Nat.zero_le _
  | cons r refs ih =>
    have hr := hsize r
    rw [List.map_cons, List.sum_cons, List.countP_cons, Nat.mul_add, add_comm (2 * _)]
    refine Nat.add_le_add (hr.trans ?_) ih
    change (if (!((after cfg cap calls).channel r).terminated) = true then 2 else 0) ≤ _
    split <;> simp

/-! ## Runs -/

/-- The messages a run has taken in. -/
def messagesAccepted (cfg : Config) (cap : Option ℕ) (calls : List (Call V)) : ℕ :=
  Runs.tally (Call.step cfg) (fun m c => (c.accepted (c.outcome cfg m)).card) (new cap) calls

/-- The messages of one call that are no longer in a buffer : handed over, evicted, expired
or closed out. -/
def departures (cfg : Config) (m : ChannelManager V) (c : Call V) : Multiset Origin :=
  c.handed (c.outcome cfg m) + c.evicted m (c.outcome cfg m) + c.expired m +
    c.closedOut m (c.outcome cfg m)

/-- The messages a run has parted with. -/
def messagesDeparted (cfg : Config) (cap : Option ℕ) (calls : List (Call V)) : ℕ :=
  Runs.tally (Call.step cfg) (fun m c => (departures cfg m c).card) (new cap) calls

/-- A run : the messages taken in are those parted with and those that wait. -/
theorem card_waiting (cfg : Config) (cap : Option ℕ) (calls : List (Call V)) :
    (waiting (after cfg cap calls)).card + messagesDeparted cfg cap calls =
      messagesAccepted cfg cap calls := by
  induction calls using List.reverseRecOn with
  | nil =>
    rw [after_nil, waiting, buffered_new]
    rfl
  | append_singleton calls c ih =>
    have hstep := congrArg Multiset.card (balance_step cfg c (mapSound_after cfg cap calls)
      (exact_after cfg cap calls).refs)
    rw [Multiset.card_add, Multiset.card_add (waiting _)] at hstep
    have hrun : Runs.run (Call.step cfg) (new cap) calls = after cfg cap calls := rfl
    unfold messagesDeparted messagesAccepted at ih ⊢
    rw [Runs.tally_snoc, Runs.tally_snoc, after_snoc, hrun, departures]
    omega

/-- What the numbers of a scrape are. -/
structure StatsLedger (cfg : Config) (cap : Option ℕ) (calls : List (Call V)) : Prop where
  bufferedMessages :
    (after cfg cap calls).refreshRelayGauges.bufferedMessages + messagesDeparted cfg cap calls =
      messagesAccepted cfg cap calls
  bufferedBytes : (after cfg cap calls).refreshRelayGauges.bufferedBytes =
    ((buffered (after cfg cap calls)).map (·.2.sizeBytes)).sum
  directInflightBytes : (after cfg cap calls).refreshRelayGauges.directInflightBytes =
    ((after cfg cap calls).directDeliveries.values.map (·.sizeBytes)).sum
  /-- `/relay/stats` counts the tombstones too. -/
  activeChannels : (after cfg cap calls).getStats.activeChannels =
    (after cfg cap calls).refreshRelayGauges.activeChannels +
      (after cfg cap calls).terminatedOrder.length
  tombstones : (after cfg cap calls).getStats.activeChannels ≤
    (after cfg cap calls).refreshRelayGauges.activeChannels + maxTombstones
  totalParticipants : (after cfg cap calls).getStats.totalParticipants ≤
    2 * (after cfg cap calls).refreshRelayGauges.activeChannels

/-- Under a clock that never goes back, every scrape of every run with prompt calls tells
what the relay holds. -/
theorem stats_ledger (cfg : Config) (cap : Option ℕ) {calls : List (Call V)}
    (hclock : ClockMonotone calls) (hprompt : Prompt calls) : StatsLedger cfg cap calls where
  bufferedMessages := by
    rw [← card_waiting, refreshRelayGauges, getStats_totalBufferedMessages_eq_card
      (mapSound_after cfg cap calls) (orphan_messageBuffer cfg cap hclock hprompt)]
  bufferedBytes := by
    change (after cfg cap calls).totalBufferedBytes = _
    rw [(exact_after cfg cap calls).exact.totalBuffered, bytes, Multiset.filter_true,
      Multiset.map_map]
    rfl
  directInflightBytes := ((exact_after cfg cap calls).accountsExactly (mapSound_after cfg cap calls)
    (orphan_messageBuffer cfg cap hclock hprompt)).totalDirectInflightBytes
  activeChannels := (tombstoned_after cfg cap calls).activeChannels
  tombstones := by
    rw [(tombstoned_after cfg cap calls).activeChannels]
    exact Nat.add_le_add_left (queued_after cfg cap hclock).bounded _
  totalParticipants := totalParticipants_le cfg cap calls

/-- A message waits in one channel, another channel was closed over its message : one
message is buffered, and two channels are reported where one is live. -/
theorem stats_ledger_closed :
    let calls : List (Call String) :=
      [⟨0, .join (fun _ => true) "open" 1 .dapp none none⟩,
        ⟨1, .join (fun _ => true) "closed" 2 .dapp none none⟩,
        ⟨2, .routeMessage (fun _ => true) "open" 1
          ⟨"open", .dapp, "hello", none, ⟨1, 2⟩⟩ "ip" 2⟩,
        ⟨3, .routeMessage (fun _ => true) "closed" 2
          ⟨"closed", .dapp, "hello", none, ⟨2, 3⟩⟩ "ip" 3⟩,
        ⟨4, .close "closed"⟩]
    StatsLedger .unset none calls ∧ messagesAccepted .unset none calls = 2 ∧
      messagesDeparted .unset none calls = 1 ∧
      (after .unset none calls).getStats.activeChannels = 2 ∧
      (after .unset none calls).refreshRelayGauges.activeChannels = 1 :=
  ⟨stats_ledger .unset none (by decide) (by decide), by decide, by decide, by decide, by decide⟩

end ChannelManager

end QrlBackend
