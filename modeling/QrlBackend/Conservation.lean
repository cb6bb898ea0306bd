import QrlBackend.Flow
import QrlBackend.Ledger

/-!
# Every accepted message is accounted for

Each call routes a payload object of its own, and `stamped` gives the `i`-th call's the
serial number `i`, so the messages of a run are told apart however equal they are.

A message that was accepted has, at any later time, exactly one of five fates : it was
handed over, it was evicted at the message cap, it expired, its channel was closed, or it
is still buffered. `balance_step` is this for one call, as an equation of multisets, and
`balance` adds it up over a run. `conservation` is the result for one accepted message,
and says besides where it waits : in the buffer of the channel object it was accepted on,
which its id still names (`located_after`).
-/

set_option autoImplicit false

namespace QrlBackend

variable {V : Type}

open ChannelManager

namespace Call

/-! ## What a call does to messages -/

/-- The message a call accepts. -/
def accepted (c : Call V) (out : Outcome V) : Multiset Origin :=
  match c.op, out with
  | .routeMessage _ _ _ data _ _, .routed result =>
    if result.error = none then {data.origin} else 0
  | _, _ => 0

/-- The messages a call hands over : to a direct target, by promotion, or in a join. -/
def handed (c : Call V) (out : Outcome V) : Multiset Origin :=
  match c.op, out with
  | .routeMessage _ _ _ data _ _, .routed result =>
    if result.targetSocketId = none then 0 else {data.origin}
  | _, .advanced payload => (payload.map (·.origin)).toList
  | _, .joined (.success bufferedMessages _ _ _) => bufferedMessages.map (·.origin)
  | _, _ => 0

/-- The oldest message of a full buffer, which a buffered message evicts. -/
def evicted (m : ChannelManager V) (c : Call V) (out : Outcome V) : Multiset Origin :=
  match c.op, out with
  | .routeMessage _ channelId _ _ _ _, .routed result =>
    if result.error = none ∧ result.targetSocketId = none then
      match m.channels.get? channelId with
      | some r => ((evictedEntry (m.channel r).messageBuffer).map (·.data.origin)).toList
      | none => 0
    else 0
  | _, _ => 0

/-- The messages of the map that a cleanup finds too old. -/
def expired (m : ChannelManager V) (c : Call V) : Multiset Origin :=
  match c.op with
  | .cleanup => ((buffered m).filter (Expires c.now m)).map (·.2.data.origin)
  | _ => 0

/-- The messages of a channel that is closed. -/
def closedOut (m : ChannelManager V) (c : Call V) (out : Outcome V) : Multiset Origin :=
  match c.op, out with
  | .close channelId, .closed true =>
    match m.channels.get? channelId with
    | some r => ((m.channel r).messageBuffer.map (·.data.origin) : List Origin)
    | none => 0
  | _, _ => 0

/-- A routed message was accepted. -/
def accepts [Unknown V] (cfg : Config) (m : ChannelManager V) (c : Call V) : Bool :=
  match c.outcome cfg m with
  | .routed result => result.error.isNone
  | _ => false

/-- Give the payload a serial number. -/
def stamp (c : Call V) (serial : ℕ) : Call V :=
  match c.op with
  | .routeMessage canReceive channelId s data sourceIp bufferedAt =>
    { c with
      op := .routeMessage canReceive channelId s { data with origin := ⟨s, serial⟩ } sourceIp
        bufferedAt }
  | _ => c

@[simp] theorem now_stamp (c : Call V) (serial : ℕ) : (c.stamp serial).now = c.now := by
  unfold stamp
  split <;> rfl

@[simp] theorem done_stamp (c : Call V) (serial : ℕ) : (c.stamp serial).done = c.done := by
  obtain ⟨now, op⟩ := c
  cases op <;> rfl

end Call

/-- The run in which every call routes a payload object of its own. -/
def stamped (calls : List (Call V)) : List (Call V) := calls.mapIdx fun i c => c.stamp i

theorem stamped_snoc (calls : List (Call V)) (c : Call V) :
    stamped (calls ++ [c]) = stamped calls ++ [c.stamp calls.length] := by
  simp [stamped, List.mapIdx_append]

theorem mem_stamped {calls : List (Call V)} {c : Call V} (h : c ∈ stamped calls) :
    ∃ c' ∈ calls, c'.now = c.now ∧ c'.done = c.done := by
  obtain ⟨i, hi, rfl⟩ := List.mem_mapIdx.1 h
  exact ⟨calls[i], List.getElem_mem hi, by simp, by simp⟩

theorem clockMonotone_stamped {calls : List (Call V)} (h : ClockMonotone calls) :
    ClockMonotone (stamped calls) := by
  induction calls using List.reverseRecOn with
  | nil => exact h
  | append_singleton calls c ih =>
    obtain ⟨hbefore, hpast, hc⟩ := clockMonotone_snoc.1 h
    rw [stamped_snoc, clockMonotone_snoc, Call.now_stamp, Call.done_stamp]
    refine ⟨ih hbefore, fun c₁ hmem => ?_, hc⟩
    obtain ⟨c₀, hmem₀, -, hdone⟩ := mem_stamped hmem
    exact hdone ▸ hpast c₀ hmem₀

theorem prompt_stamped {calls : List (Call V)} (h : Prompt calls) : Prompt (stamped calls) := by
  intro c hmem
  obtain ⟨c₀, hmem₀, hnow, hdone⟩ := mem_stamped hmem
  rw [← hnow, ← hdone]
  exact h c₀ hmem₀

namespace ChannelManager

/-- The identities of the buffered messages. -/
def waiting (m : ChannelManager V) : Multiset Origin := (buffered m).map (·.2.data.origin)

theorem map_tagged (r : ChannelRef) (messages : List (BufferedMessage V)) :
    (tagged r messages).map (·.2.data.origin) = (messages.map (·.data.origin) : List Origin) := by
  simp [tagged, Function.comp_def]

variable [Unknown V]

/-- One call : what waits afterwards, and what was handed over, evicted, expired or closed,
is what waited before and what was accepted. -/
theorem balance_step (cfg : Config) {m : ChannelManager V} (c : Call V) (hm : MapSound m)
    (hrefs : ∀ d ∈ reserved m, d.channel < m.objects.next) :
    waiting (c.step cfg m) + (c.handed (c.outcome cfg m) + c.evicted m (c.outcome cfg m) +
      c.expired m + c.closedOut m (c.outcome cfg m)) =
    waiting m + c.accepted (c.outcome cfg m) := by
  have hflow := flow_of_call cfg c hm hrefs
  generalize c.outcome cfg m = out at hflow ⊢
  generalize c.step cfg m = m' at hflow ⊢
  obtain ⟨now, op⟩ := c
  unfold waiting
  cases hflow with
  | still hop hquiet hbuf =>
    rw [hbuf]
    cases op with
    | cleanup => exact absurd rfl hop
    | routeMessage =>
      cases out with
      | routed result =>
        obtain ⟨htarget, herror⟩ := hquiet
        simp [Call.handed, Call.evicted, Call.expired, Call.closedOut, Call.accepted, htarget,
          herror]
      | advanced => cases hquiet; rfl
      | joined result =>
        cases result with
        | success => cases hquiet; rfl
        | failure => rfl
      | left | closed | nothing => rfl
    | join | leave | close | releaseDirectDelivery | advanceDirectDelivery =>
      cases out with
      | advanced => cases hquiet; rfl
      | joined result =>
        cases result with
        | success => cases hquiet; rfl
        | failure => rfl
      | closed => cases hquiet; rfl
      | routed | left | nothing => rfl
  | drained active channelId s t publicKey creatorIp key roster r hop hget hbuf =>
    cases hop
    rw [hbuf, Multiset.map_add, map_tagged]
    simp [Call.handed, Call.evicted, Call.expired, Call.closedOut, Call.accepted, add_comm,
      Function.comp_def]
  | direct canReceive channelId s data sourceIp bufferedAt r target size hop hget _ hbuf =>
    cases hop
    rw [hbuf]
    simp [Call.handed, Call.evicted, Call.expired, Call.closedOut, Call.accepted]
  | pushed canReceive channelId s data sourceIp bufferedAt r target message hop hget hdata _ _
      hbuf =>
    cases hop
    have hsum := congrArg (Multiset.map fun e => e.2.data.origin) hbuf
    rw [Multiset.map_add, map_tagged, Multiset.map_cons, hdata] at hsum
    have hev : Call.evicted m ⟨now, .routeMessage canReceive channelId s data sourceIp bufferedAt⟩
        (.routed ⟨none, target, true, none⟩) =
        (((evictedEntry (m.content r).messageBuffer).toList.map (·.data.origin) : List Origin) :
          Multiset Origin) := by
      simp only [Call.evicted, hget, and_self, if_true]
      rw [show (m.channel r).messageBuffer = (m.content r).messageBuffer from rfl]
      cases evictedEntry (m.content r).messageBuffer <;> rfl
    rw [hev]
    simp only [Call.handed, Call.expired, Call.closedOut, Call.accepted, if_true, zero_add,
      add_zero]
    rw [add_comm, hsum, add_comm]
    rfl
  | promoted s reservation next rest hop hbuf =>
    cases hop
    rw [hbuf, Multiset.map_cons]
    simp only [Call.handed, Call.evicted, Call.expired, Call.closedOut, Call.accepted, add_zero]
    rw [add_comm]
    rfl
  | closed channelId r hop hget hbuf =>
    cases hop
    rw [hbuf, Multiset.map_add, map_tagged]
    simp only [Call.handed, Call.evicted, Call.expired, Call.closedOut, Call.accepted, hget,
      zero_add, add_zero]
    rw [add_comm]
    rfl
  | swept hop hbuf =>
    cases hop
    simp only [Call.handed, Call.evicted, Call.expired, Call.closedOut, Call.accepted, zero_add,
      add_zero]
    rw [hbuf, ← Multiset.map_add, add_comm, Multiset.filter_add_not]

/-! ## Where a message waits -/

/-- A message that waits after a call waited before, or the call accepted it. -/
theorem mem_buffered_step (cfg : Config) {m : ChannelManager V} (c : Call V) (hm : MapSound m)
    (hrefs : ∀ d ∈ reserved m, d.channel < m.objects.next) {r : ChannelRef}
    {message : BufferedMessage V} (hmem : (r, message) ∈ buffered (c.step cfg m)) :
    (r, message) ∈ buffered m ∨ ∃ canReceive channelId s sourceIp bufferedAt,
      c.op = .routeMessage canReceive channelId s message.data sourceIp bufferedAt ∧
      m.channels.get? channelId = some r := by
  have hflow := flow_of_call cfg c hm hrefs
  generalize c.outcome cfg m = out at hflow
  generalize c.step cfg m = m' at hflow hmem
  cases hflow with
  | still _ _ hbuf | direct _ _ _ _ _ _ _ _ _ _ _ _ hbuf => exact .inl (hbuf ▸ hmem)
  | drained _ _ _ _ _ _ _ _ _ _ _ hbuf | closed _ _ _ _ hbuf =>
    exact .inl (hbuf ▸ Multiset.mem_add.2 (.inr hmem))
  | promoted _ _ _ _ _ hbuf => exact .inl (hbuf ▸ Multiset.mem_cons_of_mem hmem)
  | swept _ hbuf =>
    rw [hbuf] at hmem
    exact .inl (Multiset.mem_filter.1 hmem).1
  | pushed canReceive channelId s data sourceIp bufferedAt r₀ _ message₀ hop hget hdata _ _ hbuf =>
    have hin : (r, message) ∈
        tagged r₀ (evictedEntry (m.content r₀).messageBuffer).toList + buffered m' :=
      Multiset.mem_add.2 (.inr hmem)
    rw [hbuf] at hin
    rcases Multiset.mem_cons.1 hin with heq | hin
    · obtain ⟨rfl, rfl⟩ := Prod.mk.inj heq
      exact .inr ⟨canReceive, channelId, s, sourceIp, bufferedAt, hdata ▸ hop, hget⟩
    · exact .inl hin

/-- A channel keeps its entry through a call that leaves a message in its buffer. -/
theorem entry_of_buffered (cfg : Config) (cap : Option ℕ) {calls : List (Call V)} {c : Call V}
    (hclock : ClockMonotone (calls ++ [c])) (hprompt : Prompt (calls ++ [c]))
    {channelId : String} {r : ChannelRef}
    (hget : (after cfg cap calls).channels.get? channelId = some r) {message : BufferedMessage V}
    (hmem : (r, message) ∈ buffered (after cfg cap (calls ++ [c]))) :
    (after cfg cap (calls ++ [c])).channels.get? channelId = some r := by
  have hbuf := (mem_buffered.1 hmem).2
  have htomb := cleanTombstone_after cfg cap (calls ++ [c]) r
  have htimes := timesBounded_after cfg cap (clockMonotone_snoc.1 hclock).1
    (prompt_snoc.1 hprompt).1 r
  rw [after_snoc] at hbuf htomb ⊢
  cases step_entry cfg (after cfg cap calls) c channelId with
  | kept h => exact h.trans hget
  | created hnone => rw [hnone] at hget; cases hget
  | removed r' hget' _ _ hwhy =>
    obtain rfl : r' = r := Option.some.inj (hget'.symm.trans hget)
    rcases hwhy with hterm | ⟨-, hold, hswept⟩
    · rw [htomb.messageBuffer hterm] at hbuf
      cases hbuf
    · rw [hswept, htimes.swept_messageBuffer hold] at hbuf
      cases hbuf

/-- Every waiting message was accepted by some call of the run, on the channel it waits in,
and the id it was sent to still names that channel. -/
theorem located_after (cfg : Config) (cap : Option ℕ) {calls : List (Call V)}
    (hclock : ClockMonotone calls) (hprompt : Prompt calls) {r : ChannelRef}
    {message : BufferedMessage V}
    (hmem : (r, message) ∈ buffered (after cfg cap (stamped calls))) :
    ∃ pre now canReceive channelId s data sourceIp bufferedAt post,
      calls = pre ++ ⟨now, .routeMessage canReceive channelId s data sourceIp bufferedAt⟩ :: post ∧
      message.data.origin = ⟨s, pre.length⟩ ∧
      (after cfg cap (stamped pre)).channels.get? channelId = some r ∧
      (after cfg cap (stamped calls)).channels.get? channelId = some r := by
  induction calls using List.reverseRecOn with
  | nil =>
    rw [show stamped ([] : List (Call V)) = [] from rfl, after_nil, buffered_new] at hmem
    exact absurd hmem (Multiset.notMem_zero _)
  | append_singleton calls c ih =>
    have hclock' := clockMonotone_stamped hclock
    have hprompt' := prompt_stamped hprompt
    rw [stamped_snoc] at hmem hclock' hprompt' ⊢
    have hstep := hmem
    rw [after_snoc] at hstep
    rcases mem_buffered_step cfg _ (mapSound_after cfg cap _) (exact_after cfg cap _).refs hstep
      with
      hold | ⟨canReceive, channelId, s, sourceIp, bufferedAt, hop, hget⟩
    · obtain ⟨pre, now, canReceive, channelId, s, data, sourceIp, bufferedAt, post, rfl, horigin,
        hpre, hnow⟩ := ih (clockMonotone_snoc.1 hclock).1 (prompt_snoc.1 hprompt).1 hold
      refine ⟨pre, now, canReceive, channelId, s, data, sourceIp, bufferedAt, post ++ [c], by simp,
        horigin, hpre, ?_⟩
      exact entry_of_buffered cfg cap hclock' hprompt' hnow hmem
    · obtain ⟨now, op⟩ := c
      cases op with
      | routeMessage canReceive' channelId' s' data' sourceIp' bufferedAt' =>
        obtain ⟨-, rfl, rfl, hdata, -⟩ := Op.routeMessage.inj hop
        exact ⟨calls, now, canReceive', channelId', s', data', sourceIp', bufferedAt', [], rfl,
          by rw [← hdata], hget, entry_of_buffered cfg cap hclock' hprompt' hget hmem⟩
      | join | leave | close | releaseDirectDelivery | advanceDirectDelivery | cleanup => cases hop

omit [Unknown V] in
/-- The waiting copies of a message are those in one channel, if it waits in no other. -/
theorem count_waiting {m : ChannelManager V} {r : ChannelRef} {o : Origin}
    (hr : r < m.objects.next)
    (honly : ∀ r' message, (r', message) ∈ buffered m → message.data.origin = o → r' = r) :
    (waiting m).count o = ((m.channel r).messageBuffer.map (·.data.origin)).count o := by
  let weigh : Multiset (ChannelRef × BufferedMessage V) →+ ℕ :=
    ⟨⟨fun held => (held.map (·.2.data.origin)).count o, by simp⟩, by simp⟩
  have htotal : weigh (buffered m) = m.objects.total fun r c =>
      (c.messageBuffer.map (·.data.origin)).count o := by
    rw [buffered, ObjectHeap.total, map_sum]
    refine Finset.sum_congr rfl fun r _ => ?_
    change ((tagged r _).map (·.2.data.origin)).count o = _
    rw [map_tagged, Multiset.coe_count]
  change weigh (buffered m) = _
  rw [htotal, ObjectHeap.total_eq_of_support _ _ (List.nodup_singleton r) (by simpa using hr)
    fun r' hr' hne => ?_]
  · simp [channel]
  · refine List.count_eq_zero.2 fun hmem => ?_
    obtain ⟨message, hmem, ho⟩ := List.mem_map.1 hmem
    have := honly r' message (mem_buffered.2 ⟨hr', hmem⟩) ho
    simp [this] at hne

/-! ## Runs -/

/-- How often a run accepts a message. -/
def timesAccepted (cfg : Config) (cap : Option ℕ) (calls : List (Call V)) (o : Origin) : ℕ :=
  Runs.tally (Call.step cfg) (fun m c => (c.accepted (c.outcome cfg m)).count o) (new cap) calls

/-- How often a run hands a message over. -/
def timesHanded (cfg : Config) (cap : Option ℕ) (calls : List (Call V)) (o : Origin) : ℕ :=
  Runs.tally (Call.step cfg) (fun m c => (c.handed (c.outcome cfg m)).count o) (new cap) calls

/-- How often a run evicts a message. -/
def timesEvicted (cfg : Config) (cap : Option ℕ) (calls : List (Call V)) (o : Origin) : ℕ :=
  Runs.tally (Call.step cfg) (fun m c => (c.evicted m (c.outcome cfg m)).count o) (new cap) calls

/-- How often a run finds a message expired. -/
def timesExpired (cfg : Config) (cap : Option ℕ) (calls : List (Call V)) (o : Origin) : ℕ :=
  Runs.tally (Call.step cfg) (fun m c => (c.expired m).count o) (new cap) calls

/-- How often a run closes the channel a message is buffered in. -/
def timesClosed (cfg : Config) (cap : Option ℕ) (calls : List (Call V)) (o : Origin) : ℕ :=
  Runs.tally (Call.step cfg) (fun m c => (c.closedOut m (c.outcome cfg m)).count o) (new cap) calls

/-- A run : each message was accepted as often as it was handed over, evicted, expired,
closed out, or waits. -/
theorem balance (cfg : Config) (cap : Option ℕ) (calls : List (Call V)) (o : Origin) :
    timesHanded cfg cap calls o + timesEvicted cfg cap calls o + timesExpired cfg cap calls o +
      timesClosed cfg cap calls o + (waiting (after cfg cap calls)).count o =
    timesAccepted cfg cap calls o := by
  induction calls using List.reverseRecOn with
  | nil =>
    rw [after_nil, waiting, buffered_new]
    rfl
  | append_singleton calls c ih =>
    have hstep := congrArg (Multiset.count o) (balance_step cfg c (mapSound_after cfg cap calls)
      (exact_after cfg cap calls).refs)
    simp only [Multiset.count_add] at hstep
    have hrun : Runs.run (Call.step cfg) (new cap) calls = after cfg cap calls := rfl
    simp only [timesHanded, timesEvicted, timesExpired, timesClosed, timesAccepted] at ih ⊢
    simp only [Runs.tally_snoc, after_snoc, hrun]
    omega

/-! ## One accepted message -/

omit [Unknown V] in
theorem stamped_append (pre post : List (Call V)) :
    ∃ rest, stamped (pre ++ post) = stamped pre ++ rest :=
  ⟨_, List.mapIdx_append⟩

omit [Unknown V] in
/-- A stamped call accepts its own message only. -/
theorem count_accepted_stamp (c : Call V) (serial : ℕ) (out : Outcome V) {o : Origin}
    (ho : o.serial ≠ serial) : ((c.stamp serial).accepted out).count o = 0 := by
  obtain ⟨now, op⟩ := c
  cases op with
  | routeMessage canReceive channelId s data sourceIp bufferedAt =>
    cases out with
    | routed result =>
      have hne : o ≠ ⟨s, serial⟩ := fun h => ho (h ▸ rfl)
      simp only [Call.stamp, Call.accepted]
      split
      · rw [Multiset.count_singleton, if_neg hne]
      · exact Multiset.count_zero o
    | joined | left | closed | advanced | nothing => exact Multiset.count_zero o
  | join | leave | close | releaseDirectDelivery | advanceDirectDelivery | cleanup =>
    cases out <;> exact Multiset.count_zero o

/-- No call accepts a message of a later one. -/
theorem timesAccepted_of_length_le (cfg : Config) (cap : Option ℕ) {calls : List (Call V)}
    {o : Origin} (h : calls.length ≤ o.serial) : timesAccepted cfg cap (stamped calls) o = 0 := by
  induction calls using List.reverseRecOn with
  | nil => rfl
  | append_singleton calls c ih =>
    rw [List.length_append, List.length_singleton] at h
    rw [stamped_snoc, timesAccepted, Runs.tally_snoc]
    exact Nat.add_eq_zero_iff.2 ⟨ih (by omega), count_accepted_stamp c _ _ (by omega)⟩

/-- No call accepts a message of an earlier one. -/
theorem timesAccepted_append (cfg : Config) (cap : Option ℕ) {pre : List (Call V)} {o : Origin}
    (h : o.serial < pre.length) (post : List (Call V)) :
    timesAccepted cfg cap (stamped (pre ++ post)) o = timesAccepted cfg cap (stamped pre) o := by
  induction post using List.reverseRecOn with
  | nil => rw [List.append_nil]
  | append_singleton post c ih =>
    rw [← List.append_assoc, stamped_snoc, timesAccepted, Runs.tally_snoc,
      count_accepted_stamp c _ _ (by rw [List.length_append]; omega)]
    exact ih

/-- An accepting call finds the channel in the map and accepts its own message once. -/
theorem accepted_of_accepts (cfg : Config) {m : ChannelManager V} (hm : MapSound m)
    (hrefs : ∀ d ∈ reserved m, d.channel < m.objects.next) {now : ℕ}
    {canReceive : SocketId → Bool} {channelId : String} {s : SocketId} {data : RelayPayload V}
    {sourceIp : String} {bufferedAt : ℕ} (h : Call.accepts cfg m
      ⟨now, .routeMessage canReceive channelId s data sourceIp bufferedAt⟩ = true) :
    (∃ r, m.channels.get? channelId = some r) ∧
    Call.accepted ⟨now, .routeMessage canReceive channelId s data sourceIp bufferedAt⟩
      (Call.outcome cfg m ⟨now, .routeMessage canReceive channelId s data sourceIp bufferedAt⟩) =
      {data.origin} := by
  have hflow := flow_of_call cfg
    ⟨now, .routeMessage canReceive channelId s data sourceIp bufferedAt⟩ hm hrefs
  unfold Call.accepts at h
  generalize Call.outcome cfg m
    ⟨now, .routeMessage canReceive channelId s data sourceIp bufferedAt⟩ = out at h hflow ⊢
  cases hflow with
  | direct _ _ _ _ _ _ r _ _ hop hget | pushed _ _ _ _ _ _ r _ _ hop hget =>
    cases hop
    exact ⟨⟨r, hget⟩, rfl⟩
  | still _ hquiet =>
    cases out with
    | routed result => exact absurd (Option.isNone_iff_eq_none.1 h) hquiet.2
    | joined | left | closed | advanced | nothing => cases h
  | drained | promoted | closed | swept => cases h

/-- What became of an accepted message : it left the relay in exactly one of four ways, or
it is in the buffer of the channel that accepted it, and is there once. -/
structure Conserved (cfg : Config) (cap : Option ℕ) (calls : List (Call V)) (channelId : String)
    (r : ChannelRef) (o : Origin) : Prop where
  fate : timesHanded cfg cap calls o + timesEvicted cfg cap calls o +
    timesExpired cfg cap calls o + timesClosed cfg cap calls o +
    (((after cfg cap calls).channel r).messageBuffer.map (·.data.origin)).count o = 1
  /-- The channel of a waiting message was not deleted. -/
  entry : o ∈ ((after cfg cap calls).channel r).messageBuffer.map (·.data.origin) →
    (after cfg cap calls).channels.get? channelId = some r

/-- A message that `routeMessage` accepted is conserved in every run that goes on from
there. -/
theorem conservation (cfg : Config) (cap : Option ℕ) {pre post : List (Call V)} {now : ℕ}
    {canReceive : SocketId → Bool} {channelId : String} {s : SocketId} {data : RelayPayload V}
    {sourceIp : String} {bufferedAt : ℕ}
    (hclock : ClockMonotone
      (pre ++ ⟨now, .routeMessage canReceive channelId s data sourceIp bufferedAt⟩ :: post))
    (hprompt : Prompt
      (pre ++ ⟨now, .routeMessage canReceive channelId s data sourceIp bufferedAt⟩ :: post))
    (haccept : Call.accepts cfg (after cfg cap (stamped pre))
      (Call.stamp ⟨now, .routeMessage canReceive channelId s data sourceIp bufferedAt⟩
        pre.length) = true) :
    ∃ r, (after cfg cap (stamped pre)).channels.get? channelId = some r ∧
      Conserved cfg cap (stamped
        (pre ++ ⟨now, .routeMessage canReceive channelId s data sourceIp bufferedAt⟩ :: post))
        channelId r ⟨s, pre.length⟩ := by
  set c : Call V := ⟨now, .routeMessage canReceive channelId s data sourceIp bufferedAt⟩ with hc
  obtain ⟨⟨r, hget⟩, haccepted⟩ := accepted_of_accepts cfg (mapSound_after cfg cap (stamped pre))
    (exact_after cfg cap (stamped pre)).refs haccept
  -- nothing else in the run carries this serial number
  have hlocated : ∀ r' message,
      (r', message) ∈ buffered (after cfg cap (stamped (pre ++ c :: post))) →
      message.data.origin = ⟨s, pre.length⟩ →
      r' = r ∧ (after cfg cap (stamped (pre ++ c :: post))).channels.get? channelId = some r' := by
    intro r' message hmem ho
    obtain ⟨pre', now', canReceive', channelId', s', data', sourceIp', bufferedAt', post', hsplit,
      horigin, hpre, hafter⟩ := located_after cfg cap hclock hprompt hmem
    have hlength : pre.length = pre'.length := congrArg Origin.serial (ho.symm.trans horigin)
    obtain ⟨rfl, htail⟩ := List.append_inj hsplit hlength
    rw [hc] at htail
    cases htail
    exact ⟨Option.some.inj (hpre.symm.trans hget), hafter⟩
  have honce : timesAccepted cfg cap (stamped (pre ++ c :: post)) ⟨s, pre.length⟩ = 1 := by
    have hbefore : timesAccepted cfg cap (stamped pre) ⟨s, pre.length⟩ = 0 :=
      timesAccepted_of_length_le cfg cap le_rfl
    rw [timesAccepted] at hbefore
    rw [List.append_cons, timesAccepted_append cfg cap (by simp) post, stamped_snoc,
      timesAccepted, Runs.tally_snoc]
    rw [hbefore, zero_add]
    exact (congrArg (Multiset.count _) haccepted).trans (Multiset.count_singleton_self _)
  have hnext : r < (after cfg cap (stamped (pre ++ c :: post))).objects.next := by
    obtain ⟨rest, hrest⟩ := stamped_append pre (c :: post)
    rw [hrest, after, Runs.run_append]
    exact Runs.run_invariant (I := fun m => r < m.objects.next)
      (fun m c h => h.trans_le (step_entry cfg m c channelId).next_le) rest
      ((mapSound_after cfg cap _).lt_next channelId r hget)
  refine ⟨r, hget, ?_, fun hmem => ?_⟩
  · have hbalance := balance cfg cap (stamped (pre ++ c :: post)) ⟨s, pre.length⟩
    rwa [honce, count_waiting hnext fun r' message hmem ho => (hlocated r' message hmem ho).1]
      at hbalance
  · obtain ⟨message, hmem, ho⟩ := List.mem_map.1 hmem
    exact (hlocated r message (mem_buffered.2 ⟨hnext, hmem⟩) ho).2

/-- A dApp sends before its wallet joins : the join hands the message over. -/
theorem conservation_drained : ∃ r,
    (after (V := String) .unset none
      (stamped [⟨0, .join (fun _ => true) "channel" 1 .dapp none none⟩])).channels.get? "channel" =
      some r ∧
    Conserved (V := String) .unset none
      (stamped [⟨0, .join (fun _ => true) "channel" 1 .dapp none none⟩,
        ⟨5, .routeMessage (fun _ => true) "channel" 1
          ⟨"channel", .dapp, "hello", none, ⟨0, 0⟩⟩ "ip" 6⟩,
        ⟨9, .join (fun _ => true) "channel" 2 .wallet none none⟩])
      "channel" r ⟨1, 1⟩ :=
  @conservation String _ .unset none [⟨0, .join (fun _ => true) "channel" 1 .dapp none none⟩]
    _ _ _ _ _ _ _ _ (by decide) (by decide) (by decide)

/-- A message whose channel the cleanup deletes : it was accepted, nobody gets it, and its
channel has no entry any more. -/
theorem conservation_slowRouting : ∃ pre c post, slowRouting = pre ++ c :: post ∧
    ClockMonotone (pre ++ c :: post) ∧
    Call.accepts .unset (after .unset none (stamped pre)) (c.stamp pre.length) = true ∧
    ¬∃ r, (after .unset none (stamped pre)).channels.get? "channel" = some r ∧
      Conserved .unset none (stamped (pre ++ c :: post)) "channel" r ⟨1, pre.length⟩ := by
  refine ⟨slowRouting.take 1, _, slowRouting.drop 2, rfl, by decide, by decide, ?_⟩
  rintro ⟨r, hget, h⟩
  obtain rfl : 0 = r := Option.some.inj hget
  have hentry := h.entry (by decide)
  have hgone : (after .unset none (stamped slowRouting)).channels.get? "channel" = none := by
    decide
  cases hentry.symm.trans hgone

end ChannelManager

end QrlBackend
