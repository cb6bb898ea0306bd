import QrlBackend.ChannelRuns
import QrlBackend.Holdings

/-!
# How messages move

A call moves messages in one of six ways, or not at all. A join hands over what is
buffered for its role. A routed message goes to its target at once, reserving its bytes, or
into the buffer, where it may evict the oldest. Promotion takes a message out of a buffer
and reserves for it. A close and a cleanup drop messages.

`Flow` has a constructor for each, with what was in the buffers and reservations before
and after. The budgets and the conservation of messages are both read off it
(`flow_of_call`).
-/

set_option autoImplicit false

namespace QrlBackend

variable {V : Type}

/-- The outcome hands over no message and accepts none. -/
def Outcome.Quiet : Outcome V → Prop
  | .joined (.success bufferedMessages _ _ _) => bufferedMessages = []
  | .joined (.failure _) => True
  | .left _ => True
  | .closed confirmed => confirmed = false
  | .routed result => result.targetSocketId = none ∧ result.error ≠ none
  | .advanced payload => payload = none
  | .nothing => True

namespace ChannelManager

theorem reserved_le {m m' : ChannelManager V} (h : ∀ s d, m'.directDeliveries.get? s = some d →
    m.directDeliveries.get? s = some d) : reserved m' ≤ reserved m :=
  Multiset.coe_le.2 (JsMap.values_subperm h)

/-- How a call moves messages. -/
inductive Flow [Unknown V] (cfg : Config) (m : ChannelManager V) (c : Call V)
    (m' : ChannelManager V) : Outcome V → Prop
  | still {out : Outcome V} (hop : c.op ≠ .cleanup) (hquiet : out.Quiet)
      (hbuf : buffered m' = buffered m)
      (hres : reserved m' ≤ reserved m) : Flow cfg m c m' out
  | drained (active : SocketId → Bool) (channelId : String) (s : SocketId) (t : ClientType)
      (publicKey creatorIp key : Option String) (roster : List ClientType) (r : ChannelRef)
      (hop : c.op = .join active channelId s t publicKey creatorIp)
      (hget : m.channels.get? channelId = some r)
      (hbuf : buffered m =
        tagged r ((m.content r).messageBuffer.filter (·.targetClientType = t)) + buffered m')
      (hres : reserved m' ≤ reserved m) :
      Flow cfg m c m' (.joined (.success
        (((m.content r).messageBuffer.filter (·.targetClientType = t)).map (·.data)) key roster
        false))
  | direct (canReceive : SocketId → Bool) (channelId : String) (s : SocketId)
      (data : RelayPayload V) (sourceIp : String) (bufferedAt : ℕ) (r : ChannelRef)
      (target : SocketId) (sizeBytes : ℕ)
      (hop : c.op = .routeMessage canReceive channelId s data sourceIp bufferedAt)
      (hget : m.channels.get? channelId = some r)
      (hfits : m.admitsDirect cfg r target sourceIp sizeBytes = true)
      (hbuf : buffered m' = buffered m)
      (hres : reserved m' = ⟨r, sourceIp, sizeBytes⟩ ::ₘ reserved m) :
      Flow cfg m c m' (.routed ⟨some target, none, false, none⟩)
  | pushed (canReceive : SocketId → Bool) (channelId : String) (s : SocketId)
      (data : RelayPayload V) (sourceIp : String) (bufferedAt : ℕ) (r : ChannelRef)
      (target : Option SocketId) (message : BufferedMessage V)
      (hop : c.op = .routeMessage canReceive channelId s data sourceIp bufferedAt)
      (hget : m.channels.get? channelId = some r)
      (hdata : message.data = data) (hip : message.sourceIp = sourceIp)
      (hfits : m.bufferRefusal cfg r sourceIp message.sizeBytes
        (evictedEntry (m.content r).messageBuffer) = none)
      (hbuf : tagged r (evictedEntry (m.content r).messageBuffer).toList + buffered m' =
        (r, message) ::ₘ buffered m)
      (hres : reserved m' = reserved m) :
      Flow cfg m c m' (.routed ⟨none, target, true, none⟩)
  | promoted (s : SocketId) (reservation : DirectDeliveryReservation) (next : BufferedMessage V)
      (rest : Multiset DirectDeliveryReservation) (hop : c.op = .advanceDirectDelivery s)
      (hbuf : buffered m = (reservation.channel, next) ::ₘ buffered m')
      (hres : reserved m = reservation ::ₘ rest)
      (hres' : reserved m' = ⟨reservation.channel, next.sourceIp, next.sizeBytes⟩ ::ₘ rest) :
      Flow cfg m c m' (.advanced (some next.data))
  | closed (channelId : String) (r : ChannelRef) (hop : c.op = .close channelId)
      (hget : m.channels.get? channelId = some r)
      (hbuf : buffered m = tagged r (m.content r).messageBuffer + buffered m')
      (hres : reserved m' = reserved m) : Flow cfg m c m' (.closed true)
  | swept (hop : c.op = .cleanup)
      (hbuf : buffered m' = (buffered m).filter fun e => ¬Expires c.now m e)
      (hres : reserved m' = reserved m) : Flow cfg m c m' .nothing

variable [Unknown V]

/-- A join hands over what waited for its role, or moves nothing. -/
theorem flow_join (cfg : Config) {active : SocketId → Bool} {now : ℕ} {m m' : ChannelManager V}
    {channelId : String} {s : SocketId} {t : ClientType} {publicKey ip : Option String}
    {res : JoinResult V} (hm : MapSound m)
    (hout : JoinOutcome active now m channelId s t publicKey ip res m') :
    Flow cfg m ⟨now, .join active channelId s t publicKey ip⟩ m' (.joined res) := by
  cases hout with
  | refused => exact .still (fun h => by cases h) trivial rfl le_rfl
  | tombstone => exact .still (fun h => by cases h) rfl rfl le_rfl
  | refusedAfterStale _ r e =>
    refine .still (fun h => by cases h) trivial ?_ (reserved_le fun s' d hd => ?_)
    · refine buffered_of_same (tables_eq_iff.1 (m.tables_dropStale r e)).2.2.2 fun r' => ?_
      rw [content_dropStale]
      split
      next h => rw [h]; rfl
      next => rfl
    · rw [directDeliveries_dropStale] at hd
      split at hd
      · cases hd
      · exact hd
  | admitted r c key stale hslot hkey hlive hbound hrole hstale hinactive hcontent _ hdd hres =>
    have hle : reserved m' ≤ reserved m := reserved_le fun s' d hd => by
      rw [hdd] at hd
      split at hd
      · cases hd
      · exact hd
    have hjoined : (c.joined now s t key stale).messageBuffer =
        c.messageBuffer.filter fun message => decide (message.targetClientType ≠ t) := by
      unfold Content.joined
      cases stale <;> rfl
    subst hres
    cases hslot with
    | existing _ hget hch hnext =>
      refine .drained active channelId s t publicKey ip _ _ r rfl hget ?_ hle
      refine buffered_of_filter _ (hm.lt_next channelId r hget) hnext fun r' => ?_
      rw [hcontent]
      split
      · rw [hjoined]
        simp
      · rfl
    | created hget hch hnext =>
      refine .still (fun h => by cases h) rfl
        (buffered_of_created hnext (fun r' hr' => ?_) ?_) hle
      · rw [hcontent, if_neg hr']
      · rw [hcontent, if_pos rfl, hjoined]
        rfl

/-- Leaving moves no message. -/
theorem flow_leave (cfg : Config) {now : ℕ} {m m' : ChannelManager V} {s : SocketId}
    {channelId : String} {res : Option Participant}
    (hout : LeaveOutcome now m s channelId res m') :
    Flow cfg m ⟨now, .leave s channelId⟩ m' (.left res) := by
  cases hout with
  | absent => exact .still (fun h => by cases h) trivial rfl le_rfl
  | left r p hget hp hcontent htables hdd =>
    refine .still (fun h => by cases h) trivial
      (buffered_of_same (tables_eq_iff.1 htables).2.2.2 fun r' => ?_)
      (reserved_le fun s' d hd => hdd ▸ hd)
    rw [hcontent]
    split
    next h => rw [h]; rfl
    next => rfl

/-- A confirmed close drops the buffer of its channel. -/
theorem flow_close (cfg : Config) {now : ℕ} {m m' : ChannelManager V} {channelId : String}
    {confirmed : Bool} (hm : MapSound m) (hout : CloseOutcome now m channelId confirmed m') :
    Flow cfg m ⟨now, .close channelId⟩ m' (.closed confirmed) := by
  cases hout with
  | refused => exact .still (fun h => by cases h) rfl rfl le_rfl
  | closed r evicted hget hlive hcontent _ _ _ hnext hdd =>
    refine .closed channelId r rfl hget ?_ (reserved_congr fun s => by rw [hdd])
    have hsum := buffered_of_filter (fun _ => true) (hm.lt_next channelId r hget) hnext
      fun r' => by
        rw [hcontent]
        split
        · simp [Content.closed]
        · rfl
    rwa [List.filter_true] at hsum

/-- A routed message reserves its bytes, is buffered, or is refused. -/
theorem flow_route (cfg : Config) {canReceive : SocketId → Bool} {now bufferedAt : ℕ}
    {m m' : ChannelManager V} {channelId : String} {s : SocketId} {data : RelayPayload V}
    {ip : String} {res : RouteResult} (hm : MapSound m)
    (hout : RouteOutcome cfg canReceive now bufferedAt m channelId s data ip res m') :
    Flow cfg m ⟨now, .routeMessage canReceive channelId s data ip bufferedAt⟩ m'
      (.routed res) := by
  cases hout with
  | refused error =>
    exact .still (fun h => by cases h) ⟨rfl, Option.some_ne_none error⟩ rfl le_rfl
  | refusedLate error _ r hget _ _ _ hcontent htables hdd =>
    refine .still (fun h => by cases h) ⟨rfl, Option.some_ne_none error⟩
      (buffered_of_same (tables_eq_iff.1 htables).2.2.2 fun r' => ?_)
      (reserved_le fun s' d hd => hdd ▸ hd)
    rw [hcontent]
    split
    next h => rw [h]
    next => rfl
  | direct r sender target size hget _ _ _ _ _ _ _ hfree hfits hcontent htables hdd =>
    refine .direct canReceive channelId s data ip bufferedAt r target size rfl hget hfits
      (buffered_of_same (tables_eq_iff.1 htables).2.2.2 fun r' => ?_)
      (reserved_of_granted hfree hdd)
    rw [hcontent]
    split
    next h => rw [h]; rfl
    next => rfl
  | buffered r sender size hget _ _ _ _ _ hfits hcontent htables hdd =>
    refine .pushed canReceive channelId s data ip bufferedAt r _
      ⟨data, sender.clientType.other, bufferedAt, size, ip⟩ rfl hget rfl rfl hfits ?_
      (reserved_congr fun s => by rw [hdd])
    have hsum := buffered_of_update (hm.lt_next channelId r hget)
      (tables_eq_iff.1 htables).2.2.2 fun r' => by
        rw [hcontent]
        exact apply_ite Content.messageBuffer _ _ _
    set b := (m.content r).messageBuffer
    have hb : tagged r b = tagged r (evictedEntry b).toList + tagged r (afterEviction b) := by
      rw [← tagged_append, evictedEntry_append]
    dsimp only at hsum
    rw [tagged_append, hb, ← add_assoc, ← add_assoc, add_right_comm (buffered m)] at hsum
    rw [add_comm, add_right_cancel hsum, add_comm]
    rfl

/-- Giving up a reservation only lowers what is reserved. -/
theorem flow_release (cfg : Config) (now : ℕ) (m : ChannelManager V) (s : SocketId) :
    Flow cfg m ⟨now, .releaseDirectDelivery s⟩ (m.releaseDirectDelivery s) .nothing := by
  refine .still (fun h => by cases h) trivial (buffered_of_same
    (tables_eq_iff.1 (m.tables_releaseDirectDelivery s)).2.2.2 fun r => ?_)
    (reserved_le fun s' d hd => ?_)
  · exact congrArg Content.messageBuffer (m.content_releaseDirectDelivery s r)
  · rw [directDeliveries_releaseDirectDelivery] at hd
    split at hd
    · cases hd
    · exact hd

/-- A promotion swaps a reservation for that of the message it takes out of a buffer. -/
theorem flow_advance (cfg : Config) (now : ℕ) {m m' : ChannelManager V} {s : SocketId}
    {res : Option (RelayPayload V)} (hrefs : ∀ d ∈ reserved m, d.channel < m.objects.next)
    (hout : AdvanceOutcome m s res m') :
    Flow cfg m ⟨now, .advanceDirectDelivery s⟩ m' (.advanced res) := by
  cases hout with
  | idle => exact .still (fun h => by cases h) rfl rfl le_rfl
  | released reservation _ _ hcontent htables hdd =>
    refine .still (fun h => by cases h) rfl
      (buffered_of_same (tables_eq_iff.1 htables).2.2.2 fun r => by rw [hcontent])
      (reserved_le fun s' d hd => ?_)
    rw [hdd] at hd
    split at hd
    · cases hd
    · exact hd
  | promoted reservation p next hget hp hlive hnext hcontent htables hdd =>
    have hr := hrefs reservation (mem_reserved.2 ⟨s, hget⟩)
    have hsum := buffered_of_update hr (tables_eq_iff.1 htables).2.2.2 fun r' => by
      rw [hcontent]
      exact apply_ite Content.messageBuffer _ _ _
    rw [tagged_perm (perm_cons_eraseP hnext), tagged_cons, Multiset.add_cons,
      ← Multiset.cons_add] at hsum
    have hrel : reserved m = reservation ::ₘ reserved (m.releaseDirectDelivery s) :=
      reserved_of_released hget (m.directDeliveries_releaseDirectDelivery s)
    refine .promoted s reservation next (reserved (m.releaseDirectDelivery s)) rfl
      (add_right_cancel hsum).symm hrel ?_
    have hfree : (m.releaseDirectDelivery s).directDeliveries.get? s = none := by
      rw [directDeliveries_releaseDirectDelivery, if_pos rfl]
    rw [← reserved_of_granted hfree
      ((m.releaseDirectDelivery s).directDeliveries_reserveDirect s _)]
    refine reserved_congr fun s' => ?_
    rw [hdd, directDeliveries_reserveDirect, JsMap.get?_set]
    split
    · rfl
    next hs => rw [directDeliveries_releaseDirectDelivery, if_neg hs]

/-- Every call is one of the flows. -/
theorem flow_of_call (cfg : Config) {m : ChannelManager V} (c : Call V) (hm : MapSound m)
    (hrefs : ∀ d ∈ reserved m, d.channel < m.objects.next) :
    Flow cfg m c (c.step cfg m) (c.outcome cfg m) := by
  obtain ⟨now, op⟩ := c
  cases op with
  | join active channelId s t publicKey ip =>
    exact flow_join cfg hm (join_outcome active now m channelId s t publicKey ip)
  | leave s channelId => exact flow_leave cfg (leave_outcome now m s channelId)
  | close channelId => exact flow_close cfg hm (close_outcome now m channelId)
  | routeMessage canReceive channelId s data ip bufferedAt =>
    exact flow_route cfg hm
      (routeMessage_outcome cfg canReceive now bufferedAt m channelId s data ip)
  | releaseDirectDelivery s => exact flow_release cfg now m s
  | advanceDirectDelivery s => exact flow_advance cfg now hrefs (advance_outcome m s)
  | cleanup =>
    exact .swept rfl (buffered_cleanup now m) (reserved_congr fun s => by
      rw [show (Call.step cfg m ⟨now, .cleanup⟩).directDeliveries = m.directDeliveries from
        (cleanup_spec now m).2.2.2.2])

end ChannelManager

end QrlBackend
