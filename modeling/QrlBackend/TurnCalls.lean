import QrlBackend.Turns

/-!
# The calls inside a turn

What the manager calls of a turn do to the manager, in the form the invariants of the relay
use. `JoinOutcome` and `RouteOutcome` say it per branch of the source. Here the result is
known from the turn, so each lemma is about one branch : a buffered message (`Pushed`), a
direct grant (`Granted`), a refusal (`Touched`), an admission (`Admitted`).
-/

set_option autoImplicit false

namespace QrlBackend

variable {V : Type}

open ChannelManager RelayServer

namespace RelayServer

/-- A refused message touches the time of last activity only. -/
structure Touched (m m' : ChannelManager V) : Prop where
  content : ∀ r, ∃ lastActivity, m'.content r = { m.content r with lastActivity := lastActivity }
  tables : m'.tables = m.tables
  directDeliveries : m'.directDeliveries = m.directDeliveries

/-- A message in the buffer of the channel its sender routed it on. -/
structure Pushed (m m' : ChannelManager V) (now : ℕ) (s : SocketId) (payload : RelayPayload V)
    (target : Option SocketId) (r : ChannelRef) (message : BufferedMessage V) : Prop where
  get : m.channels.get? payload.id = some r
  live : (m.content r).terminated = false
  sender : ∃ p, (m.content r).participants.get? s = some p ∧ p.clientType = payload.clientType
  target_eq : target = counterparty (m.content r).participants s
  data : message.data = payload
  targetClientType : message.targetClientType = payload.clientType.other
  content : ∀ r', m'.content r' = if r' = r then
    { (m.content r).noted now s payload.seq with
      messageBuffer := afterEviction (m.content r).messageBuffer ++ [message] } else m.content r'
  tables : m'.tables = m.tables
  directDeliveries : m'.directDeliveries = m.directDeliveries

/-- A reservation for the one counterparty of a sender. -/
structure Granted (m m' : ChannelManager V) (now : ℕ) (s : SocketId) (payload : RelayPayload V)
    (target : SocketId) (r : ChannelRef) : Prop where
  get : m.channels.get? payload.id = some r
  live : (m.content r).terminated = false
  sender : ∃ p, (m.content r).participants.get? s = some p ∧ p.clientType = payload.clientType
  target_eq : counterparty (m.content r).participants s = some target
  free : m.directDeliveries.get? target = none
  content : ∀ r', m'.content r' =
    if r' = r then (m.content r).noted now s payload.seq else m.content r'
  tables : m'.tables = m.tables
  directDeliveries : ∃ reservation : DirectDeliveryReservation, reservation.channel = r ∧
    m'.directDeliveries = m.directDeliveries.set target reservation

variable [Unknown V] {cfg : Config} {st : RelayServer V} {input : Input V} {now : ℕ} {s : SocketId}
  {session : Session V} {payload : RelayPayload V}

/-- A `routeMessage` that refuses notes activity at most. -/
theorem touched_of_error {error : String}
    (hres : (st.routeCall cfg input s session payload).1.error = some error) :
    Touched st.channelManager (st.routeCall cfg input s session payload).2 := by
  have hout := routeMessage_outcome cfg st.canSocketReceive input.now input.bufferedAt
    st.channelManager payload.id s payload session.clientIp
  change RouteOutcome _ _ _ _ _ _ _ _ _ (st.routeCall cfg input s session payload).1
    (st.routeCall cfg input s session payload).2 at hout
  generalize st.routeCall cfg input s session payload = out at hres hout ⊢
  obtain ⟨result, m⟩ := out
  dsimp only at hres hout ⊢
  cases hout with
  | refused => exact ⟨fun r => ⟨_, rfl⟩, rfl, rfl⟩
  | refusedLate _ _ r _ _ _ _ hcontent htables hdd =>
    refine ⟨fun r' => ?_, htables, hdd⟩
    rw [hcontent]
    split
    next h => exact ⟨input.now, by rw [h]⟩
    next => exact ⟨_, rfl⟩
  | direct | buffered => cases hres

/-- A `routeMessage` that buffers adds one message. -/
theorem pushed_of_buffered {target : Option SocketId}
    (hres : (st.routeCall cfg input s session payload).1 = ⟨none, target, true, none⟩) :
    ∃ r message, Pushed st.channelManager (st.routeCall cfg input s session payload).2 input.now s
      payload target r message := by
  have hout := routeMessage_outcome cfg st.canSocketReceive input.now input.bufferedAt
    st.channelManager payload.id s payload session.clientIp
  change RouteOutcome _ _ _ _ _ _ _ _ _ (st.routeCall cfg input s session payload).1
    (st.routeCall cfg input s session payload).2 at hout
  generalize st.routeCall cfg input s session payload = out at hres hout ⊢
  obtain ⟨result, m⟩ := out
  dsimp only at hres hout ⊢
  cases hout with
  | refused | refusedLate | direct => cases hres
  | buffered r sender size hget hlive hsender htype _ _ _ hcontent htables hdd =>
    refine ⟨r, ⟨payload, sender.clientType.other, input.bufferedAt, size, session.clientIp⟩, hget,
      hlive, ⟨sender, hsender, htype.symm⟩, ?_, rfl, by rw [htype], hcontent, htables, hdd⟩
    exact (congrArg RouteResult.backpressuredSocketId hres).symm

/-- A `routeMessage` with a direct target reserves for it. -/
theorem granted_of_direct {target : SocketId}
    (hres : (st.routeCall cfg input s session payload).1 = ⟨some target, none, false, none⟩) :
    ∃ r, Granted st.channelManager (st.routeCall cfg input s session payload).2 input.now s
      payload target r := by
  have hout := routeMessage_outcome cfg st.canSocketReceive input.now input.bufferedAt
    st.channelManager payload.id s payload session.clientIp
  change RouteOutcome _ _ _ _ _ _ _ _ _ (st.routeCall cfg input s session payload).1
    (st.routeCall cfg input s session payload).2 at hout
  generalize st.routeCall cfg input s session payload = out at hres hout ⊢
  obtain ⟨result, m⟩ := out
  dsimp only at hres hout ⊢
  cases hout with
  | refused | refusedLate | buffered => cases hres
  | direct r sender target' size hget hlive hsender htype _ _ htarget _ hfree _ hcontent htables
      hdd =>
    obtain rfl : target' = target := Option.some.inj (congrArg RouteResult.targetSocketId hres)
    exact ⟨r, hget, hlive, ⟨sender, hsender, htype.symm⟩, htarget, hfree, hcontent, htables,
      ⟨_, rfl, hdd⟩⟩

omit [Unknown V] in
theorem joinCall_outcome (st : RelayServer V) (now : ℕ) (s : SocketId) (session : Session V)
    (request : JoinRequest) :
    JoinOutcome st.isSocketActive now st.channelManager request.channelId s request.clientType
      request.publicKey (some session.clientIp) (st.joinCall now s session request).1
      (st.joinCall now s session request).2 :=
  join_outcome _ _ _ _ _ _ _ _

/-- A participant that joined. The buffered messages for its role were handed to it. -/
structure Admitted (st : RelayServer V) (now : ℕ) (s : SocketId) (request : JoinRequest)
    (m' : ChannelManager V) (bufferedMessages : List (RelayPayload V)) (r : ChannelRef)
    (c : Content V) (key : Option String) (stale : Option SocketId) : Prop where
  get : m'.channels.get? request.channelId = some r
  slot : (st.channelManager.channels.get? request.channelId = some r ∧
      c = st.channelManager.content r ∧ m'.channels = st.channelManager.channels ∧
      m'.objects.next = st.channelManager.objects.next) ∨
    (st.channelManager.channels.get? request.channelId = none ∧
      r = st.channelManager.objects.next ∧ (∃ creatorIp, c = .fresh now creatorIp) ∧
      m'.channels = st.channelManager.channels.set request.channelId r ∧
      m'.objects.next = st.channelManager.objects.next + 1)
  live : c.terminated = false
  role : ∀ p, c.participants.get? s = some p → p.clientType = request.clientType
  stale_eq : sameRoleSocket c.participants s request.clientType = stale
  inactive : ∀ e, stale = some e → st.sockets.get? e = none
  content : ∀ r', m'.content r' = if r' = r then c.joined now s request.clientType key stale
    else st.channelManager.content r'
  directDeliveries : ∀ s', m'.directDeliveries.get? s' =
    if stale = some s' then none else st.channelManager.directDeliveries.get? s'
  messages : bufferedMessages =
    (c.messageBuffer.filter (·.targetClientType = request.clientType)).map (·.data)

omit [Unknown V] in
/-- A join with success that finds no tombstone admits. -/
theorem admitted_of_success {request : JoinRequest} {messages : List (RelayPayload V)}
    {key : Option String} {roster : List ClientType}
    (hres : (st.joinCall now s session request).1 = .success messages key roster false) :
    ∃ r c key stale, Admitted st now s request (st.joinCall now s session request).2 messages r c
      key stale := by
  have hout := joinCall_outcome st now s session request
  generalize st.joinCall now s session request = out at hres hout ⊢
  obtain ⟨result, m⟩ := out
  dsimp only at hres hout ⊢
  subst hres
  cases hout with
  | admitted r c key stale hslot _ hlive _ hrole hstale hinactive hcontent _ hdd hres =>
    have hinactive' : ∀ e, stale = some e → st.sockets.get? e = none := fun e he => by
      simpa [isSocketActive, JsMap.has] using hinactive e he
    have hmessages := (JoinResult.success.inj hres).1
    cases hslot with
    | existing _ hget hch hnext =>
      exact ⟨r, _, key, stale, by rw [hch, hget], .inl ⟨hget, rfl, hch, hnext⟩, hlive, hrole,
        hstale, hinactive', hcontent, hdd, hmessages⟩
    | created hget hch hnext =>
      exact ⟨_, _, key, stale, by rw [hch, JsMap.get?_set_self],
        .inr ⟨hget, rfl, ⟨_, rfl⟩, hch, hnext⟩, hlive, hrole, hstale, hinactive', hcontent, hdd,
        hmessages⟩

omit [Unknown V] in
/-- A join that reports a tombstone changes nothing. -/
theorem tombstone_of_success {request : JoinRequest} {messages : List (RelayPayload V)}
    {key : Option String} {roster : List ClientType}
    (hres : (st.joinCall now s session request).1 = .success messages key roster true) :
    (st.joinCall now s session request).2 = st.channelManager := by
  have hout := joinCall_outcome st now s session request
  generalize st.joinCall now s session request = out at hres hout ⊢
  obtain ⟨result, m⟩ := out
  dsimp only at hres hout ⊢
  subst hres
  cases hout with
  | tombstone => rfl
  | admitted _ _ _ _ _ _ _ _ _ _ _ _ _ _ hres => cases hres

/-- A refused join changes nothing, or drops a stale participant on the way. -/
inductive RefusedJoin (st : RelayServer V) : ChannelManager V → Prop
  | unchanged : RefusedJoin st st.channelManager
  | dropped (r : ChannelRef) (e : SocketId) (hgone : st.sockets.get? e = none) :
      RefusedJoin st (st.channelManager.dropStale r e)

omit [Unknown V] in
/-- A join that fails admits nobody. -/
theorem refusedJoin_of_failure {request : JoinRequest} {error : String}
    (hres : (st.joinCall now s session request).1 = .failure error) :
    RefusedJoin st (st.joinCall now s session request).2 := by
  have hout := joinCall_outcome st now s session request
  generalize st.joinCall now s session request = out at hres hout ⊢
  obtain ⟨result, m⟩ := out
  dsimp only at hres hout ⊢
  subst hres
  cases hout with
  | refused => exact .unchanged
  | refusedAfterStale _ r e _ _ _ hinactive =>
    exact .dropped r e (by simpa [isSocketActive, JsMap.has] using hinactive)
  | admitted _ _ _ _ _ _ _ _ _ _ _ _ _ _ hres => cases hres

/-- The oldest message for a socket's role, taken out of the channel of its reservation. -/
structure Promoted (m m' : ChannelManager V) (s : SocketId) (payload : RelayPayload V)
    (r : ChannelRef) (p : Participant) (next : BufferedMessage V) : Prop where
  reservation : ∃ reservation : DirectDeliveryReservation, reservation.channel = r ∧
    m.directDeliveries.get? s = some reservation
  participant : (m.content r).participants.get? s = some p
  live : (m.content r).terminated = false
  oldest : (m.content r).messageBuffer.find? (·.targetClientType = p.clientType) = some next
  data : next.data = payload
  content : ∀ r', m'.content r' =
    if r' = r then (m.content r).promoted p.clientType else m.content r'
  tables : m'.tables = m.tables
  directDeliveries : ∀ s', ∃ reservation : DirectDeliveryReservation, reservation.channel = r ∧
    m'.directDeliveries.get? s' = if s' = s then some reservation else m.directDeliveries.get? s'

omit [Unknown V] in
/-- An advance with a message has taken the oldest one for its socket. -/
theorem promoted_of_advance {m : ChannelManager V}
    (hres : (m.advanceDirectDelivery s).1 = some payload) :
    ∃ r p next, Promoted m (m.advanceDirectDelivery s).2 s payload r p next := by
  have hout := advance_outcome m s
  generalize m.advanceDirectDelivery s = out at hres hout ⊢
  obtain ⟨result, m'⟩ := out
  dsimp only at hres hout ⊢
  cases hout with
  | idle | released => cases hres
  | promoted reservation p next hget hp hlive hnext hcontent htables hdd =>
    exact ⟨reservation.channel, p, next, ⟨reservation, rfl, hget⟩, hp, hlive, hnext,
      Option.some.inj hres, hcontent, htables, fun s' =>
        ⟨⟨reservation.channel, next.sourceIp, next.sizeBytes⟩, rfl, hdd s'⟩⟩

/-- A reservation whose channel has nothing for its socket ends. -/
structure Exhausted (m m' : ChannelManager V) (s : SocketId) : Prop where
  empty : ∀ reservation, m.directDeliveries.get? s = some reservation →
    ∀ p, (m.content reservation.channel).participants.get? s = some p →
      (m.content reservation.channel).terminated = false →
      ∀ message ∈ (m.content reservation.channel).messageBuffer,
        message.targetClientType ≠ p.clientType
  content : ∀ r, m'.content r = m.content r
  tables : m'.tables = m.tables
  directDeliveries : ∀ s', m'.directDeliveries.get? s' =
    if s' = s then none else m.directDeliveries.get? s'

omit [Unknown V] in
theorem exhausted_of_advance {m : ChannelManager V} (hres : (m.advanceDirectDelivery s).1 = none) :
    Exhausted m ((m.advanceDirectDelivery s).2.releaseDirectDelivery s) s := by
  have hadvanced : Exhausted m (m.advanceDirectDelivery s).2 s := by
    have hout := advance_outcome m s
    generalize m.advanceDirectDelivery s = out at hres hout ⊢
    obtain ⟨result, m'⟩ := out
    dsimp only at hres hout ⊢
    cases hout with
    | idle hnone =>
      refine ⟨fun reservation hget => ?_, fun _ => rfl, rfl, fun s' => ?_⟩
      · rw [hnone] at hget
        cases hget
      · split
        next hs => rw [hs, hnone]
        next => rfl
    | released reservation hget hempty hcontent htables hdd =>
      refine ⟨fun reservation' hget' => ?_, hcontent, htables, hdd⟩
      obtain rfl : reservation = reservation' := Option.some.inj (hget.symm.trans hget')
      exact hempty
    | promoted => cases hres
  refine ⟨hadvanced.empty, fun r => ?_, ?_, fun s' => ?_⟩
  · rw [content_releaseDirectDelivery, hadvanced.content]
  · rw [tables_releaseDirectDelivery, hadvanced.tables]
  · rw [directDeliveries_releaseDirectDelivery, hadvanced.directDeliveries]
    split <;> rfl

end RelayServer

end QrlBackend
