import QrlBackend.Core
import QrlBackend.RoutingEffects

/-!
# What one event does to the relay

`Turn` has a constructor for each way an event can change the core, and `turn_of_step`
says that every event is one of them. What the relay keeps is proved from the turns, and no
later module opens a handler.

The branches in which `armDirectDelivery` fails are not among the turns : a direct target
was writable and had no listener when `routeMessage` chose it, and a ready listener is
deleted before the next drain is armed.
-/

set_option autoImplicit false

namespace QrlBackend

variable {V : Type}

/-- A join handler that has nothing more to do with any channel, or none. -/
def Settled : Option (PendingJoin V) → Prop
  | some ⟨_, .joiningRoom _⟩ => False
  | some ⟨_, .leavingPrevious _ _ _ _⟩ => False
  | _ => True

/-- A join handler that took part in a new channel and waits to leave the previous room. -/
def Switching : Option (PendingJoin V) → Prop
  | some ⟨_, .leavingPrevious _ _ _ _⟩ => True
  | _ => False

/-- A join handler about to call `channelManager.join` : at once for the current channel,
otherwise after it joined the room. -/
inductive Entering (session : Session V) : JoinRequest → Prop
  | rejoin {request : JoinRequest} (hfree : session.joining = none)
      (hcur : session.currentChannelId = some request.channelId)
      (hstay : request.switchingChannels = false) : Entering session request
  | roomJoined {request : JoinRequest}
      (hjoin : session.joining = some ⟨request, .joiningRoom true⟩) :
      Entering session { request with joinedRoom := true }

namespace RelayServer

/-- The call of `channelManager.join` in the `join_channel` handler. -/
def joinCall (st : RelayServer V) (now : ℕ) (s : SocketId) (session : Session V)
    (request : JoinRequest) : JoinResult V × ChannelManager V :=
  st.channelManager.join st.isSocketActive now request.channelId s request.clientType
    request.publicKey (some session.clientIp)

variable [Unknown V]

/-- The call of `channelManager.routeMessage` in the `message` handler. -/
def routeCall (cfg : Config) (st : RelayServer V) (input : Input V) (s : SocketId)
    (session : Session V) (payload : RelayPayload V) : RouteResult × ChannelManager V :=
  st.channelManager.routeMessage cfg st.canSocketReceive input.now input.bufferedAt payload.id s
    payload session.clientIp

/-- A message event whose message reaches `channelManager.routeMessage`. -/
structure Routes (st : RelayServer V) (input : Input V) (s : SocketId) (session : Session V)
    (payload : RelayPayload V) : Prop where
  event : ∃ raw ack, input.event = .message s raw ack input.bufferedAt ∧
    parseMessage raw ⟨s, st.payloads⟩ = .ok payload
  connected : (st.sockets.get? s).isSome = true
  found : st.sessions.get? s = some session
  allowed : (st.checkRateLimit input.now session.clientIp .message rateLimitMaxMessages).1 = true

/-- A `leave_channel` or `close_channel` event that calls `channelManager.leave`. -/
structure Leaves (st : RelayServer V) (input : Input V) (s : SocketId) (session : Session V)
    (channelId : String) : Prop where
  event : ∃ requested ack, (input.event = .leaveChannel s requested ack ∨
      input.event = .closeChannel s requested ack) ∧
    resolveChannelId requested session.currentChannelId = some channelId
  connected : (st.sockets.get? s).isSome = true
  found : st.sessions.get? s = some session
  allowed :
    (st.checkRateLimit input.now session.clientIp .control rateLimitMaxControlEvents).1 = true

end RelayServer

open RelayServer ChannelManager

/-- What one event can make of the core. -/
inductive Turn [Unknown V] (cfg : Config) (st : RelayServer V) (input : Input V) : Core V → Prop
  | idle : Turn cfg st input st.core
  | opened (s : SocketId) (clientIp : String) (hnew : st.sessions.get? s = none) :
      Turn cfg st input
        { st.core with
          transport := Function.update st.core.transport s (some st.transports)
          session := Function.update st.core.session s (some ⟨clientIp, none, false, none⟩) }
  | requested (s : SocketId) (session : Session V) (request : JoinRequest) (resolves : Bool)
      (hconn : (st.sockets.get? s).isSome = true) (hses : st.sessions.get? s = some session)
      (hfree : session.joining = none) (hcur : session.currentChannelId ≠ some request.channelId)
      (hswitch : request.switchingChannels = session.currentChannelId.isSome) :
      Turn cfg st input (st.core.setSession s
        { session with joining := some ⟨request, .joiningRoom resolves⟩ })
  | dismissed (s : SocketId) (session : Session V) (joining : Option (PendingJoin V))
      (hses : st.sessions.get? s = some session) (hnot : ¬Switching session.joining)
      (hsettled : Settled joining) :
      Turn cfg st input (st.core.setSession s { session with joining := joining })
  | refusedJoin (s : SocketId) (session : Session V) (request : JoinRequest) (error : String)
      (joining : Option (PendingJoin V)) (hses : st.sessions.get? s = some session)
      (hentering : Entering session request)
      (hres : (st.joinCall input.now s session request).1 = .failure error)
      (hsettled : Settled joining) :
      Turn cfg st input ({ st.core with
        manager := (st.joinCall input.now s session request).2 }.setSession s
          { session with joining := joining })
  | entered (s : SocketId) (session : Session V) (request : JoinRequest)
      (bufferedMessages : List (RelayPayload V)) (key : Option String)
      (roster : List ClientType) (delivered : Bool) (hses : st.sessions.get? s = some session)
      (hentering : Entering session request)
      (hwhere : (st.sockets.get? s).isSome = true ∨
        session.joining.isSome = true ∧ ∃ resolves, input.event = .resumeJoin s resolves)
      (hres : (st.joinCall input.now s session request).1 =
        .success bufferedMessages key roster false)
      (hstay : request.switchingChannels = false ∨ session.currentChannelId = none)
      (hdelivered : delivered = true → (st.sockets.get? s).isSome = true) :
      Turn cfg st input (({ st.core with
        manager := (st.joinCall input.now s session request).2 }.setSession s
          { session with currentChannelId := some request.channelId, joining := none }).hand s
            (if delivered then bufferedMessages else []))
  | switched (s : SocketId) (session : Session V) (request : JoinRequest)
      (bufferedMessages : List (RelayPayload V)) (key : Option String)
      (roster : List ClientType) (previousChannelId : String) (resolves : Bool)
      (hses : st.sessions.get? s = some session) (hentering : Entering session request)
      (hwhere : (st.sockets.get? s).isSome = true ∨
        session.joining.isSome = true ∧ input.event = .resumeJoin s resolves)
      (hres : (st.joinCall input.now s session request).1 =
        .success bufferedMessages key roster false)
      (hswitch : request.switchingChannels = true)
      (hcur : session.currentChannelId = some previousChannelId) :
      Turn cfg st input ({ st.core with
        manager := ((st.joinCall input.now s session request).2.leave input.now s
          previousChannelId).2 }.setSession s
          { session with
            joining := some ⟨request, .leavingPrevious bufferedMessages key roster resolves⟩ })
  | completed (s : SocketId) (session : Session V) (request : JoinRequest)
      (bufferedMessages : List (RelayPayload V)) (key : Option String)
      (roster : List ClientType) (delivered : Bool) (hses : st.sessions.get? s = some session)
      (hjoin : session.joining =
        some ⟨request, .leavingPrevious bufferedMessages key roster true⟩)
      (hdelivered : delivered = true →
        request.ack = true ∧ (st.sockets.get? s).isSome = true) :
      Turn cfg st input ((st.core.setSession s
        { session with currentChannelId := some request.channelId, joining := none }).hand s
          (if delivered then bufferedMessages else []))
  | undone (s : SocketId) (session : Session V) (request : JoinRequest)
      (bufferedMessages : List (RelayPayload V)) (key : Option String)
      (roster : List ClientType) (joining : Option (PendingJoin V))
      (hses : st.sessions.get? s = some session)
      (hjoin : session.joining =
        some ⟨request, .leavingPrevious bufferedMessages key roster false⟩)
      (hsettled : Settled joining) :
      Turn cfg st input ({ st.core with
        manager := (st.channelManager.leave input.now s request.channelId).2 }.setSession s
          { session with joining := joining })
  | refused (s : SocketId) (session : Session V) (payload : RelayPayload V) (error : String)
      (hroutes : st.Routes input s session payload)
      (hres : (st.routeCall cfg input s session payload).1.error = some error) :
      Turn cfg st input ({ st.core with
        manager := (st.routeCall cfg input s session payload).2
        payloads := st.payloads + 1 }.relieve input.now
          (st.routeCall cfg input s session payload).1.backpressuredSocketId)
  | buffered (s : SocketId) (session : Session V) (payload : RelayPayload V)
      (target : Option SocketId) (hroutes : st.Routes input s session payload)
      (hres : (st.routeCall cfg input s session payload).1 = ⟨none, target, true, none⟩) :
      Turn cfg st input ({ st.core with
        manager := (st.routeCall cfg input s session payload).2
        payloads := st.payloads + 1
        accepted := st.accepted ++ acceptance st.channelManager payload.id s payload }.relieve
          input.now target)
  | direct (s : SocketId) (session : Session V) (payload : RelayPayload V) (target : SocketId)
      (transport : TransportRef) (hroutes : st.Routes input s session payload)
      (hres : (st.routeCall cfg input s session payload).1 = ⟨some target, none, false, none⟩)
      (htransport : st.core.transport target = some transport)
      (hidle : st.core.listener target = none) :
      Turn cfg st input ({ st.core with
        manager := (st.routeCall cfg input s session payload).2
        payloads := st.payloads + 1
        accepted := st.accepted ++ acceptance st.channelManager payload.id s payload
        listener := Function.update st.core.listener target
          (some ⟨transport, .drain⟩) }.hand target [payload])
  | left (s : SocketId) (session : Session V) (channelId : String) (current : Option String)
      (hleaves : st.Leaves input s session channelId)
      (hcur : current = session.currentChannelId ∨
        (session.currentChannelId = some channelId ∧ current = none)) :
      Turn cfg st input ({ st.core with
        manager := (st.channelManager.leave input.now s channelId).2 }.setSession s
          { session with currentChannelId := current })
  | closed (s : SocketId) (session : Session V) (channelId : String) (participant : Participant)
      (hevent : ∃ requested ack, input.event = .closeChannel s requested ack)
      (hleaves : st.Leaves input s session channelId)
      (hpart : (st.channelManager.leave input.now s channelId).1 = some participant)
      (hclosed : ((st.channelManager.leave input.now s channelId).2.close input.now channelId).1 =
        true) :
      Turn cfg st input ({ st.core with
        manager :=
          ((st.channelManager.leave input.now s channelId).2.close input.now
            channelId).2 }.setSession s (if session.currentChannelId = some channelId then
            { session with currentChannelId := none } else session))
  | dropped (s : SocketId) (hevent : input.event = .disconnect s) :
      Turn cfg st input (st.core.drop input.now s)
  | drained (s : SocketId) (transport : TransportRef)
      (htransport : st.core.transport s = some transport)
      (hlistener : st.core.listener s = some ⟨transport, .drain⟩) :
      Turn cfg st input
        { st.core with listener := Function.update st.core.listener s (some ⟨transport, .ready⟩) }
  | promoted (s : SocketId) (transport : TransportRef) (payload : RelayPayload V)
      (htransport : st.core.transport s = some transport)
      (hlistener : st.core.listener s = some ⟨transport, .ready⟩)
      (hres : (st.channelManager.advanceDirectDelivery s).1 = some payload) :
      Turn cfg st input ({ st.core with
        manager := (st.channelManager.advanceDirectDelivery s).2
        listener := Function.update st.core.listener s (some ⟨transport, .drain⟩) }.hand s
          [payload])
  | released (s : SocketId) (transport : TransportRef)
      (htransport : st.core.transport s = some transport)
      (hlistener : st.core.listener s = some ⟨transport, .ready⟩)
      (hres : (st.channelManager.advanceDirectDelivery s).1 = none) :
      Turn cfg st input { st.core with
        manager := (st.channelManager.advanceDirectDelivery s).2.releaseDirectDelivery s
        listener := Function.update st.core.listener s none }
  | upgraded (s : SocketId) (writable : Bool) (hevent : input.event = .upgrade s writable)
      (hconn : (st.sockets.get? s).isSome = true) :
      Turn cfg st input { st.core with
        transport := Function.update st.core.transport s (some st.transports) }
  | cleaned (hevent : input.event = .cleanup) :
      Turn cfg st input { st.core with manager := st.channelManager.cleanup input.now }

/-! ## Every event is a turn -/

namespace RelayServer

variable [Unknown V] (cfg : Config) {st : RelayServer V} {input : Input V}

/-- The call of the manager, at once or after the room was joined. -/
theorem turn_enterChannel {s : SocketId} {session : Session V} {request : JoinRequest}
    (hses : st.sessions.get? s = some session) (hentering : Entering session request)
    (limits : JsMap String RateLimitEntry) (resolves : Bool)
    (hwhere : (st.sockets.get? s).isSome = true ∨
      session.joining.isSome = true ∧ input.event = .resumeJoin s resolves) :
    Turn cfg st input
      (({ st with rateLimits := limits } : RelayServer V).enterChannel input.now s session request
        resolves).core := by
  have hnot : ¬Switching session.joining := by
    cases hentering with
    | rejoin hfree => simp [hfree, Switching]
    | roomJoined hjoin => simp [hjoin, Switching]
  unfold enterChannel
  have hcall : ({ st with rateLimits := limits } : RelayServer V).channelManager.join
      ({ st with rateLimits := limits } : RelayServer V).isSocketActive input.now
      request.channelId s request.clientType request.publicKey (some session.clientIp) =
      st.joinCall input.now s session request := rfl
  rw [hcall]
  have hrefused := @Turn.refusedJoin V _ cfg st input s session request
  have hentered := @Turn.entered V _ cfg st input s session request
  have hswitched := @Turn.switched V _ cfg st input s session request
  have htomb : ∀ messages key roster, (st.joinCall input.now s session request).1 =
      .success messages key roster true →
      (st.joinCall input.now s session request).2 = st.channelManager := by
    intro messages key roster hres
    have hout := join_outcome st.isSocketActive input.now st.channelManager request.channelId s
      request.clientType request.publicKey (some session.clientIp)
    change JoinOutcome _ _ _ _ _ _ _ _ (st.joinCall input.now s session request).1
      (st.joinCall input.now s session request).2 at hout
    generalize st.joinCall input.now s session request = out at hres hout ⊢
    obtain ⟨res, m⟩ := out
    dsimp only at hres hout ⊢
    subst hres
    cases hout with
    | tombstone => rfl
    | admitted _ _ _ _ _ _ _ _ _ _ _ _ _ _ hres => cases hres
  generalize st.joinCall input.now s session request = out at *
  obtain ⟨res, m⟩ := out
  cases res with
  | failure error =>
    dsimp only
    split
    · rw [core_suspend _ _ _ _ (by rw [core_leaveRoom]; exact hses), core_leaveRoom]
      exact hrefused error (some _) hses hentering rfl trivial
    · rw [core_endJoin _ _ _ rfl (by exact hses)]
      exact hrefused error none hses hentering rfl trivial
  | success messages key roster terminated =>
    dsimp only
    cases terminated with
    | true =>
      obtain rfl : m = st.channelManager := htomb messages key roster rfl
      rw [if_pos rfl]
      split
      · rw [core_suspend _ _ _ _ (by rw [core_leaveRoom]; exact hses), core_leaveRoom]
        exact .dismissed s session (some _) hses hnot trivial
      · rw [core_endJoin _ _ _ rfl (by exact hses)]
        exact .dismissed s session none hses hnot trivial
    | false =>
      rw [if_neg Bool.false_ne_true]
      split
      next hstay =>
        rw [core_finishJoin _ _ _ _ _ _ (by exact hses)]
        refine hentered messages key roster _ hses hentering
          (hwhere.imp_right fun h => ⟨h.1, resolves, h.2⟩) rfl ?_ ?_
        · by_cases hswitch : request.switchingChannels = true
          · exact .inr (by simpa [hswitch] using hstay)
          · exact .inl (by simpa using hswitch)
        · exact fun h => (Bool.and_eq_true_iff.1 h).2
      next previous hprev =>
        have hswitch : request.switchingChannels = true := by
          by_contra h
          simp [h] at hprev
        rw [if_pos hswitch] at hprev
        rw [core_suspend _ _ _ _ (by rw [core_leaveRoom, core_notifyLeft]; exact hses),
          core_leaveRoom, core_notifyLeft]
        exact hswitched messages key roster previous resolves hses hentering hwhere rfl hswitch
          hprev

/-- A join is refused, goes to the manager or waits for its room. -/
theorem turn_onJoinChannel {s : SocketId} {session : Session V}
    (hconn : (st.sockets.get? s).isSome = true) (hses : st.sessions.get? s = some session)
    (payload : JoinPayload) (ack resolves : Bool) :
    Turn cfg st input (st.onJoinChannel cfg input.now s session payload ack resolves).core := by
  unfold onJoinChannel
  split
  · rw [core_respond _ _ _ rfl]
    exact .idle
  next hbusy =>
  have hfree : session.joining = none := by simpa using hbusy
  dsimp only
  split
  · rw [core_respond _ _ _ rfl]
    exact .idle
  split
  · rw [core_respond _ _ _ rfl]
    exact .idle
  next channelId _ =>
  split
  · rw [core_respond _ _ _ rfl]
    exact .idle
  split
  · rw [core_respond _ _ _ rfl]
    exact .idle
  · rw [core_respond _ _ _ rfl]
    exact .idle
  next clientType publicKey _ _ =>
  split
  next hcur =>
    rw [core_suspend _ _ _ _ (by rw [core_joinRoom]; exact hses), core_joinRoom]
    refine .requested s session _ resolves hconn hses hfree hcur ?_
    dsimp only
    cases hsome : session.currentChannelId with
    | none => rfl
    | some current =>
      rw [hsome, ne_eq, Option.some.injEq] at hcur
      simp [hcur]
  next hcur =>
    have hcur : session.currentChannelId = some channelId := not_not.1 hcur
    exact turn_enterChannel cfg hses (.rejoin hfree hcur (by simp [hcur])) _ resolves (.inl hconn)

/-- A handler that has not switched ends without a trace in the core. -/
theorem turn_abortJoin {s : SocketId} {session : Session V} (request : JoinRequest)
    (hses : st.sessions.get? s = some session) (hnot : ¬Switching session.joining)
    (resolves : Bool) :
    Turn cfg st input (st.abortJoin input.now s request false resolves).core := by
  unfold abortJoin
  rw [if_neg Bool.false_ne_true]
  split
  · rw [core_suspend _ _ _ _ (by rw [core_leaveRoom]; exact hses), core_leaveRoom]
    exact .dismissed s session (some _) hses hnot trivial
  · rw [core_endJoin _ _ _ rfl hses]
    exact .dismissed s session none hses hnot trivial

/-- A suspended join takes the turn of its stage. -/
theorem turn_onResume {s : SocketId} {session : Session V} {pending : PendingJoin V}
    {resolves : Bool} (hevent : input.event = .resumeJoin s resolves)
    (hses : st.sessions.get? s = some session) (hjoin : session.joining = some pending) :
    Turn cfg st input (st.onResume input.now s session pending resolves).core := by
  obtain ⟨request, stage⟩ := pending
  unfold onResume
  cases stage with
  | joiningRoom settled =>
    cases settled with
    | true =>
      exact turn_enterChannel cfg hses (.roomJoined hjoin) st.rateLimits resolves
        (.inr ⟨by rw [hjoin]; rfl, hevent⟩)
    | false => exact turn_abortJoin cfg request hses (by simp [hjoin, Switching]) resolves
  | leavingRefused error settled =>
    have hnot : ¬Switching session.joining := by simp [hjoin, Switching]
    cases settled with
    | true =>
      dsimp only
      rw [core_endJoin _ _ _ rfl hses]
      exact .dismissed s session none hses hnot trivial
    | false => exact turn_abortJoin cfg request hses hnot resolves
  | leavingTombstone settled =>
    have hnot : ¬Switching session.joining := by simp [hjoin, Switching]
    cases settled with
    | true =>
      dsimp only
      rw [core_endJoin _ _ _ rfl hses]
      exact .dismissed s session none hses hnot trivial
    | false => exact turn_abortJoin cfg request hses hnot resolves
  | undoing =>
    dsimp only
    rw [core_endJoin _ _ _ rfl hses]
    exact .dismissed s session none hses (by simp [hjoin, Switching]) trivial
  | leavingPrevious messages key roster settled =>
    cases settled with
    | true =>
      dsimp only
      rw [core_finishJoin _ _ _ _ _ _ hses]
      exact .completed s session request messages key roster _ hses hjoin
        fun h => Bool.and_eq_true_iff.1 h
    | false =>
      dsimp only
      unfold abortJoin
      rw [if_pos rfl]
      dsimp only
      split
      · rw [core_suspend _ _ _ _ (by rw [core_leaveRoom]; exact hses), core_leaveRoom]
        exact .undone s session request messages key roster (some _) hses hjoin trivial
      · rw [core_endJoin _ _ _ rfl (by exact hses)]
        exact .undone s session request messages key roster none hses hjoin trivial

/-! ### Messages -/

omit [Unknown V] in
/-- A slow target goes away. -/
theorem core_disconnectSlow (now : ℕ) (st : RelayServer V) (target : Option SocketId) :
    (st.disconnectSlow now target).core = st.core.relieve now target := by
  unfold disconnectSlow Core.relieve
  cases target with
  | none => rfl
  | some target =>
    dsimp only
    rw [apply_ite core, core_disconnect]
    rfl

omit [Unknown V] in
/-- An idle socket that can be written to gets a listener. -/
theorem core_armDirectDelivery {st : RelayServer V} {s : SocketId} {socket : Socket}
    (hsock : st.sockets.get? s = some socket) (hwritable : socket.writable = true)
    (hidle : st.directTransportListeners.has s = false) :
    (st.armDirectDelivery s).1 = true ∧ (st.armDirectDelivery s).2 =
      { st with
        directTransportListeners :=
          st.directTransportListeners.set s ⟨socket.transport, .drain⟩ } := by
  unfold armDirectDelivery
  simp [hsock, hwritable, hidle]

omit [Unknown V] in
/-- A volatile packet to a writable socket is written. -/
theorem core_emitVolatile {st : RelayServer V} {s : SocketId} {socket : Socket}
    (hsock : st.sockets.get? s = some socket) (hwritable : socket.writable = true)
    (packet : Packet V) : (st.emitVolatile s packet).core = st.core.hand s packet.messages := by
  unfold emitVolatile
  rw [if_pos (by simp [hsock, hwritable]), core_emit, if_pos (by simp [core, hsock])]

omit [Unknown V] in
/-- What an accepted message adds to the core does not meet what a disconnection takes. -/
theorem relieve_accepted (now : ℕ) (k : Core V) (target : Option SocketId)
    (accepted : List (Acceptance V)) :
    { k.relieve now target with accepted := accepted } =
      Core.relieve now { k with accepted := accepted } target := by
  unfold Core.relieve
  cases target with
  | none => rfl
  | some target =>
    dsimp only
    split
    · rfl
    · unfold Core.drop
      dsimp only
      split <;> rfl

/-- A message is refused, buffered or handed to its target. -/
theorem turn_relayMessage {s : SocketId} {session : Session V} {payload : RelayPayload V}
    (hroutes : st.Routes input s session payload) (limits : JsMap String RateLimitEntry)
    (ack : Bool) :
    Turn cfg st input
      (({ st with rateLimits := limits, payloads := st.payloads + 1 } : RelayServer V).relayMessage
        cfg input.now input.bufferedAt s session payload ack).core := by
  set st₁ : RelayServer V := { st with rateLimits := limits, payloads := st.payloads + 1 } with hst₁
  unfold relayMessage
  have hcall : st₁.channelManager.routeMessage cfg st₁.canSocketReceive input.now input.bufferedAt
      payload.id s payload session.clientIp = st.routeCall cfg input s session payload := rfl
  rw [hcall]
  have hrefused := @Turn.refused V _ cfg st input s session payload
  have hbuffered := @Turn.buffered V _ cfg st input s session payload
  have hdirect := @Turn.direct V _ cfg st input s session payload
  have hout := routeMessage_outcome cfg st.canSocketReceive input.now input.bufferedAt
    st.channelManager payload.id s payload session.clientIp
  change RouteOutcome _ _ _ _ _ _ _ _ _ (st.routeCall cfg input s session payload).1
    (st.routeCall cfg input s session payload).2 at hout
  generalize st.routeCall cfg input s session payload = out at *
  obtain ⟨result, m⟩ := out
  dsimp only at *
  set st₂ := ({ st₁ with channelManager := m } : RelayServer V).disconnectSlow input.now
    result.backpressuredSocketId with hst₂
  have hcore₂ : st₂.core = Core.relieve input.now
      { st.core with manager := m, payloads := st.payloads + 1 } result.backpressuredSocketId := by
    rw [hst₂, core_disconnectSlow]
    rfl
  cases hout with
  | refused error =>
    change Turn cfg st input (st₂.respond s ack (.failed error)).core
    rw [core_respond _ _ _ rfl, hcore₂]
    exact hrefused error hroutes rfl
  | refusedLate error target =>
    dsimp only
    rw [core_respond _ _ _ rfl, hcore₂]
    exact hrefused error hroutes rfl
  | buffered =>
    dsimp only
    rw [core_respond _ _ _ rfl]
    have haccepted : st₂.accepted = st.accepted := by
      change st₂.core.accepted = _
      rw [hcore₂, (Core.log_relieve _ _ _).1]
      rfl
    change Turn cfg st input { st₂.core with accepted := st₂.accepted ++ _ }
    rw [hcore₂, haccepted, relieve_accepted]
    exact hbuffered _ hroutes rfl
  | direct r sender target size _ _ _ _ _ _ _ hreceive =>
    dsimp only
    simp only [canSocketReceive, Bool.and_eq_true, Bool.not_eq_true', Option.any_eq_true]
      at hreceive
    obtain ⟨⟨socket, hsock, hwritable⟩, hidle⟩ := hreceive
    have hst₂' : st₂ = { st₁ with channelManager := m } := rfl
    obtain ⟨harmed, harm⟩ := @core_armDirectDelivery V st₂ target socket hsock hwritable hidle
    generalize st₂.armDirectDelivery target = armed at harmed harm
    obtain ⟨ok, st₃⟩ := armed
    dsimp only at harmed harm
    subst harmed
    dsimp only
    rw [core_respond _ _ _ rfl]
    have hcore₃ : st₃.core = { st.core with
        manager := m
        payloads := st.payloads + 1
        listener :=
          Function.update st.core.listener target (some ⟨socket.transport, .drain⟩) } := by
      rw [harm, core_setListener]
      rfl
    have hsock₃ : st₃.sockets.get? target = some socket := by rw [harm]; exact hsock
    have hcore₄ := core_emitVolatile hsock₃ hwritable (.message payload)
    set st₄ := st₃.emitVolatile target (.message payload)
    have haccepted : st₄.accepted = st.accepted := by
      change st₄.core.accepted = _
      rw [hcore₄, hcore₃]
      rfl
    change Turn cfg st input { st₄.core with accepted := st₄.accepted ++ _ }
    rw [hcore₄, hcore₃, haccepted]
    refine hdirect target socket.transport hroutes rfl ?_ ?_
    · simp [core, hsock]
    · simpa [JsMap.has, core] using hidle

/-- Messages that fail the checks of the handler change nothing. -/
theorem turn_onMessage {s : SocketId} {session : Session V}
    (hconn : (st.sockets.get? s).isSome = true) (hses : st.sessions.get? s = some session)
    {payload : MessagePayload V} {ack : Bool}
    (hevent : input.event = .message s payload ack input.bufferedAt) :
    Turn cfg st input (st.onMessage cfg input.now input.bufferedAt s session payload ack).core := by
  unfold onMessage
  dsimp only
  split
  · rw [core_respond _ _ _ rfl]
    exact .idle
  next hallowed =>
  split
  · rw [core_respond _ _ _ rfl]
    exact .idle
  next canonicalPayload hparse =>
    have hroutes : st.Routes input s session canonicalPayload :=
      ⟨⟨payload, ack, hevent, hparse⟩, hconn, hses, by simpa using hallowed⟩
    exact turn_relayMessage cfg hroutes _ ack

/-! ### Leaving, closing and the transport -/

/-- Whoever leaves gives up its seat. -/
theorem turn_onLeaveChannel {s : SocketId} {session : Session V}
    (hconn : (st.sockets.get? s).isSome = true) (hses : st.sessions.get? s = some session)
    {requested : Narrowed} {ack : Bool} (hevent : input.event = .leaveChannel s requested ack) :
    Turn cfg st input (st.onLeaveChannel input.now s session requested ack).core := by
  unfold onLeaveChannel
  dsimp only
  split
  · rw [core_respond _ _ _ rfl]
    exact .idle
  next hallowed =>
  rw [core_respond _ _ _ rfl]
  split
  · exact .idle
  next channelId hresolve =>
    have hleaves : st.Leaves input s session channelId :=
      ⟨⟨requested, ack, .inl hevent, hresolve⟩, hconn, hses, by simpa using hallowed⟩
    rw [core_modifySession_of_some _ _ (by
      rw [core_notifyLeft, core_setManager, core_leaveRoom]; exact hses), core_notifyLeft,
      core_setManager, core_leaveRoom, core_checkRateLimit]
    by_cases hcur : session.currentChannelId = some channelId
    · rw [if_pos hcur]
      exact .left s session channelId none hleaves (.inr ⟨hcur, rfl⟩)
    · rw [if_neg hcur]
      exact .left s session channelId session.currentChannelId hleaves (.inl rfl)

/-- A channel is closed by one of its participants. -/
theorem turn_onCloseChannel {s : SocketId} {session : Session V}
    (hconn : (st.sockets.get? s).isSome = true) (hses : st.sessions.get? s = some session)
    {requested : Narrowed} {ack : Bool} (hevent : input.event = .closeChannel s requested ack) :
    Turn cfg st input (st.onCloseChannel input.now s session requested ack).core := by
  unfold onCloseChannel
  dsimp only
  split
  · rw [core_respond _ _ _ rfl]
    exact .idle
  next hallowed =>
  split
  · rw [core_respond _ _ _ rfl]
    exact .idle
  next channelId hresolve =>
  have hleaves : st.Leaves input s session channelId := by
    obtain ⟨channelId', hresolve, hvalid⟩ := Option.bind_eq_some_iff.1 hresolve
    have hsame : channelId' = channelId := eq_of_isValidChannelId hvalid
    exact ⟨⟨requested, ack, .inr hevent, hsame ▸ hresolve⟩, hconn, hses, by simpa using hallowed⟩
  have hleft := @Turn.left V _ cfg st input s session channelId session.currentChannelId hleaves
    (.inl rfl)
  have hclosed := @Turn.closed V _ cfg st input s session channelId
  have hsame : st.core.setSession s { session with
      currentChannelId := session.currentChannelId } = st.core := by
    simp only [Core.setSession]
    rw [← show st.core.session s = some session from hses, Function.update_eq_self]
  change Turn cfg st input ({ st.core.setSession s session with manager := _ }) at hleft
  rw [show st.core.setSession s session = st.core from hsame] at hleft
  have hcall : (st.checkRateLimit input.now session.clientIp .control
    rateLimitMaxControlEvents).2.channelManager = st.channelManager := rfl
  rw [hcall]
  generalize st.channelManager.leave input.now s channelId = out at *
  obtain ⟨participant, m⟩ := out
  cases participant with
  | none =>
    dsimp only
    rw [core_respond _ _ _ rfl]
    exact hleft
  | some participant =>
    dsimp only at *
    have hout := close_outcome input.now m channelId
    generalize m.close input.now channelId = out at *
    obtain ⟨confirmed, m'⟩ := out
    cases hout with
    | refused =>
      dsimp only
      rw [core_respond _ _ _ rfl]
      exact hleft
    | closed =>
      dsimp only
      rw [core_respond _ _ _ rfl, core_modifySession_of_some _ _
        (by rw [core_broadcast, core_leaveRoom]; exact hses), core_broadcast, core_leaveRoom]
      exact hclosed participant ⟨requested, ack, hevent⟩ hleaves rfl rfl

omit [Unknown V] in
/-- Arming deletes nothing : it replaces the entry the listener had. -/
theorem core_onDrain (st : RelayServer V) (s : SocketId) (transport : TransportRef) :
    (st.onDrain s transport).core =
      { st.core with
        listener := Function.update st.core.listener s (some ⟨transport, .ready⟩) } := by
  unfold onDrain waitForDirectReady
  rw [core_setListener, core_deleteListener]
  simp only [Function.update_idem]

omit [Unknown V] in
/-- A ready listener whose socket can be written to promotes the next message, or ends. -/
theorem core_onReady (now : ℕ) {st : RelayServer V} {s : SocketId} {socket : Socket}
    (hsock : st.sockets.get? s = some socket) (hwritable : socket.writable = true) :
    (st.onReady now s).core =
      match st.channelManager.advanceDirectDelivery s with
      | (none, m) => { st.core with
          manager := m.releaseDirectDelivery s
          listener := Function.update st.core.listener s none }
      | (some payload, m) => { st.core with
          manager := m
          listener := Function.update st.core.listener s (some ⟨socket.transport, .drain⟩) }.hand s
            [payload] := by
  unfold onReady
  set st₁ : RelayServer V := { st with
    directTransportListeners := st.directTransportListeners.delete s } with hst₁
  have hsock₁ : st₁.sockets.get? s = some socket := hsock
  have hidle : st₁.directTransportListeners.has s = false := by
    rw [hst₁, JsMap.has, JsMap.get?_delete_self]
    rfl
  obtain ⟨harmed, harm⟩ := core_armDirectDelivery hsock₁ hwritable hidle
  dsimp only
  rw [hsock₁]
  dsimp only
  rw [if_neg (by simp [hwritable])]
  generalize st₁.armDirectDelivery s = armed at harmed harm
  obtain ⟨ok, st₂⟩ := armed
  dsimp only at harmed harm
  subst harmed
  dsimp only
  have hcore₂ : st₂.core = { st.core with
      listener := Function.update st.core.listener s (some ⟨socket.transport, .drain⟩) } := by
    rw [harm, core_setListener, hst₁, core_deleteListener]
    simp only [Function.update_idem]
  have hm₂ : st₂.channelManager = st.channelManager := congrArg Core.manager hcore₂
  have hsock₂ : st₂.sockets.get? s = some socket := by rw [harm]; exact hsock₁
  rw [hm₂]
  generalize st.channelManager.advanceDirectDelivery s = out
  obtain ⟨payload, m⟩ := out
  cases payload with
  | none =>
    dsimp only
    rw [core_releaseDirectDelivery, core_setManager, hcore₂]
    simp only [Function.update_idem]
  | some payload =>
    dsimp only
    rw [@core_emitVolatile V { st₂ with channelManager := m } s socket hsock₂ hwritable,
      core_setManager, hcore₂]
    rfl

/-- A ready listener promotes the next message, or ends the reservation. -/
theorem turn_onReady {s : SocketId} {socket : Socket} (hsock : st.sockets.get? s = some socket)
    (hlistener : st.core.listener s = some ⟨socket.transport, .ready⟩) {st₁ : RelayServer V}
    (hcore : st₁.core = st.core) {socket₁ : Socket} (hsock₁ : st₁.sockets.get? s = some socket₁)
    (htransport : socket₁.transport = socket.transport) :
    Turn cfg st input (st₁.onReady input.now s).core := by
  by_cases hwritable : socket₁.writable = true
  · rw [core_onReady _ hsock₁ hwritable, hcore, htransport,
      show st₁.channelManager = st.channelManager from congrArg Core.manager hcore]
    have htransport' : st.core.transport s = some socket.transport := by simp [core, hsock]
    have hpromoted := @Turn.promoted V _ cfg st input s socket.transport
    have hreleased := @Turn.released V _ cfg st input s socket.transport htransport' hlistener
    generalize st.channelManager.advanceDirectDelivery s = out at *
    obtain ⟨payload, m⟩ := out
    cases payload with
    | none => exact hreleased rfl
    | some payload => exact hpromoted payload htransport' hlistener rfl
  · -- the listener waits for the next ready event, as before
    unfold onReady
    dsimp only
    rw [hsock₁]
    dsimp only
    rw [if_pos (by simpa using hwritable), waitForDirectReady, core_setListener,
      core_deleteListener, hcore, htransport]
    simp only [Function.update_idem]
    rw [← hlistener, Function.update_eq_self]
    exact .idle

/-- A connection opens a session, or is refused. -/
theorem turn_onConnection {s : SocketId} (hnew : st.sessions.get? s = none) (clientIp : String)
    (clientsCount : ℕ) :
    Turn cfg st input (st.onConnection cfg input.now s clientIp clientsCount).core := by
  unfold onConnection
  dsimp only
  split
  · exact .idle
  split
  · exact .idle
  have hcore : ∀ (limits : JsMap String RateLimitEntry) (active : JsMap String ℕ),
      ({ st with
        rateLimits := limits, activeSocketsByIp := active
        sockets := st.sockets.set s ⟨[ownRoom s], st.transports, false⟩
        sessions := st.sessions.set s ⟨clientIp, none, false, none⟩
        transports := st.transports + 1 } : RelayServer V).core = { st.core with
        transport := Function.update st.core.transport s (some st.transports)
        session := Function.update st.core.session s (some ⟨clientIp, none, false, none⟩) } := by
    intro limits active
    simp only [core, handed, Core.mk.injEq, and_true, true_and]
    constructor
    · funext s'
      rw [JsMap.get?_set, Function.update_apply]
      split <;> rfl
    · funext s'
      rw [JsMap.get?_set, Function.update_apply]
  exact hcore _ _ ▸ .opened s clientIp hnew

theorem turn_onPing (s : SocketId) (session : Session V) (ack : Bool) :
    Turn cfg st input (st.onPing input.now s session ack).core := by
  unfold onPing
  dsimp only
  split
  · rw [core_respond _ _ _ rfl]
    exact .idle
  · rw [core_respond _ _ _ rfl]
    exact .idle

theorem turn_drain (s : SocketId) : Turn cfg st input (st.fire input.now s .drain).core := by
  unfold fire
  split
  · exact .idle
  next socket hsock =>
    split
    next hlistener =>
      dsimp only
      rw [core_onDrain]
      exact .drained s socket.transport (by simp [core, hsock]) hlistener
    next => exact .idle

/-- The transport becomes ready, and a packet of Engine.IO may take it at once. -/
theorem turn_ready (s : SocketId) (consumed : Bool) :
    Turn cfg st input ((st.modifySocket s fun socket =>
      { socket with writable := !consumed }).fire input.now s .ready).core := by
  set st₁ := st.modifySocket s fun socket => { socket with writable := !consumed } with hst₁
  have hcore₁ : st₁.core = st.core := core_modifySocket st s fun _ => rfl
  unfold fire
  split
  · exact hcore₁ ▸ .idle
  next socket₁ hsock₁ =>
    have htransport : (st.sockets.get? s).map (·.transport) = some socket₁.transport := by
      have hsame := congrFun (congrArg Core.transport hcore₁) s
      change (st₁.sockets.get? s).map _ = (st.sockets.get? s).map _ at hsame
      rw [← hsame, hsock₁]
      rfl
    obtain ⟨socket, hsock, htransport⟩ := Option.map_eq_some_iff.1 htransport
    split
    next hlistener =>
      have hlistener : st.core.listener s = some ⟨socket.transport, .ready⟩ := by
        rw [htransport, ← hcore₁]
        exact hlistener
      exact turn_onReady cfg hsock hlistener hcore₁ hsock₁ htransport.symm
    next => exact hcore₁ ▸ .idle

theorem turn_upgrade {s : SocketId} {writable : Bool} (hevent : input.event = .upgrade s writable) :
    Turn cfg st input (st.upgrade s writable).core := by
  unfold upgrade modifySocket
  cases hsock : st.sockets.get? s with
  | none => exact .idle
  | some socket =>
    have hcore : ({ st with
        sockets := st.sockets.set s
          { socket with transport := st.transports, writable := writable }
        transports := st.transports + 1 } : RelayServer V).core = { st.core with
        transport := Function.update st.core.transport s (some st.transports) } := by
      simp only [core, handed, Core.mk.injEq, and_true, true_and]
      funext s'
      rw [JsMap.get?_set, Function.update_apply]
      split <;> rfl
    exact hcore ▸ .upgraded s writable hevent (by simp [hsock])

/-- Every event changes the core by a turn. -/
theorem turn_of_step (st : RelayServer V) (input : Input V) :
    Turn cfg st input (step cfg st input).core := by
  have hdispatch := @dispatched V (fun k => Turn cfg st input k.core) st .idle
  unfold step
  dsimp only
  split
  next s clientIp clientsCount hevent =>
    split
    · exact .idle
    next hnew => exact turn_onConnection cfg (by simpa [JsMap.has] using hnew) clientIp clientsCount
  next s payload ack resolves hevent =>
    exact hdispatch s _ fun session hconn hses =>
      turn_onJoinChannel cfg hconn hses payload ack resolves
  next s resolves hevent =>
    split
    · exact .idle
    next session hses =>
    split
    · exact .idle
    next pending hjoin => exact turn_onResume cfg hevent hses hjoin
  next s payload ack bufferedAt hevent =>
    have hreading : input.bufferedAt = bufferedAt := by rw [Input.bufferedAt, hevent]
    rw [← hreading] at hevent ⊢
    exact hdispatch s _ fun session hconn hses => turn_onMessage cfg hconn hses hevent
  next s requested ack hevent =>
    exact hdispatch s _ fun session hconn hses => turn_onLeaveChannel cfg hconn hses hevent
  next s requested ack hevent =>
    exact hdispatch s _ fun session hconn hses => turn_onCloseChannel cfg hconn hses hevent
  next s ack hevent => exact hdispatch s _ fun session _ _ => turn_onPing cfg s session ack
  next s hevent =>
    rw [core_disconnect]
    exact .dropped s hevent
  next s hevent => exact turn_drain cfg s
  next s consumed hevent => exact turn_ready cfg s consumed
  next s hevent =>
    have hcore : (st.modifySocket s fun socket => { socket with writable := false }).core =
        st.core := core_modifySocket st s fun _ => rfl
    exact hcore ▸ .idle
  next s writable hevent => exact turn_upgrade cfg hevent
  next hevent => exact .cleaned hevent
  next hevent => exact .idle

end RelayServer

end QrlBackend
