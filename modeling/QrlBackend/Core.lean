import QrlBackend.RelayServer

/-!
# The core of the relay

The properties of the relay speak of its channel manager, of which sockets are connected
and on which transport, of what the handlers of each socket share, of the armed transport
listeners, and of the messages accepted and handed over. `Core` is that part of the state,
with maps as functions. Rooms, rate limits and presence packets do not touch it, and each
operation of the relay has a lemma that says what it does to the core.
-/

set_option autoImplicit false

namespace QrlBackend

variable {V : Type}

/-- The part of the relay that decides who gets which message. -/
structure Core (V : Type) where
  manager : ChannelManager V
  /-- The transport of each connected socket. -/
  transport : SocketId → Option TransportRef
  session : SocketId → Option (Session V)
  listener : SocketId → Option Listener
  payloads : ℕ
  accepted : List (Acceptance V)
  /-- The messages handed over, each with the socket that got it. -/
  handed : List (SocketId × RelayPayload V)

namespace Core

/-- A connected socket goes away : its reservation, its listener and its membership of the
current channel go with it. -/
def drop (now : ℕ) (k : Core V) (s : SocketId) : Core V :=
  if (k.transport s).isSome then
    let m := k.manager.releaseDirectDelivery s
    { k with
      manager := match (k.session s).bind (·.currentChannelId) with
        | none => m
        | some channelId => (m.leave now s channelId).2
      transport := Function.update k.transport s none
      session := Function.update k.session s
        ((k.session s).map fun session => { session with releasedSocketCounter := true })
      listener := Function.update k.listener s none }
  else k

/-- A target that could not take a message goes away, unless it has one in flight. -/
def relieve (now : ℕ) (k : Core V) (backpressuredSocketId : Option SocketId) : Core V :=
  match backpressuredSocketId with
  | none => k
  | some target => if k.manager.hasDirectDelivery target then k else k.drop now target

/-- Put a session in place. -/
def setSession (k : Core V) (s : SocketId) (session : Session V) : Core V :=
  { k with session := Function.update k.session s (some session) }

/-- Hand messages to a socket. -/
def hand (k : Core V) (s : SocketId) (messages : List (RelayPayload V)) : Core V :=
  { k with handed := k.handed ++ messages.map (s, ·) }

/-- Only the socket that goes away loses its transport. -/
theorem transport_drop (now : ℕ) (k : Core V) (s s' : SocketId) :
    (k.drop now s).transport s' = if s' = s then none else k.transport s' := by
  unfold drop
  split
  · exact Function.update_apply _ _ _ _
  next hgone =>
    split
    next hs => rw [hs, Option.not_isSome_iff_eq_none.1 hgone]
    next => rfl

/-- Who is still connected afterwards is another socket, and was connected before. -/
theorem connected_drop {now : ℕ} {k : Core V} {s s' : SocketId}
    (h : ((k.drop now s).transport s').isSome = true) :
    s' ≠ s ∧ (k.transport s').isSome = true := by
  rw [transport_drop] at h
  split at h
  · cases h
  next hs => exact ⟨hs, h⟩

/-- A disconnection accepts nothing and hands nothing over. -/
theorem log_drop (now : ℕ) (k : Core V) (s : SocketId) :
    (k.drop now s).accepted = k.accepted ∧ (k.drop now s).handed = k.handed := by
  unfold drop
  split <;> exact ⟨rfl, rfl⟩

/-- Nothing is accepted or handed over by a disconnect. -/
theorem log_relieve (now : ℕ) (k : Core V) (target : Option SocketId) :
    (k.relieve now target).accepted = k.accepted ∧ (k.relieve now target).handed = k.handed := by
  unfold relieve
  split
  · exact ⟨rfl, rfl⟩
  · split
    · exact ⟨rfl, rfl⟩
    · exact log_drop now k _

end Core

namespace RelayServer

/-- The messages handed over so far. -/
def handed (st : RelayServer V) : List (SocketId × RelayPayload V) :=
  st.sent.flatMap fun e => e.2.messages.map (e.1, ·)

/-- The core of the relay's state. -/
def core (st : RelayServer V) : Core V where
  manager := st.channelManager
  transport := fun s => (st.sockets.get? s).map (·.transport)
  session := fun s => st.sessions.get? s
  listener := fun s => st.directTransportListeners.get? s
  payloads := st.payloads
  accepted := st.accepted
  handed := st.handed

/-- A socket has a transport while it is connected. -/
theorem core_connected {st : RelayServer V} {s : SocketId} :
    (st.core.transport s).isSome = true ↔ (st.sockets.get? s).isSome = true := by
  simp [core]

/-! ## The core under the operations of the relay -/

theorem core_setManager (st : RelayServer V) (m : ChannelManager V) :
    ({ st with channelManager := m } : RelayServer V).core = { st.core with manager := m } :=
  rfl

theorem core_setSocket (st : RelayServer V) {s : SocketId} {socket socket' : Socket}
    (h : st.sockets.get? s = some socket) (htransport : socket'.transport = socket.transport) :
    ({ st with sockets := st.sockets.set s socket' } : RelayServer V).core = st.core := by
  simp only [core, handed, Core.mk.injEq, and_true, true_and]
  funext s'
  rw [JsMap.get?_set]
  split
  next hs =>
    subst hs
    rw [h, Option.map_some, Option.map_some, htransport]
  next => rfl

/-- A packet hands over its messages if its socket is connected. -/
theorem core_emit (st : RelayServer V) (s : SocketId) (packet : Packet V) :
    (st.emit s packet).core =
      if (st.core.transport s).isSome then st.core.hand s packet.messages else st.core := by
  unfold emit
  cases h : st.sockets.get? s with
  | none => simp [core, h]
  | some socket =>
    have hsock : ({ st with
        sockets := st.sockets.set s { socket with writable := false } } : RelayServer V).core =
        st.core := core_setSocket st h rfl
    have htransport : (st.core.transport s).isSome = true := by simp [core, h]
    rw [if_pos htransport, ← hsock]
    simp [core, handed, Core.hand]

theorem core_emit_of_nil (st : RelayServer V) (s : SocketId) {packet : Packet V}
    (h : packet.messages = []) : (st.emit s packet).core = st.core := by
  rw [core_emit, h]
  split <;> simp [Core.hand]

/-- Nothing that is broadcast carries messages. -/
@[simp] theorem core_broadcast (st : RelayServer V) (s : SocketId) (room : String)
    (event : PresenceEvent) (t : ClientType) :
    (st.broadcast s room (.participantsChanged event t)).core = st.core := by
  unfold broadcast
  generalize ((st.sockets.entries.filter _).map Prod.fst) = receivers
  induction receivers generalizing st with
  | nil => rfl
  | cons receiver receivers ih =>
    rw [List.foldl_cons, ih, core_emit_of_nil st receiver rfl]

@[simp] theorem core_notifyLeft (st : RelayServer V) (s : SocketId) (channelId : String)
    (event : PresenceEvent) (participant : Option Participant) :
    (st.notifyLeft s channelId event participant).core = st.core := by
  unfold notifyLeft
  split
  · rfl
  · rw [core_broadcast]

/-- An ack without messages leaves the core as it is. -/
theorem core_respond (st : RelayServer V) (s : SocketId) (ack : Bool) {response : Response V}
    (h : (Packet.ack response).messages = []) : (st.respond s ack response).core = st.core := by
  unfold respond
  split
  · exact core_emit_of_nil st s h
  · rfl

/-- Rooms are not part of the core. -/
@[simp] theorem core_joinRoom (st : RelayServer V) (s : SocketId) (room : String)
    (resolves : Bool) : (st.joinRoom s room resolves).core = st.core := by
  unfold joinRoom
  split
  · rfl
  next socket h =>
    split
    · exact core_setSocket st h rfl
    · rfl

@[simp] theorem core_leaveRoom (st : RelayServer V) (s : SocketId) (room : String)
    (resolves : Bool) : (st.leaveRoom s room resolves).core = st.core := by
  unfold leaveRoom
  split
  · rfl
  next socket h =>
    split
    · exact core_setSocket st h rfl
    · rfl

theorem update_map_of_none {st : RelayServer V} {s : SocketId} (h : st.sessions.get? s = none)
    (f : Session V → Session V) :
    Function.update st.core.session s ((st.core.session s).map f) = st.core.session := by
  have hnone : st.core.session s = none := h
  rw [hnone, Option.map_none, ← hnone, Function.update_eq_self]

/-- Of a session that is changed, the core changes that session. -/
theorem core_modifySession (st : RelayServer V) (s : SocketId) (f : Session V → Session V) :
    (st.modifySession s f).core =
      { st.core with
        session := Function.update st.core.session s ((st.core.session s).map f) } := by
  unfold modifySession
  cases h : st.sessions.get? s with
  | none => rw [update_map_of_none h]
  | some session =>
    simp only [core, handed, Core.mk.injEq, and_true, true_and]
    funext s'
    rw [JsMap.get?_set, Function.update_apply, h]
    rfl

/-- Assigning to the closure variables of a socket that has them. -/
theorem core_modifySession_of_some (st : RelayServer V) {s : SocketId} (f : Session V → Session V)
    {session : Session V} (h : st.core.session s = some session) :
    (st.modifySession s f).core = st.core.setSession s (f session) := by
  rw [core_modifySession, h]
  rfl

/-- The limiters are not part of the core. -/
@[simp] theorem core_checkRateLimit (now : ℕ) (st : RelayServer V) (ip : String) (bucket : Bucket)
    (limit : ℕ) : (st.checkRateLimit now ip bucket limit).2.core = st.core :=
  rfl

/-- Of a socket, the core has only its transport. -/
theorem core_modifySocket (st : RelayServer V) (s : SocketId) {f : Socket → Socket}
    (hf : ∀ socket, (f socket).transport = socket.transport) :
    (st.modifySocket s f).core = st.core := by
  unfold modifySocket
  split
  · rfl
  next socket h => exact core_setSocket st h (hf socket)

theorem core_setListener (st : RelayServer V) (s : SocketId) (listener : Listener) :
    ({ st with
      directTransportListeners := st.directTransportListeners.set s listener } :
        RelayServer V).core =
      { st.core with listener := Function.update st.core.listener s (some listener) } := by
  simp only [core, handed, Core.mk.injEq, and_true, true_and]
  funext s'
  rw [JsMap.get?_set, Function.update_apply]

theorem core_deleteListener (st : RelayServer V) (s : SocketId) :
    ({ st with
      directTransportListeners := st.directTransportListeners.delete s } : RelayServer V).core =
      { st.core with listener := Function.update st.core.listener s none } := by
  simp only [core, handed, Core.mk.injEq, and_true, true_and]
  funext s'
  rw [JsMap.get?_delete, Function.update_apply]

/-- A released reservation takes its listener with it. -/
theorem core_releaseDirectDelivery (st : RelayServer V) (s : SocketId) :
    (st.releaseDirectDelivery s).core =
      { st.core with
        manager := st.channelManager.releaseDirectDelivery s
        listener := Function.update st.core.listener s none } := by
  have h := core_deleteListener st s
  simp only [releaseDirectDelivery, core, handed, Core.mk.injEq] at h ⊢
  exact ⟨trivial, trivial, trivial, h.2.2.2.1, trivial, trivial, trivial⟩

theorem core_releaseSocketCounter (st : RelayServer V) (s : SocketId) :
    (st.releaseSocketCounter s).core =
      { st.core with
        session := Function.update st.core.session s ((st.core.session s).map fun session =>
          { session with releasedSocketCounter := true }) } := by
  unfold releaseSocketCounter
  cases h : st.sessions.get? s with
  | none => rw [update_map_of_none h]
  | some session =>
    have hsome : st.core.session s = some session := h
    dsimp only
    split
    next hreleased =>
      have hsame : (⟨session.clientIp, session.currentChannelId, true, session.joining⟩ :
          Session V) = session := by
        rw [← hreleased]
      rw [hsome, Option.map_some, hsame, ← hsome, Function.update_eq_self]
    next => exact core_modifySession st s _

/-- A join that ends without messages frees the session. -/
theorem core_endJoin (st : RelayServer V) (s : SocketId) (request : JoinRequest)
    {response : Response V} (h : (Packet.ack response).messages = []) {session : Session V}
    (hses : st.core.session s = some session) :
    (st.endJoin s request response).core =
      st.core.setSession s { session with joining := none } := by
  rw [endJoin, core_respond _ _ _ h, core_modifySession_of_some _ _ hses]

/-- A suspended join is kept in its session. -/
theorem core_suspend (st : RelayServer V) (s : SocketId) (request : JoinRequest) (stage : Stage V)
    {session : Session V} (hses : st.core.session s = some session) :
    (st.suspend s request stage).core =
      st.core.setSession s { session with joining := some ⟨request, stage⟩ } :=
  core_modifySession_of_some _ _ hses

/-- A join that ends with success hands over what it took, if somebody hears the ack. -/
theorem core_finishJoin (st : RelayServer V) (s : SocketId) (request : JoinRequest)
    (bufferedMessages : List (RelayPayload V)) (key : Option String) (roster : List ClientType)
    {session : Session V} (hses : st.core.session s = some session) :
    (st.finishJoin s request bufferedMessages key roster).core =
      (st.core.setSession s { session with
        currentChannelId := some request.channelId, joining := none }).hand s
          (if request.ack && (st.sockets.get? s).isSome then bufferedMessages else []) := by
  unfold finishJoin endJoin
  set st₁ := (st.modifySession s fun session =>
    { session with currentChannelId := some request.channelId }).broadcast s request.channelId
      (.participantsChanged .join request.clientType) with hst₁
  have h₁ : st₁.core = st.core.setSession s
      { session with currentChannelId := some request.channelId } := by
    rw [hst₁, core_broadcast, core_modifySession_of_some _ _ hses]
  have h₂ : (st₁.modifySession s fun session => { session with joining := none }).core =
      st.core.setSession s { session with
        currentChannelId := some request.channelId, joining := none } := by
    rw [core_modifySession, h₁]
    simp [Core.setSession]
  unfold respond
  cases request.ack with
  | false => simpa [Core.hand] using h₂
  | true =>
    rw [if_pos rfl, core_emit, h₂]
    have htransport : ((st.core.setSession s { session with
        currentChannelId := some request.channelId, joining := none }).transport s).isSome =
        (st.sockets.get? s).isSome := Bool.eq_iff_iff.2 core_connected
    rw [htransport]
    cases (st.sockets.get? s).isSome <;> simp [Core.hand, Packet.messages]

/-- The relay's disconnect is `drop`. -/
theorem core_disconnect (now : ℕ) (st : RelayServer V) (s : SocketId) :
    (st.disconnect now s).core = st.core.drop now s := by
  unfold disconnect Core.drop
  cases h : st.sockets.get? s with
  | none =>
    have hnone : st.core.transport s = none := by simp [core, h]
    rw [hnone]
    rfl
  | some socket =>
    have hsome : (st.core.transport s).isSome = true := by simp [core, h]
    rw [if_pos hsome]
    set st₁ : RelayServer V := { st with sockets := st.sockets.delete s } with hst₁
    have hcore₁ : st₁.core =
        { st.core with transport := Function.update st.core.transport s none } := by
      simp only [hst₁, core, handed, Core.mk.injEq, and_true, true_and]
      funext s'
      rw [JsMap.get?_delete, Function.update_apply]
      split <;> rfl
    have hcore₂ : ((st₁.releaseSocketCounter s).releaseDirectDelivery s).core =
        { st.core with
          manager := st.channelManager.releaseDirectDelivery s
          transport := Function.update st.core.transport s none
          session := Function.update st.core.session s ((st.core.session s).map fun session =>
            { session with releasedSocketCounter := true })
          listener := Function.update st.core.listener s none } := by
      have hm : (st₁.releaseSocketCounter s).channelManager = st.channelManager :=
        congrArg Core.manager (core_releaseSocketCounter st₁ s)
      rw [core_releaseDirectDelivery, core_releaseSocketCounter, hcore₁, hm]
    unfold onDisconnect
    dsimp only
    generalize (st₁.releaseSocketCounter s).releaseDirectDelivery s = st₂ at hcore₂ ⊢
    have hses : (st₂.sessions.get? s).bind (·.currentChannelId) =
        (st.core.session s).bind (·.currentChannelId) := by
      have := congrFun (congrArg Core.session hcore₂) s
      change st₂.sessions.get? s = _ at this
      rw [this]
      simp only [Function.update_self]
      cases st.core.session s <;> rfl
    have hm₂ : st₂.channelManager = st.channelManager.releaseDirectDelivery s :=
      congrArg Core.manager hcore₂
    rw [hses]
    cases (st.core.session s).bind (·.currentChannelId) with
    | none => exact hcore₂
    | some channelId =>
      dsimp only
      rw [core_notifyLeft, core_setManager, hcore₂, hm₂]
      rfl

end RelayServer

end QrlBackend
