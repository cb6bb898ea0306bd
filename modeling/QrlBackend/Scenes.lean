import QrlBackend.Reservations

/-!
# Rooms and presence

What the clients of a channel see of each other comes from its room : who is in it, and
which `participants_changed` packets and join acks each socket was sent. `Lobby` is that
part of the relay, and `Scene` puts it beside the channel manager and the sessions, so that
a change of membership and what is shown of it can be compared. Message packets and the
other acks do not count (`Packet.isPresence`).
-/

set_option autoImplicit false

namespace QrlBackend

variable {V : Type}

/-- The packets a client learns from who else is in its channel. -/
def Packet.isPresence : Packet V → Bool
  | .participantsChanged _ _ => true
  | .ack (.joined _ _ _ _) => true
  | _ => false

/-- Who is in which room, and what each socket was sent about presence. -/
structure Lobby (V : Type) where
  /-- The rooms of each connected socket. -/
  rooms : SocketId → Option (List String)
  presence : SocketId → List (Packet V)

namespace Lobby

/-- Whether a connected socket is in a room. -/
def seats (l : Lobby V) (room : String) (s : SocketId) : Bool :=
  (l.rooms s).any (·.contains room)

/-- A socket joins a room, if it is connected. -/
def enter (l : Lobby V) (s : SocketId) (room : String) : Lobby V :=
  { l with rooms := Function.update l.rooms s ((l.rooms s).map (·.insert room)) }

/-- A socket leaves a room. -/
def exit (l : Lobby V) (s : SocketId) (room : String) : Lobby V :=
  { l with rooms := Function.update l.rooms s ((l.rooms s).map (·.erase room)) }

/-- A socket goes away, and with it its rooms. -/
def vanish (l : Lobby V) (s : SocketId) : Lobby V :=
  { l with rooms := Function.update l.rooms s none }

/-- A packet to a socket, if it is connected. -/
def tell (l : Lobby V) (s : SocketId) (packet : Packet V) : Lobby V :=
  { l with presence := fun x =>
      if x = s ∧ (l.rooms s).isSome = true then l.presence x ++ [packet] else l.presence x }

/-- A packet to the others in a room. -/
def announce (l : Lobby V) (s : SocketId) (room : String) (packet : Packet V) : Lobby V :=
  { l with presence := fun x =>
      if x ≠ s ∧ l.seats room x = true then l.presence x ++ [packet] else l.presence x }

/-- What the room is told of a participant that left, if it was one. -/
def announceLeft (l : Lobby V) (s : SocketId) (room : String) (event : PresenceEvent)
    (participant : Option Participant) : Lobby V :=
  match participant with
  | none => l
  | some participant => l.announce s room (.participantsChanged event participant.clientType)

/-- The end of a join : the others in the room are told, and the socket gets its ack. -/
def finish (l : Lobby V) (s : SocketId) (request : JoinRequest)
    (bufferedMessages : List (RelayPayload V)) (channelPublicKey : Option String)
    (participants : List ClientType) : Lobby V :=
  let l := l.announce s request.channelId (.participantsChanged .join request.clientType)
  if request.ack then l.tell s (.ack (.joined bufferedMessages channelPublicKey participants false))
  else l

/-- Packets change no rooms. -/
@[simp] theorem rooms_tell (l : Lobby V) (s : SocketId) (packet : Packet V) :
    (l.tell s packet).rooms = l.rooms :=
  rfl

@[simp] theorem rooms_announce (l : Lobby V) (s : SocketId) (room : String) (packet : Packet V) :
    (l.announce s room packet).rooms = l.rooms :=
  rfl

@[simp] theorem rooms_announceLeft (l : Lobby V) (s : SocketId) (room : String)
    (event : PresenceEvent) (participant : Option Participant) :
    (l.announceLeft s room event participant).rooms = l.rooms := by
  cases participant <;> rfl

@[simp] theorem rooms_finish (l : Lobby V) (s : SocketId) (request : JoinRequest)
    (bufferedMessages : List (RelayPayload V)) (channelPublicKey : Option String)
    (participants : List ClientType) :
    (l.finish s request bufferedMessages channelPublicKey participants).rooms = l.rooms := by
  unfold finish
  dsimp only
  split <;> rfl

end Lobby

namespace RelayServer

/-- The lobby of the relay's state. -/
def lobby (st : RelayServer V) : Lobby V where
  rooms := fun s => (st.sockets.get? s).map (·.rooms)
  presence := fun s => (st.sent.filter fun e => e.1 = s && e.2.isPresence).map Prod.snd

/-! ## The lobby under the operations of the relay -/

/-- Rooms and packets are all that the lobby has. -/
theorem lobby_congr {st st' : RelayServer V}
    (hrooms : ∀ s, (st'.sockets.get? s).map (·.rooms) = (st.sockets.get? s).map (·.rooms))
    (hsent : st'.sent = st.sent) : st'.lobby = st.lobby := by
  unfold lobby
  rw [hsent]
  congr 1
  funext s
  exact hrooms s

theorem lobby_setSocket (st : RelayServer V) {s : SocketId} {socket socket' : Socket}
    (h : st.sockets.get? s = some socket) (hrooms : socket'.rooms = socket.rooms) :
    ({ st with sockets := st.sockets.set s socket' } : RelayServer V).lobby = st.lobby := by
  refine lobby_congr (fun s' => ?_) rfl
  dsimp only
  rw [JsMap.get?_set]
  split
  next hs =>
    subst hs
    rw [h, Option.map_some, Option.map_some, hrooms]
  next => rfl

/-- What one more packet adds to the presence packets of each socket. -/
theorem presence_snoc (st : RelayServer V) (s : SocketId) (packet : Packet V) (x : SocketId) :
    ((st.sent ++ [(s, packet)]).filter fun e => e.1 = x && e.2.isPresence).map Prod.snd =
      if x = s ∧ packet.isPresence = true then st.lobby.presence x ++ [packet]
      else st.lobby.presence x := by
  rw [List.filter_append, List.map_append, List.filter_singleton]
  by_cases hx : x = s
  · subst hx
    cases packet.isPresence <;> simp [lobby]
  · simp [lobby, hx, Ne.symm hx]

/-- A packet about presence is told. -/
theorem lobby_emit (st : RelayServer V) (s : SocketId) (packet : Packet V) :
    (st.emit s packet).lobby = if packet.isPresence then st.lobby.tell s packet else st.lobby := by
  unfold emit
  cases h : st.sockets.get? s with
  | none =>
    have hgone : (st.lobby.rooms s).isSome = false := by simp [lobby, h]
    dsimp only
    split
    · simp [Lobby.tell, hgone]
    · rfl
  | some socket =>
    have hconn : (st.lobby.rooms s).isSome = true := by simp [lobby, h]
    have hrooms := congrArg Lobby.rooms
      (@lobby_setSocket V st s socket { socket with writable := false } h rfl)
    simp only [lobby] at hrooms
    have hpresence := presence_snoc st s packet
    cases hp : packet.isPresence with
    | false =>
      simp only [lobby, hrooms, hpresence, hp, Bool.false_eq_true, and_false, if_false]
    | true =>
      simp only [lobby, hrooms, hpresence, hp, Lobby.tell, if_true, Lobby.mk.injEq, true_and]
      simp [h]

/-- Other packets leave the lobby as it is. -/
theorem lobby_emit_of_not (st : RelayServer V) (s : SocketId) {packet : Packet V}
    (h : packet.isPresence = false) : (st.emit s packet).lobby = st.lobby := by
  rw [lobby_emit, h, if_neg Bool.false_ne_true]

theorem lobby_emitVolatile (st : RelayServer V) (s : SocketId) {packet : Packet V}
    (h : packet.isPresence = false) : (st.emitVolatile s packet).lobby = st.lobby := by
  unfold emitVolatile
  split
  · exact lobby_emit_of_not st s h
  · rfl

/-- An ack that shows no roster leaves the lobby as it is. -/
theorem lobby_respond (st : RelayServer V) (s : SocketId) (ack : Bool) {response : Response V}
    (h : (Packet.ack response).isPresence = false) :
    (st.respond s ack response).lobby = st.lobby := by
  unfold respond
  split
  · exact lobby_emit_of_not st s h
  · rfl

/-- The ack of a join is told, if one is wanted. -/
theorem lobby_respond_joined (st : RelayServer V) (s : SocketId) (ack : Bool)
    (bufferedMessages : List (RelayPayload V)) (key : Option String) (roster : List ClientType)
    (terminated : Bool) :
    (st.respond s ack (.joined bufferedMessages key roster terminated)).lobby =
      if ack then st.lobby.tell s (.ack (.joined bufferedMessages key roster terminated))
      else st.lobby := by
  unfold respond
  split
  · rw [lobby_emit]
    rfl
  · rfl

/-- Packets to different connected sockets, one after the other. -/
theorem lobby_emitAll (packet : Packet V) (hpacket : packet.isPresence = true)
    (receivers : List SocketId) : ∀ st : RelayServer V, receivers.Nodup →
      (∀ x ∈ receivers, (st.lobby.rooms x).isSome = true) →
      (receivers.foldl (fun st receiver => st.emit receiver packet) st).lobby =
        { st.lobby with presence := fun x =>
            if x ∈ receivers then st.lobby.presence x ++ [packet] else st.lobby.presence x } := by
  induction receivers with
  | nil =>
    intro st _ _
    simp
  | cons receiver receivers ih =>
    intro st hnodup hconn
    obtain ⟨hnotmem, hnodup⟩ := List.nodup_cons.1 hnodup
    have hemit : (st.emit receiver packet).lobby = st.lobby.tell receiver packet := by
      rw [lobby_emit, if_pos hpacket]
    rw [List.foldl_cons, ih _ hnodup fun x hx => by
      rw [hemit]
      exact hconn x (List.mem_cons_of_mem _ hx), hemit]
    simp only [Lobby.tell, Lobby.mk.injEq, true_and]
    funext x
    have hreceiver := hconn receiver List.mem_cons_self
    by_cases hx : x = receiver
    · subst hx
      simp [hnotmem, hreceiver]
    · simp [hx]

/-- A broadcast about presence is announced. -/
theorem lobby_broadcast (st : RelayServer V) (s : SocketId) (room : String) (packet : Packet V)
    (hpacket : packet.isPresence = true) :
    (st.broadcast s room packet).lobby = st.lobby.announce s room packet := by
  have hmem : ∀ x, x ∈ ((st.sockets.entries.filter fun e =>
      e.1 ≠ s && e.2.rooms.contains room).map Prod.fst) ↔
        x ≠ s ∧ st.lobby.seats room x = true := by
    intro x
    simp only [List.mem_map, List.mem_filter, Prod.exists, exists_and_right, exists_eq_right,
      Bool.and_eq_true, decide_eq_true_eq, JsMap.mem_entries, Lobby.seats, lobby, Option.any_map,
      Option.any_eq_true]
    constructor
    · rintro ⟨socket, hsock, hne, hroom⟩
      exact ⟨hne, socket, hsock, hroom⟩
    · rintro ⟨hne, socket, hsock, hroom⟩
      exact ⟨socket, hsock, hne, hroom⟩
  have hnodup : ((st.sockets.entries.filter fun e =>
      e.1 ≠ s && e.2.rooms.contains room).map Prod.fst).Nodup :=
    (List.filter_sublist.map Prod.fst).nodup st.sockets.nodup
  unfold broadcast
  rw [lobby_emitAll packet hpacket _ st hnodup fun x hx => ?_]
  · simp only [Lobby.announce, Lobby.mk.injEq, true_and]
    funext x
    simp only [hmem]
  · obtain ⟨-, hseat⟩ := (hmem x).1 hx
    simp only [Lobby.seats, Option.any_eq_true] at hseat
    obtain ⟨rooms, hrooms, -⟩ := hseat
    rw [hrooms]
    rfl

/-- The room is told of a participant that left. -/
@[simp] theorem lobby_notifyLeft (st : RelayServer V) (s : SocketId) (channelId : String)
    (event : PresenceEvent) (participant : Option Participant) :
    (st.notifyLeft s channelId event participant).lobby =
      st.lobby.announceLeft s channelId event participant := by
  cases participant with
  | none => rfl
  | some participant => exact lobby_broadcast _ _ _ _ rfl

/-- A `socket.join` that resolves enters the room. -/
theorem lobby_joinRoom (st : RelayServer V) (s : SocketId) (room : String) (resolves : Bool) :
    (st.joinRoom s room resolves).lobby = if resolves then st.lobby.enter s room else st.lobby := by
  unfold joinRoom
  cases h : st.sockets.get? s with
  | none =>
    have hgone : st.lobby.rooms s = none := by simp [lobby, h]
    cases resolves with
    | false => rfl
    | true =>
      simp only [if_true, Lobby.enter, hgone, Option.map_none]
      rw [← hgone, Function.update_eq_self]
  | some socket =>
    cases resolves with
    | false => rfl
    | true =>
      simp only [if_true, lobby, Lobby.enter, Lobby.mk.injEq, and_true]
      funext s'
      rw [JsMap.get?_set, Function.update_apply, h]
      split <;> rfl

/-- A `socket.leave` that resolves exits it. -/
theorem lobby_leaveRoom (st : RelayServer V) (s : SocketId) (room : String) (resolves : Bool) :
    (st.leaveRoom s room resolves).lobby = if resolves then st.lobby.exit s room else st.lobby := by
  unfold leaveRoom
  cases h : st.sockets.get? s with
  | none =>
    have hgone : st.lobby.rooms s = none := by simp [lobby, h]
    cases resolves with
    | false => rfl
    | true =>
      simp only [if_true, Lobby.exit, hgone, Option.map_none]
      rw [← hgone, Function.update_eq_self]
  | some socket =>
    cases resolves with
    | false => rfl
    | true =>
      simp only [if_true, lobby, Lobby.exit, Lobby.mk.injEq, and_true]
      funext s'
      rw [JsMap.get?_set, Function.update_apply, h]
      split <;> rfl

/-- Sessions are not part of the lobby. -/
@[simp] theorem lobby_modifySession (st : RelayServer V) (s : SocketId)
    (f : Session V → Session V) : (st.modifySession s f).lobby = st.lobby := by
  unfold modifySession
  split <;> rfl

/-- Of a socket, the lobby has only its rooms. -/
theorem lobby_modifySocket (st : RelayServer V) (s : SocketId) {f : Socket → Socket}
    (hf : ∀ socket, (f socket).rooms = socket.rooms) : (st.modifySocket s f).lobby = st.lobby := by
  unfold modifySocket
  split
  · rfl
  next socket h => exact lobby_setSocket st h (hf socket)

@[simp] theorem lobby_releaseSocketCounter (st : RelayServer V) (s : SocketId) :
    (st.releaseSocketCounter s).lobby = st.lobby := by
  unfold releaseSocketCounter
  split
  · rfl
  · dsimp only
    split
    · rfl
    · exact lobby_modifySession st s _

end RelayServer

/-! ## Scenes -/

/-- Who takes part in what, what the handlers of each socket share, and what the sockets were
shown. -/
structure Scene (V : Type) where
  manager : ChannelManager V
  session : SocketId → Option (Session V)
  lobby : Lobby V

namespace Scene

/-- Put a session in place. -/
def setSession (k : Scene V) (s : SocketId) (session : Session V) : Scene V :=
  { k with session := Function.update k.session s (some session) }

/-- A connected socket goes away : its membership of the current channel goes with it, and
the room of the channel is told. -/
def drop (now : ℕ) (k : Scene V) (s : SocketId) : Scene V :=
  if (k.lobby.rooms s).isSome then
    let m := k.manager.releaseDirectDelivery s
    let session := Function.update k.session s
      ((k.session s).map fun session => { session with releasedSocketCounter := true })
    match (k.session s).bind (·.currentChannelId) with
    | none => ⟨m, session, k.lobby.vanish s⟩
    | some channelId =>
      ⟨(m.leave now s channelId).2, session,
        (k.lobby.vanish s).announceLeft s channelId .disconnect (m.leave now s channelId).1⟩
  else k

/-- A target that could not take a message goes away, unless it has one in flight. -/
def relieve (now : ℕ) (k : Scene V) (backpressuredSocketId : Option SocketId) : Scene V :=
  match backpressuredSocketId with
  | none => k
  | some target => if k.manager.hasDirectDelivery target then k else k.drop now target

end Scene

namespace RelayServer

/-- The scene of the relay's state. -/
def scene (st : RelayServer V) : Scene V :=
  ⟨st.channelManager, fun s => st.sessions.get? s, st.lobby⟩

/-- The scene has its manager and its sessions in common with the core. -/
theorem scene_eq {st : RelayServer V} {k : Core V} {l : Lobby V} (hcore : st.core = k)
    (hlobby : st.lobby = l) : st.scene = ⟨k.manager, k.session, l⟩ := by
  subst hcore hlobby
  rfl

theorem scene_setManager (st : RelayServer V) (m : ChannelManager V) :
    ({ st with channelManager := m } : RelayServer V).scene = { st.scene with manager := m } :=
  rfl

/-- Of the scene, a room that is joined concerns only the lobby. -/
theorem scene_joinRoom (st : RelayServer V) (s : SocketId) (room : String) (resolves : Bool) :
    (st.joinRoom s room resolves).scene = { st.scene with
      lobby := if resolves then st.lobby.enter s room else st.lobby } :=
  scene_eq (core_joinRoom st s room resolves) (lobby_joinRoom st s room resolves)

theorem scene_leaveRoom (st : RelayServer V) (s : SocketId) (room : String) (resolves : Bool) :
    (st.leaveRoom s room resolves).scene = { st.scene with
      lobby := if resolves then st.lobby.exit s room else st.lobby } :=
  scene_eq (core_leaveRoom st s room resolves) (lobby_leaveRoom st s room resolves)

theorem scene_notifyLeft (st : RelayServer V) (s : SocketId) (channelId : String)
    (event : PresenceEvent) (participant : Option Participant) :
    (st.notifyLeft s channelId event participant).scene = { st.scene with
      lobby := st.lobby.announceLeft s channelId event participant } :=
  scene_eq (core_notifyLeft st s channelId event participant)
    (lobby_notifyLeft st s channelId event participant)

/-- An ack without messages or a roster leaves the scene as it is. -/
theorem scene_respond (st : RelayServer V) (s : SocketId) (ack : Bool) {response : Response V}
    (h : (Packet.ack response).messages = [] ∧ (Packet.ack response).isPresence = false) :
    (st.respond s ack response).scene = st.scene :=
  scene_eq (core_respond st s ack h.1) (lobby_respond st s ack h.2)

theorem scene_modifySession {st : RelayServer V} {s : SocketId} (f : Session V → Session V)
    {session : Session V} (h : st.scene.session s = some session) :
    (st.modifySession s f).scene = st.scene.setSession s (f session) :=
  scene_eq (core_modifySession_of_some st f h) (lobby_modifySession st s f)

/-- A suspended join is kept in its session. -/
theorem scene_suspend {st : RelayServer V} {s : SocketId} (request : JoinRequest)
    (stage : Stage V) {session : Session V} (h : st.scene.session s = some session) :
    (st.suspend s request stage).scene =
      st.scene.setSession s { session with joining := some ⟨request, stage⟩ } :=
  scene_modifySession _ h

/-- A join that fails frees its session, and shows its socket nothing. -/
theorem scene_endJoin {st : RelayServer V} {s : SocketId} (request : JoinRequest)
    {response : Response V} {session : Session V} (h : st.scene.session s = some session)
    (hresponse : (Packet.ack response).messages = [] ∧
      (Packet.ack response).isPresence = false) :
    (st.endJoin s request response).scene =
      st.scene.setSession s { session with joining := none } := by
  rw [endJoin, scene_respond _ _ _ hresponse, scene_modifySession _ h]

/-- The ack of a join to a tombstone. -/
theorem scene_endJoin_terminated {st : RelayServer V} {s : SocketId} (request : JoinRequest)
    {session : Session V} (h : st.scene.session s = some session) :
    (st.endJoin s request (.joined [] none [] true)).scene =
      { st.scene.setSession s { session with joining := none } with
        lobby := if request.ack then st.lobby.tell s (.ack (.joined [] none [] true))
          else st.lobby } := by
  refine scene_eq (core_endJoin st s request rfl h) ?_
  rw [endJoin, lobby_respond_joined, lobby_modifySession]

/-- A join that succeeds is announced, and acked with the roster. -/
theorem scene_finishJoin {st : RelayServer V} {s : SocketId} (request : JoinRequest)
    (bufferedMessages : List (RelayPayload V)) (key : Option String) (roster : List ClientType)
    {session : Session V} (h : st.scene.session s = some session) :
    (st.finishJoin s request bufferedMessages key roster).scene =
      { st.scene.setSession s { session with
          currentChannelId := some request.channelId, joining := none } with
        lobby := st.lobby.finish s request bufferedMessages key roster } := by
  refine scene_eq (core_finishJoin st s request bufferedMessages key roster h) ?_
  unfold finishJoin endJoin
  dsimp only
  rw [lobby_respond_joined, lobby_modifySession, lobby_broadcast _ _ _ _ rfl, lobby_modifySession]
  rfl

/-- The relay's disconnect is `drop`. -/
theorem scene_disconnect (now : ℕ) (st : RelayServer V) (s : SocketId) :
    (st.disconnect now s).scene = st.scene.drop now s := by
  have hrooms : (st.lobby.rooms s).isSome = (st.core.transport s).isSome := by
    simp [lobby, core]
  have hcore := core_disconnect now st s
  unfold Scene.drop
  cases h : st.sockets.get? s with
  | none =>
    have hgone : (st.scene.lobby.rooms s).isSome = false := by simp [scene, lobby, h]
    rw [if_neg (by simp [hgone])]
    unfold disconnect
    rw [h]
  | some socket =>
    have hconn : (st.scene.lobby.rooms s).isSome = true := by simp [scene, lobby, h]
    rw [if_pos hconn]
    unfold Core.drop at hcore
    rw [if_pos (by rw [← hrooms]; exact hconn)] at hcore
    have hvanish : ({ st with sockets := st.sockets.delete s } : RelayServer V).lobby =
        st.lobby.vanish s := by
      simp only [lobby, Lobby.vanish, Lobby.mk.injEq, and_true]
      funext s'
      rw [JsMap.get?_delete, Function.update_apply]
      split <;> rfl
    have hlobby : (st.disconnect now s).lobby =
        match (st.scene.session s).bind (·.currentChannelId) with
        | none => st.lobby.vanish s
        | some channelId => (st.lobby.vanish s).announceLeft s channelId .disconnect
            ((st.channelManager.releaseDirectDelivery s).leave now s channelId).1 := by
      unfold disconnect
      rw [h]
      dsimp only
      unfold onDisconnect
      set st₁ : RelayServer V := { st with sockets := st.sockets.delete s } with hst₁
      have hlobby₂ : ((st₁.releaseSocketCounter s).releaseDirectDelivery s).lobby =
          st.lobby.vanish s := by
        rw [← hvanish]
        exact lobby_releaseSocketCounter st₁ s
      have hcore₂ : ((st₁.releaseSocketCounter s).releaseDirectDelivery s).channelManager =
          st.channelManager.releaseDirectDelivery s := by
        have h₁ := congrArg Core.manager
          (core_releaseDirectDelivery (st₁.releaseSocketCounter s) s)
        have h₂ : (st₁.releaseSocketCounter s).channelManager = st.channelManager :=
          congrArg Core.manager (core_releaseSocketCounter st₁ s)
        rwa [h₂] at h₁
      have hses₂ : (((st₁.releaseSocketCounter s).releaseDirectDelivery s).sessions.get? s).bind
          (·.currentChannelId) = (st.scene.session s).bind (·.currentChannelId) := by
        have h₁ := congrFun (congrArg Core.session (core_releaseSocketCounter st₁ s)) s
        change (st₁.releaseSocketCounter s).sessions.get? s = _ at h₁
        change ((st₁.releaseSocketCounter s).sessions.get? s).bind _ = _
        rw [h₁]
        dsimp only
        rw [Function.update_self]
        change Option.bind (Option.map _ (st.sessions.get? s)) _ =
          (st.sessions.get? s).bind (·.currentChannelId)
        cases st.sessions.get? s <;> rfl
      dsimp only
      rw [hses₂]
      cases (st.scene.session s).bind (·.currentChannelId) with
      | none => exact hlobby₂
      | some channelId =>
        dsimp only
        rw [lobby_notifyLeft, hcore₂]
        exact congrArg (Lobby.announceLeft · s channelId .disconnect _) hlobby₂
    rw [scene_eq hcore hlobby]
    change Scene.mk (match (st.scene.session s).bind (·.currentChannelId) with
      | none => _
      | some channelId => _) _ _ = _
    cases (st.scene.session s).bind (·.currentChannelId) <;> rfl

/-- A slow target is dropped if nothing is reserved for it. -/
theorem scene_disconnectSlow (now : ℕ) (st : RelayServer V) (target : Option SocketId) :
    (st.disconnectSlow now target).scene = st.scene.relieve now target := by
  unfold disconnectSlow Scene.relieve
  cases target with
  | none => rfl
  | some target =>
    dsimp only
    rw [apply_ite scene, scene_disconnect]
    rfl

end RelayServer

end QrlBackend
