import QrlBackend.Engine

/-!
# Socket slots

`activeSocketsByIp` counts the connected sockets of each address. The connection handler adds
one before it knows whether the socket may stay, and takes it off again at two places, each
with its own arithmetic. A socket that stays gives its slot back in its `disconnect` handler,
once (`releasedSocketCounter`).

`Door` is the part of the relay these statements touch. Every event admits one socket, or
leaves the door as it is but for sockets that go away (`door_step`), so the counts stay exact
in every run (`Exact`).
-/

set_option autoImplicit false

namespace QrlBackend

variable {V : Type}

/-- What the relay counts sockets with : the counts, the connected sockets, and for each
connection handler its address and whether it gave its slot back. -/
structure Door where
  counts : JsMap String ℕ
  connected : List SocketId
  slot : SocketId → Option (String × Bool)

namespace Door

/-- The addresses of the connected sockets. -/
def addresses (d : Door) : List String :=
  d.connected.filterMap fun s => (d.slot s).map Prod.fst

/-- A socket gives its slot back, unless it did before. -/
def release (d : Door) (s : SocketId) : Door :=
  match d.slot s with
  | some (ip, false) =>
    { d with
      counts :=
        if (d.counts.get? ip).getD 0 ≤ 1 then d.counts.delete ip
        else d.counts.set ip ((d.counts.get? ip).getD 0 - 1)
      slot := Function.update d.slot s (some (ip, true)) }
  | _ => d

/-- A connected socket goes away. -/
def leave (d : Door) (s : SocketId) : Door :=
  if s ∈ d.connected then { d with connected := d.connected.erase s }.release s else d

/-- A socket comes in and takes a slot. -/
def enter (d : Door) (s : SocketId) (ip : String) : Door where
  counts := d.counts.set ip ((d.counts.get? ip).getD 0 + 1)
  connected := d.connected ++ [s]
  slot := Function.update d.slot s (some (ip, false))

end Door

namespace RelayServer

/-- What the relay counts its sockets by. -/
def door (st : RelayServer V) : Door where
  counts := st.activeSocketsByIp
  connected := st.sockets.keys
  slot := fun s =>
    (st.sessions.get? s).map fun session => (session.clientIp, session.releasedSocketCounter)

/-! ## What does not touch the door -/

theorem door_setSocket (st : RelayServer V) {s : SocketId} (socket : Socket)
    (h : st.sockets.has s = true) :
    ({ st with sockets := st.sockets.set s socket } : RelayServer V).door = st.door := by
  simp only [door, JsMap.keys_set_of_has socket h]

theorem has_of_get? {st : RelayServer V} {s : SocketId} {socket : Socket}
    (h : st.sockets.get? s = some socket) : st.sockets.has s = true := by
  rw [JsMap.has_eq, h]
  rfl

/-- Packets are not counted. -/
@[simp] theorem door_emit (st : RelayServer V) (s : SocketId) (packet : Packet V) :
    (st.emit s packet).door = st.door := by
  unfold emit
  split
  next => rfl
  next socket h => exact door_setSocket st _ (has_of_get? h)

@[simp] theorem door_emitVolatile (st : RelayServer V) (s : SocketId) (packet : Packet V) :
    (st.emitVolatile s packet).door = st.door := by
  unfold emitVolatile
  split
  · exact door_emit st s packet
  · rfl

@[simp] theorem door_broadcast (st : RelayServer V) (s : SocketId) (room : String)
    (packet : Packet V) : (st.broadcast s room packet).door = st.door := by
  unfold broadcast
  generalize ((st.sockets.entries.filter _).map Prod.fst) = receivers
  induction receivers generalizing st with
  | nil => rfl
  | cons receiver receivers ih => rw [List.foldl_cons, ih, door_emit]

@[simp] theorem door_notifyLeft (st : RelayServer V) (s : SocketId) (channelId : String)
    (event : PresenceEvent) (participant : Option Participant) :
    (st.notifyLeft s channelId event participant).door = st.door := by
  unfold notifyLeft
  split
  · rfl
  · rw [door_broadcast]

@[simp] theorem door_respond (st : RelayServer V) (s : SocketId) (ack : Bool)
    (response : Response V) : (st.respond s ack response).door = st.door := by
  unfold respond
  split
  · exact door_emit st s _
  · rfl

/-- Nor are rooms. -/
@[simp] theorem door_joinRoom (st : RelayServer V) (s : SocketId) (room : String)
    (resolves : Bool) : (st.joinRoom s room resolves).door = st.door := by
  unfold joinRoom
  split
  · rfl
  next socket h =>
    split
    · exact door_setSocket st _ (has_of_get? h)
    · rfl

@[simp] theorem door_leaveRoom (st : RelayServer V) (s : SocketId) (room : String)
    (resolves : Bool) : (st.leaveRoom s room resolves).door = st.door := by
  unfold leaveRoom
  split
  · rfl
  next socket h =>
    split
    · exact door_setSocket st _ (has_of_get? h)
    · rfl

/-- Nor is what a connected socket is like. -/
@[simp] theorem door_modifySocket (st : RelayServer V) (s : SocketId) (f : Socket → Socket) :
    (st.modifySocket s f).door = st.door := by
  unfold modifySocket
  split
  · rfl
  next socket h => exact door_setSocket st _ (has_of_get? h)

/-- Assigning to the variables that are not about the slot. -/
theorem door_modifySession (st : RelayServer V) (s : SocketId) {f : Session V → Session V}
    (hip : ∀ session, (f session).clientIp = session.clientIp)
    (hreleased : ∀ session, (f session).releasedSocketCounter = session.releasedSocketCounter) :
    (st.modifySession s f).door = st.door := by
  unfold modifySession
  split
  · rfl
  next session h =>
    simp only [door, Door.mk.injEq, true_and]
    funext s'
    rw [JsMap.get?_set]
    split
    next hs => rw [hs, h, Option.map_some, Option.map_some, hip, hreleased]
    next => rfl

@[simp] theorem door_setManager (st : RelayServer V) (m : ChannelManager V) :
    ({ st with channelManager := m } : RelayServer V).door = st.door :=
  rfl

@[simp] theorem door_checkRateLimit (now : ℕ) (st : RelayServer V) (ip : String) (bucket : Bucket)
    (limit : ℕ) : (st.checkRateLimit now ip bucket limit).2.door = st.door :=
  rfl

@[simp] theorem door_releaseDirectDelivery (st : RelayServer V) (s : SocketId) :
    (st.releaseDirectDelivery s).door = st.door :=
  rfl

@[simp] theorem door_armDirectDelivery (st : RelayServer V) (s : SocketId) :
    (st.armDirectDelivery s).2.door = st.door := by
  unfold armDirectDelivery
  split
  · rfl
  · split <;> rfl

@[simp] theorem door_suspend (st : RelayServer V) (s : SocketId) (request : JoinRequest)
    (stage : Stage V) : (st.suspend s request stage).door = st.door :=
  door_modifySession st s (fun _ => rfl) fun _ => rfl

@[simp] theorem door_endJoin (st : RelayServer V) (s : SocketId) (request : JoinRequest)
    (response : Response V) : (st.endJoin s request response).door = st.door := by
  rw [endJoin, door_respond]
  exact door_modifySession st s (fun _ => rfl) fun _ => rfl

@[simp] theorem door_finishJoin (st : RelayServer V) (s : SocketId) (request : JoinRequest)
    (bufferedMessages : List (RelayPayload V)) (key : Option String) (roster : List ClientType) :
    (st.finishJoin s request bufferedMessages key roster).door = st.door := by
  rw [finishJoin, door_endJoin, door_broadcast]
  exact door_modifySession st s (fun _ => rfl) fun _ => rfl

@[simp] theorem door_abortJoin (now : ℕ) (st : RelayServer V) (s : SocketId)
    (request : JoinRequest) (joinedManager resolves : Bool) :
    (st.abortJoin now s request joinedManager resolves).door = st.door := by
  unfold abortJoin
  dsimp only
  have hm : (if joinedManager = true then
      { st with channelManager := (st.channelManager.leave now s request.channelId).2 }
      else st).door = st.door := by
    split <;> rfl
  split
  · rw [door_suspend, door_leaveRoom, hm]
  · rw [door_endJoin, hm]

/-- A call of the manager counts nobody. -/
theorem door_enterChannel (now : ℕ) (st : RelayServer V) (s : SocketId) (session : Session V)
    (request : JoinRequest) (resolves : Bool) :
    (st.enterChannel now s session request resolves).door = st.door := by
  unfold enterChannel
  generalize st.channelManager.join st.isSocketActive now request.channelId s request.clientType
    request.publicKey (some session.clientIp) = out
  obtain ⟨result, m⟩ := out
  cases result with
  | failure error =>
    dsimp only
    split
    · rw [door_suspend, door_leaveRoom, door_setManager]
    · rw [door_endJoin, door_setManager]
  | success bufferedMessages key roster terminated =>
    dsimp only
    split
    · split
      · rw [door_suspend, door_leaveRoom, door_setManager]
      · rw [door_endJoin, door_setManager]
    · split
      · rw [door_finishJoin, door_setManager]
      · rw [door_suspend, door_leaveRoom, door_notifyLeft]
        rfl

/-- A suspended join counts nobody. -/
theorem door_onResume (now : ℕ) (st : RelayServer V) (s : SocketId) (session : Session V)
    (pending : PendingJoin V) (resolves : Bool) :
    (st.onResume now s session pending resolves).door = st.door := by
  unfold onResume
  dsimp only
  split
  · exact door_enterChannel now st s session _ resolves
  · exact door_endJoin st s _ _
  · exact door_endJoin st s _ _
  · exact door_finishJoin st s _ _ _ _
  · exact door_abortJoin now st s _ _ resolves
  · exact door_abortJoin now st s _ _ resolves
  · exact door_abortJoin now st s _ _ resolves
  · exact door_abortJoin now st s _ _ resolves
  · exact door_endJoin st s _ _

/-- Nor does a new one. -/
theorem door_onJoinChannel (cfg : Config) (now : ℕ) (st : RelayServer V) (s : SocketId)
    (session : Session V) (payload : JoinPayload) (ack resolves : Bool) :
    (st.onJoinChannel cfg now s session payload ack resolves).door = st.door := by
  unfold onJoinChannel
  split
  · exact door_respond st s ack _
  · have hlimit := door_checkRateLimit now st session.clientIp .join rateLimitMaxJoins
    generalize st.checkRateLimit now session.clientIp .join rateLimitMaxJoins = out at hlimit ⊢
    obtain ⟨allowed, st'⟩ := out
    dsimp only at hlimit ⊢
    rw [← hlimit]
    split
    · exact door_respond st' s ack _
    · split
      · exact door_respond st' s ack _
      · split
        · exact door_respond st' s ack _
        · split
          · exact door_respond st' s ack _
          · exact door_respond st' s ack _
          · split
            · rw [door_suspend, door_joinRoom]
            · exact door_enterChannel now st' s session _ resolves

theorem door_onPing (now : ℕ) (st : RelayServer V) (s : SocketId) (session : Session V)
    (ack : Bool) : (st.onPing now s session ack).door = st.door := by
  unfold onPing
  dsimp only
  split <;> rw [door_respond, door_checkRateLimit]

theorem door_onLeaveChannel (now : ℕ) (st : RelayServer V) (s : SocketId) (session : Session V)
    (requested : Narrowed) (ack : Bool) :
    (st.onLeaveChannel now s session requested ack).door = st.door := by
  unfold onLeaveChannel
  dsimp only
  split
  · rw [door_respond, door_checkRateLimit]
  · rw [door_respond]
    split
    · exact door_checkRateLimit now st _ _ _
    · rw [door_modifySession, door_notifyLeft, door_setManager, door_leaveRoom,
        door_checkRateLimit]
      · intro session
        split <;> rfl
      · intro session
        split <;> rfl

theorem door_onCloseChannel (now : ℕ) (st : RelayServer V) (s : SocketId) (session : Session V)
    (requested : Narrowed) (ack : Bool) :
    (st.onCloseChannel now s session requested ack).door = st.door := by
  unfold onCloseChannel
  dsimp only
  split
  · rw [door_respond, door_checkRateLimit]
  · split
    · rw [door_respond, door_checkRateLimit]
    · split
      · rw [door_respond, door_setManager, door_checkRateLimit]
      · split
        · rw [door_respond, door_setManager, door_checkRateLimit]
        · rw [door_respond, door_modifySession, door_broadcast, door_leaveRoom, door_setManager,
            door_checkRateLimit]
          · intro session
            split <;> rfl
          · intro session
            split <;> rfl

/-! ## Sockets that go away -/

/-- The slot of a session is given back once. -/
theorem door_releaseSocketCounter (st : RelayServer V) (s : SocketId) :
    (st.releaseSocketCounter s).door = st.door.release s := by
  unfold releaseSocketCounter Door.release
  cases h : st.sessions.get? s with
  | none => simp [door, h]
  | some session =>
    dsimp only
    cases hreleased : session.releasedSocketCounter with
    | true => simp [door, h, hreleased]
    | false =>
      have hslot : st.door.slot s = some (session.clientIp, false) := by
        simp [door, h, hreleased]
      rw [hslot, if_neg Bool.false_ne_true]
      dsimp only
      unfold modifySession
      rw [h]
      simp only [door, Door.mk.injEq, true_and]
      refine ⟨rfl, ?_⟩
      funext s'
      rw [JsMap.get?_set, Function.update_apply]
      split <;> rfl

/-- The handler of a disconnection gives the slot back. -/
theorem door_onDisconnect (now : ℕ) (st : RelayServer V) (s : SocketId) :
    (st.onDisconnect now s).door = st.door.release s := by
  unfold onDisconnect
  dsimp only
  split
  · rw [door_releaseDirectDelivery, door_releaseSocketCounter]
  · rw [door_notifyLeft, door_setManager, door_releaseDirectDelivery, door_releaseSocketCounter]

/-- A socket that is disconnected leaves with its slot. -/
theorem door_disconnect (now : ℕ) (st : RelayServer V) (s : SocketId) :
    (st.disconnect now s).door = st.door.leave s := by
  unfold disconnect Door.leave
  have hconnected : s ∈ st.door.connected ↔ st.sockets.has s = true :=
    (st.sockets.has_iff_mem_keys s).symm
  cases h : st.sockets.get? s with
  | none =>
    rw [if_neg]
    rw [hconnected, JsMap.has_eq, h]
    exact Bool.false_ne_true
  | some socket =>
    rw [if_pos (hconnected.2 (has_of_get? h)), door_onDisconnect]
    simp only [door, JsMap.keys_delete]

/-- From one door to another nothing happens but that sockets go away. -/
def Empties (d d' : Door) : Prop := ∃ leaving : List SocketId, d' = leaving.foldl Door.leave d

theorem Empties.of_eq {d d' : Door} (h : d' = d) : Empties d d' := ⟨[], h⟩

theorem Empties.leave {d d' : Door} (h : Empties d d') (s : SocketId) :
    Empties d (d'.leave s) := by
  obtain ⟨leaving, rfl⟩ := h
  exact ⟨leaving ++ [s], by rw [List.foldl_append, List.foldl_cons, List.foldl_nil]⟩

/-- The slow target leaves, if any. -/
theorem door_disconnectSlow (now : ℕ) (st : RelayServer V) (target : Option SocketId) :
    Empties st.door (st.disconnectSlow now target).door := by
  unfold disconnectSlow
  split
  · exact .of_eq rfl
  · split
    · exact .of_eq rfl
    · rw [door_disconnect]
      exact (Empties.of_eq rfl).leave _

/-- Relaying a message can only disconnect its target. -/
theorem door_relayMessage [Unknown V] (cfg : Config) (now bufferedAt : ℕ) (st : RelayServer V)
    (s : SocketId) (session : Session V) (payload : RelayPayload V) (ack : Bool) :
    Empties st.door (st.relayMessage cfg now bufferedAt s session payload ack).door := by
  unfold relayMessage
  dsimp only
  generalize st.channelManager.routeMessage cfg st.canSocketReceive now bufferedAt payload.id s
    payload session.clientIp = out
  obtain ⟨result, m⟩ := out
  dsimp only
  have hslow := door_disconnectSlow now ({ st with channelManager := m } : RelayServer V)
    result.backpressuredSocketId
  generalize ({ st with channelManager := m } : RelayServer V).disconnectSlow now
    result.backpressuredSocketId = st' at hslow ⊢
  rw [door_setManager] at hslow
  split
  · rw [door_respond]
    exact hslow
  · rw [door_respond]
    exact hslow
  next target _ _ =>
    have harm := door_armDirectDelivery st' target
    generalize st'.armDirectDelivery target = out at harm ⊢
    obtain ⟨armed, st''⟩ := out
    dsimp only at harm
    cases armed with
    | false =>
      dsimp only
      rw [door_respond, door_disconnect, door_releaseDirectDelivery, harm]
      exact hslow.leave target
    | true =>
      dsimp only
      rw [door_respond]
      refine (congrArg (Empties st.door) ?_).mp hslow
      exact ((door_emitVolatile st'' target _).trans harm).symm

theorem door_onMessage [Unknown V] (cfg : Config) (now bufferedAt : ℕ) (st : RelayServer V)
    (s : SocketId) (session : Session V) (payload : MessagePayload V) (ack : Bool) :
    Empties st.door (st.onMessage cfg now bufferedAt s session payload ack).door := by
  unfold onMessage
  have hlimit := door_checkRateLimit now st session.clientIp .message rateLimitMaxMessages
  generalize st.checkRateLimit now session.clientIp .message rateLimitMaxMessages = out at hlimit ⊢
  obtain ⟨allowed, st'⟩ := out
  dsimp only at hlimit ⊢
  rw [← hlimit]
  split
  · exact .of_eq (door_respond st' s ack _)
  · split
    · exact .of_eq (door_respond st' s ack _)
    · exact door_relayMessage cfg now bufferedAt { st' with payloads := st'.payloads + 1 } s session
        _ ack

/-- A ready transport can only make its socket leave. -/
theorem door_onReady (now : ℕ) (st : RelayServer V) (s : SocketId) :
    Empties st.door (st.onReady now s).door := by
  unfold onReady
  dsimp only
  set st₁ : RelayServer V :=
    { st with directTransportListeners := st.directTransportListeners.delete s }
  have hdoor : st₁.door = st.door := rfl
  split
  · exact .of_eq rfl
  next target _ =>
    split
    · exact .of_eq rfl
    · have harm := door_armDirectDelivery st₁ s
      generalize st₁.armDirectDelivery s = out at harm ⊢
      obtain ⟨armed, st'⟩ := out
      dsimp only at harm
      rw [hdoor] at harm
      cases armed with
      | false =>
        dsimp only
        rw [door_disconnect]
        exact (Empties.of_eq harm).leave s
      | true =>
        dsimp only
        split
        · exact .of_eq harm
        · exact .of_eq ((door_emitVolatile _ s _).trans harm)

theorem door_fire (now : ℕ) (st : RelayServer V) (s : SocketId) (event : TransportEvent) :
    Empties st.door (st.fire now s event).door := by
  unfold fire
  split
  · exact .of_eq rfl
  · split
    · cases event with
      | drain => exact .of_eq rfl
      | ready => exact door_onReady now st s
    · exact .of_eq rfl

end RelayServer

/-! ## Admission -/

/-- What the connection handler does to the counts once the rate limit lets the socket pass, and
whether the socket stays. Each refusal takes the slot back in its own way. -/
def takeSlot (cfg : Config) (counts : JsMap String ℕ) (clientIp : String) (clientsCount : ℕ) :
    Bool × JsMap String ℕ :=
  let activeForIp := (counts.get? clientIp).getD 0 + 1
  let counts := counts.set clientIp activeForIp
  if cfg.relayMaxSocketsPerIp < activeForIp then
    let counts := counts.set clientIp (activeForIp - 1)
    (false, if activeForIp - 1 ≤ 0 then counts.delete clientIp else counts)
  else if cfg.relayMaxActiveSockets < clientsCount then
    let updatedCount := (counts.get? clientIp).getD 1 - 1
    (false, if 0 < updatedCount then counts.set clientIp updatedCount else counts.delete clientIp)
  else (true, counts)

/-- The connection handler admits the socket. -/
def RelayServer.admits (cfg : Config) (st : RelayServer V) (now : ℕ) (clientIp : String)
    (clientsCount : ℕ) : Bool :=
  (st.checkRateLimit now clientIp .connect rateLimitMaxConnections).1 &&
    (takeSlot cfg st.activeSocketsByIp clientIp clientsCount).1

/-- Setting or deleting the number of one address leaves the others. -/
theorem get?_setOrDelete {counts : JsMap String ℕ} {ip : String} {p : Prop} [Decidable p] {n : ℕ}
    (ip' : String) : (if p then counts.delete ip else counts.set ip n).get? ip' =
      if ip' = ip then (if p then none else some n) else counts.get? ip' := by
  split
  · exact JsMap.get?_delete counts ip ip'
  · exact JsMap.get?_set counts ip ip' n

/-- Every refusal of `takeSlot` leaves the number of sockets that were there before. -/
theorem takeSlot_refused {cfg : Config} {counts : JsMap String ℕ} {clientIp : String}
    {clientsCount : ℕ} (hrefused : (takeSlot cfg counts clientIp clientsCount).1 = false)
    (ip : String) : (takeSlot cfg counts clientIp clientsCount).2.get? ip =
      if ip = clientIp then
        (if (counts.get? clientIp).getD 0 ≤ 0 then none else some ((counts.get? clientIp).getD 0))
      else counts.get? ip := by
  unfold takeSlot at hrefused ⊢
  dsimp only at hrefused ⊢
  generalize (counts.get? clientIp).getD 0 = n at hrefused ⊢
  split
  next hper =>
    dsimp only
    rw [Nat.add_sub_cancel]
    split
    next hzero =>
      simp only [JsMap.get?_delete, JsMap.get?_set]
      split <;> rfl
    next hzero =>
      simp only [JsMap.get?_set]
      split <;> rfl
  next hper =>
    rw [if_neg hper] at hrefused
    split
    next hglobal =>
      dsimp only
      rw [JsMap.get?_set_self, Option.getD_some, Nat.add_sub_cancel]
      split
      next hpos =>
        simp only [JsMap.get?_set]
        rw [if_neg (Nat.not_le.2 hpos)]
        split <;> rfl
      next hpos =>
        simp only [JsMap.get?_delete, JsMap.get?_set]
        rw [if_pos (Nat.le_of_not_lt hpos)]
        split <;> rfl
    next hglobal =>
      rw [if_neg hglobal] at hrefused
      cases hrefused

namespace RelayServer

theorem takeSlot_fst (cfg : Config) (counts : JsMap String ℕ) (clientIp : String)
    (clientsCount : ℕ) : (takeSlot cfg counts clientIp clientsCount).1 =
      !(decide (cfg.relayMaxSocketsPerIp < (counts.get? clientIp).getD 0 + 1) ||
        decide (cfg.relayMaxActiveSockets < clientsCount)) := by
  unfold takeSlot
  dsimp only
  split
  next h => simp [h]
  next h =>
    split
    next h' => simp [h']
    next h' => simp [h, h']

/-- Who is admitted is counted, within the cap of its address. -/
theorem takeSlot_admitted {cfg : Config} {counts : JsMap String ℕ} {clientIp : String}
    {clientsCount : ℕ} (h : (takeSlot cfg counts clientIp clientsCount).1 = true) :
    (takeSlot cfg counts clientIp clientsCount).2 =
        counts.set clientIp ((counts.get? clientIp).getD 0 + 1) ∧
      (counts.get? clientIp).getD 0 + 1 ≤ cfg.relayMaxSocketsPerIp := by
  unfold takeSlot at h ⊢
  dsimp only at h ⊢
  split
  next hper =>
    rw [if_pos hper] at h
    cases h
  next hper =>
    rw [if_neg hper] at h
    split
    next hglobal =>
      rw [if_pos hglobal] at h
      cases h
    next => exact ⟨rfl, by omega⟩

/-- The connection handler after the rate limit. -/
theorem onConnection_eq (cfg : Config) (now : ℕ) (st : RelayServer V) (s : SocketId)
    (clientIp : String) (clientsCount : ℕ) :
    st.onConnection cfg now s clientIp clientsCount =
      let st₁ := (st.checkRateLimit now clientIp .connect rateLimitMaxConnections).2
      let count := (st.activeSocketsByIp.get? clientIp).getD 0
      if st.admits cfg now clientIp clientsCount then
        { st₁ with
          activeSocketsByIp := st.activeSocketsByIp.set clientIp (count + 1)
          sockets := st.sockets.set s ⟨[ownRoom s], st.transports, false⟩
          sessions := st.sessions.set s ⟨clientIp, none, false, none⟩
          transports := st.transports + 1 }
      else if (st.checkRateLimit now clientIp .connect rateLimitMaxConnections).1 then
        { st₁ with
          activeSocketsByIp :=
            if count ≤ 0 then st.activeSocketsByIp.delete clientIp
            else st.activeSocketsByIp.set clientIp count }
      else st₁ := by
  unfold onConnection admits
  dsimp only
  rw [takeSlot_fst]
  cases (st.checkRateLimit now clientIp .connect rateLimitMaxConnections).1 with
  | false => rfl
  | true =>
    have hcounts : (st.checkRateLimit now clientIp .connect
        rateLimitMaxConnections).2.activeSocketsByIp = st.activeSocketsByIp := rfl
    rw [hcounts, Bool.not_true, if_neg Bool.false_ne_true, Bool.true_and, Nat.add_sub_cancel]
    cases (decide (cfg.relayMaxSocketsPerIp < (st.activeSocketsByIp.get? clientIp).getD 0 + 1) ||
      decide (cfg.relayMaxActiveSockets < clientsCount)) <;> rfl

/-- An admitted socket takes its slot and has not given it back. -/
theorem door_onConnection_admitted {cfg : Config} {now : ℕ} {st : RelayServer V} {s : SocketId}
    {clientIp : String} {clientsCount : ℕ} (hgone : st.sockets.has s = false)
    (h : st.admits cfg now clientIp clientsCount = true) :
    (st.onConnection cfg now s clientIp clientsCount).door = st.door.enter s clientIp := by
  rw [onConnection_eq]
  dsimp only
  rw [if_pos h]
  simp only [door, Door.enter, JsMap.keys_set_of_not_has _ hgone, Door.mk.injEq, true_and]
  funext s'
  rw [JsMap.get?_set, Function.update_apply]
  split <;> rfl

/-- Past the rate limit, the handler leaves the numbers that `takeSlot` leaves. -/
theorem onConnection_takeSlot {cfg : Config} {now : ℕ} {st : RelayServer V} {s : SocketId}
    {clientIp : String} {clientsCount : ℕ}
    (hallowed : (st.checkRateLimit now clientIp .connect rateLimitMaxConnections).1 = true)
    (ip : String) :
    (st.onConnection cfg now s clientIp clientsCount).activeSocketsByIp.get? ip =
      (takeSlot cfg st.activeSocketsByIp clientIp clientsCount).2.get? ip := by
  have hadmits : st.admits cfg now clientIp clientsCount =
      (takeSlot cfg st.activeSocketsByIp clientIp clientsCount).1 := by
    rw [admits, hallowed, Bool.true_and]
  rw [onConnection_eq]
  dsimp only
  rw [hadmits, if_pos hallowed]
  cases htake : (takeSlot cfg st.activeSocketsByIp clientIp clientsCount).1 with
  | true =>
    rw [if_pos rfl, (takeSlot_admitted htake).1]
  | false =>
    rw [if_neg Bool.false_ne_true, takeSlot_refused htake]
    exact get?_setOrDelete ip

/-- A refused socket leaves the number of every address as the handler found it, and the rest as
it was. -/
theorem door_onConnection_refused {cfg : Config} {now : ℕ} {st : RelayServer V} {s : SocketId}
    {clientIp : String} {clientsCount : ℕ} {l : List String}
    (htallies : st.activeSocketsByIp.Tallies l)
    (h : st.admits cfg now clientIp clientsCount = false) :
    (st.onConnection cfg now s clientIp clientsCount).door.connected = st.door.connected ∧
      (st.onConnection cfg now s clientIp clientsCount).door.slot = st.door.slot ∧
      ∀ ip, (st.onConnection cfg now s clientIp clientsCount).activeSocketsByIp.get? ip =
        st.activeSocketsByIp.get? ip := by
  cases hallowed : (st.checkRateLimit now clientIp .connect rateLimitMaxConnections).1 with
  | true =>
    have htake : (takeSlot cfg st.activeSocketsByIp clientIp clientsCount).1 = false := by
      rwa [admits, hallowed, Bool.true_and] at h
    refine ⟨?_, ?_, fun ip => ?_⟩
    · rw [onConnection_eq, h, hallowed]
      rfl
    · rw [onConnection_eq, h, hallowed]
      rfl
    · rw [onConnection_takeSlot hallowed, takeSlot_refused htake, htallies.getD]
      split
      next hip =>
        rw [hip, htallies clientIp]
        simp only [Nat.le_zero]
      next => rfl
  | false =>
    rw [onConnection_eq, h, hallowed]
    exact ⟨rfl, rfl, fun _ => rfl⟩

/-- An event that is not a connection changes the door by sockets that go away. -/
theorem door_step [Unknown V] (cfg : Config) (st : RelayServer V) (input : Input V)
    (hnot : ∀ s clientIp clientsCount, input.event ≠ .connection s clientIp clientsCount) :
    Empties st.door (st.step cfg input).door := by
  obtain ⟨now, event⟩ := input
  have hdispatch := @dispatched V (fun k => Empties st.door k.door) st (.of_eq rfl)
  unfold step
  dsimp only
  cases event with
  | connection s clientIp clientsCount => exact absurd rfl (hnot s clientIp clientsCount)
  | joinChannel s payload ack resolves =>
    exact hdispatch s _ fun session _ _ =>
      .of_eq (door_onJoinChannel cfg now st s session payload ack resolves)
  | resumeJoin s resolves =>
    dsimp only
    split
    · exact .of_eq rfl
    · split
      · exact .of_eq rfl
      · exact .of_eq (door_onResume now st s _ _ resolves)
  | message s payload ack bufferedAt =>
    exact hdispatch s _ fun session _ _ =>
      door_onMessage cfg now bufferedAt st s session payload ack
  | leaveChannel s requested ack =>
    exact hdispatch s _ fun session _ _ =>
      .of_eq (door_onLeaveChannel now st s session requested ack)
  | closeChannel s requested ack =>
    exact hdispatch s _ fun session _ _ =>
      .of_eq (door_onCloseChannel now st s session requested ack)
  | ping s ack => exact hdispatch s _ fun session _ _ => .of_eq (door_onPing now st s session ack)
  | disconnect s =>
    rw [door_disconnect]
    exact (Empties.of_eq rfl).leave s
  | drain s => exact door_fire now st s .drain
  | ready s consumed =>
    have hfire := door_fire now (st.modifySocket s fun socket =>
      { socket with writable := !consumed }) s .ready
    rw [door_modifySocket] at hfire
    exact hfire
  | controlPacket s => exact .of_eq (door_modifySocket st s _)
  | upgrade s writable => exact .of_eq (door_modifySocket st s _)
  | cleanup => exact .of_eq rfl
  | sweepRateLimits => exact .of_eq rfl

end RelayServer

/-! ## The counts are exact -/

namespace Door

/-- The counts are those of the connected sockets, which are those that hold a slot, within the
cap. -/
structure Exact (cap : ℕ) (d : Door) : Prop where
  counts : d.counts.Tallies d.addresses
  nodup : d.connected.Nodup
  holds : ∀ s, s ∈ d.connected ↔ ∃ ip, d.slot s = some (ip, false)
  capped : ∀ ip, d.addresses.count ip ≤ cap

/-- At first nobody is counted. -/
theorem exact_create (cap : ℕ) : Exact cap ⟨.empty, [], fun _ => none⟩ where
  counts := JsMap.tallies_empty
  nodup := List.nodup_nil
  holds _ := by simp
  capped _ := Nat.zero_le _

/-- A connected socket gives its slot back as it goes. -/
theorem leave_eq {d : Door} {s : SocketId} {ip : String} (hmem : s ∈ d.connected)
    (hslot : d.slot s = some (ip, false)) :
    d.leave s =
      { counts :=
          if (d.counts.get? ip).getD 0 ≤ 1 then d.counts.delete ip
          else d.counts.set ip ((d.counts.get? ip).getD 0 - 1)
        connected := d.connected.erase s
        slot := Function.update d.slot s (some (ip, true)) } := by
  rw [Door.leave, if_pos hmem, Door.release]
  dsimp only
  rw [hslot]

/-- The address of a socket that goes away goes with it, once. -/
theorem addresses_leave {d : Door} {s : SocketId} {ip : String} (hmem : s ∈ d.connected)
    (hslot : d.slot s = some (ip, false)) :
    d.addresses.Perm (ip :: (d.leave s).addresses) := by
  have hfst : (fun s' => ((d.leave s).slot s').map Prod.fst) =
      fun s' => (d.slot s').map Prod.fst := by
    rw [leave_eq hmem hslot]
    funext s'
    dsimp only
    rw [Function.update_apply]
    split
    next hs => rw [hs, hslot]; rfl
    next => rfl
  rw [addresses, addresses, hfst, leave_eq hmem hslot]
  dsimp only
  have hperm := (List.perm_cons_erase hmem).filterMap fun s' => (d.slot s').map Prod.fst
  rwa [List.filterMap_cons_some (b := ip) (by rw [hslot]; rfl)] at hperm

/-- Who leaves is not counted any more. -/
theorem Exact.leave {cap : ℕ} {d : Door} (h : d.Exact cap) (s : SocketId) :
    (d.leave s).Exact cap := by
  by_cases hmem : s ∈ d.connected
  · obtain ⟨ip, hslot⟩ := (h.holds s).1 hmem
    have hperm := addresses_leave hmem hslot
    have hleave := leave_eq hmem hslot
    have hconnected : (d.leave s).connected = d.connected.erase s := by rw [hleave]
    refine ⟨?_, ?_, fun s' => ?_, fun ip' => ?_⟩
    · have hcounts := (h.counts.perm hperm).leave
      rwa [hleave] at hcounts ⊢
    · rw [hconnected]
      exact h.nodup.erase s
    · rw [hconnected, h.nodup.mem_erase_iff, hleave]
      dsimp only
      rw [Function.update_apply]
      by_cases hs : s' = s
      · simp [hs]
      · simp [hs, h.holds s']
    · have hcount := h.capped ip'
      rw [hperm.count_eq] at hcount
      exact (List.count_le_count_cons).trans hcount
  · rwa [Door.leave, if_neg hmem]

/-- A new socket adds its address. -/
theorem addresses_enter {d : Door} {s : SocketId} (hnew : s ∉ d.connected) (ip : String) :
    (d.enter s ip).addresses = d.addresses ++ [ip] := by
  rw [addresses, enter, List.filterMap_append, addresses]
  congr 1
  · refine List.filterMap_congr fun s' hs' => ?_
    dsimp only
    rw [Function.update_of_ne]
    rintro rfl
    exact hnew hs'
  · simp

/-- A socket that went away gives nothing back any more. -/
theorem Exact.release_leave {cap : ℕ} {d : Door} (h : d.Exact cap) (s : SocketId) :
    (d.leave s).release s = d.leave s := by
  have hgone : s ∉ (d.leave s).connected := by
    by_cases hmem : s ∈ d.connected
    · obtain ⟨ip, hslot⟩ := (h.holds s).1 hmem
      rw [leave_eq hmem hslot]
      exact h.nodup.not_mem_erase
    · rwa [Door.leave, if_neg hmem]
  unfold Door.release
  split
  next ip hslot => exact absurd (((h.leave s).holds s).2 ⟨ip, hslot⟩) hgone
  next => rfl

/-- A socket may come in while its address is below the cap. -/
theorem Exact.enter {cap : ℕ} {d : Door} (h : d.Exact cap) {s : SocketId} {ip : String}
    (hnew : s ∉ d.connected) (hroom : (d.counts.get? ip).getD 0 + 1 ≤ cap) :
    (d.enter s ip).Exact cap := by
  have hperm : (ip :: d.addresses).Perm (d.enter s ip).addresses := by
    rw [addresses_enter hnew]
    exact (List.perm_append_singleton ip d.addresses).symm
  refine ⟨(h.counts.enter ip).perm hperm, ?_, fun s' => ?_, fun ip' => ?_⟩
  · exact List.nodup_append.2 ⟨h.nodup, List.nodup_singleton s, fun s₁ h₁ s₂ h₂ heq =>
      hnew (List.mem_singleton.1 h₂ ▸ heq ▸ h₁)⟩
  · rw [Door.enter]
    dsimp only
    rw [List.mem_append, List.mem_singleton, Function.update_apply]
    by_cases hs : s' = s
    · simp [hs]
    · simp [hs, h.holds s']
  · rw [← hperm.count_eq, List.count_cons]
    rw [h.counts.getD] at hroom
    have hcap := h.capped ip'
    split
    next heq =>
      rw [← beq_iff_eq.1 heq]
      exact hroom
    next => exact hcap

/-- Counts that read the same are as exact. -/
theorem Exact.of_counts {cap : ℕ} {d d' : Door} (h : d.Exact cap)
    (hconnected : d'.connected = d.connected) (hslot : d'.slot = d.slot)
    (hcounts : ∀ ip, d'.counts.get? ip = d.counts.get? ip) : d'.Exact cap := by
  have haddresses : d'.addresses = d.addresses := by rw [addresses, hconnected, hslot, addresses]
  refine ⟨fun ip => ?_, hconnected ▸ h.nodup, fun s => ?_, fun ip => haddresses ▸ h.capped ip⟩
  · rw [hcounts, haddresses]
    exact h.counts ip
  · rw [hslot, hconnected]
    exact h.holds s

end Door

namespace RelayServer

/-- The addresses of the connected sockets, from their connection handlers. -/
def socketAddresses (st : RelayServer V) : List String :=
  st.sockets.keys.filterMap fun s => (st.sessions.get? s).map (·.clientIp)

theorem door_addresses (st : RelayServer V) : st.door.addresses = st.socketAddresses := by
  unfold Door.addresses socketAddresses door
  dsimp only
  congr 1
  funext s
  rw [Option.map_map]
  rfl

/-- Sockets that leave keep the counts exact. -/
theorem exact_empties {cap : ℕ} {d d' : Door} (h : d.Exact cap) (hempties : Empties d d') :
    d'.Exact cap := by
  obtain ⟨leaving, rfl⟩ := hempties
  induction leaving generalizing d with
  | nil => exact h
  | cons s leaving ih => exact ih (h.leave s)

/-- A socket that was never seen is not connected. -/
theorem not_connected {cap : ℕ} {st : RelayServer V} (h : st.door.Exact cap) {s : SocketId}
    (hnew : st.sessions.has s = false) : s ∉ st.door.connected := by
  intro hmem
  obtain ⟨ip, hip⟩ := (h.holds s).1 hmem
  rw [JsMap.has_eq, Option.isSome_eq_false_iff, Option.isNone_iff_eq_none] at hnew
  simp [door, hnew] at hip

/-- Every event keeps the counts exact. -/
theorem exact_step [Unknown V] (cfg : Config) {st : RelayServer V}
    (h : st.door.Exact cfg.relayMaxSocketsPerIp) (input : Input V) :
    (st.step cfg input).door.Exact cfg.relayMaxSocketsPerIp := by
  by_cases hconnection : ∃ s clientIp clientsCount,
      input.event = .connection s clientIp clientsCount
  · obtain ⟨s, clientIp, clientsCount, hevent⟩ := hconnection
    unfold step
    rw [hevent]
    dsimp only
    split
    next => exact h
    next hnew =>
      have hgone := not_connected h (Bool.not_eq_true _ ▸ hnew)
      cases hadmits : st.admits cfg input.now clientIp clientsCount with
      | true =>
        have htake := takeSlot_admitted (Bool.and_eq_true_iff.1 hadmits).2
        rw [door_onConnection_admitted ((JsMap.has_eq_false_iff _ _).2 hgone) hadmits]
        exact h.enter hgone htake.2
      | false =>
        obtain ⟨hconnected, hslots, hcounts⟩ := door_onConnection_refused h.counts hadmits
        exact h.of_counts hconnected hslots hcounts
  · exact exact_empties h (door_step cfg st input fun s clientIp clientsCount hevent =>
      hconnection ⟨s, clientIp, clientsCount, hevent⟩)

end RelayServer

namespace EngineServer

variable {cfg : Config} {st : EngineServer V}

/-- An admission does not touch the door. -/
theorem door_admitEngineRequest (cfg : Config) (now : ℕ) (st : EngineServer V)
    (req : EngineRequest) :
    (st.admitEngineRequest cfg now req).2.relay.door = st.relay.door := by
  unfold admitEngineRequest
  split
  · rfl
  · dsimp only
    split
    · rfl
    · split
      · rfl
      · split <;> rfl

/-- Both counts are exact. -/
structure SlotCounts (cfg : Config) (st : EngineServer V) : Prop where
  counted : Counted st
  door : st.relay.door.Exact cfg.relayMaxSocketsPerIp

/-- Every event keeps the counts. -/
theorem SlotCounts.step [Unknown V] (h : SlotCounts cfg st) (event : EngineEvent V) :
    SlotCounts cfg (EngineServer.step cfg st event) := by
  cases event with
  | request now id req =>
    unfold EngineServer.step
    dsimp only
    split
    · exact h
    next hknown =>
      rw [Bool.not_eq_true, Bool.or_eq_false_iff] at hknown
      have hstate := admitEngineRequest_state cfg now st req
      have hdoor := door_admitEngineRequest cfg now st req
      split
      next st' hout =>
        rw [hout] at hstate hdoor
        dsimp only at hstate hdoor
        rw [hstate]
        exact ⟨⟨h.counted.byIp, h.counted.total, h.counted.fresh⟩, hdoor ▸ h.door⟩
      next st' hout =>
        rw [hout] at hstate hdoor
        dsimp only at hstate hdoor
        rw [hstate]
        refine ⟨⟨h.counted.byIp, h.counted.total, fun id' hopen => ?_⟩, hdoor ▸ h.door⟩
        dsimp only at hopen ⊢
        rw [JsMap.get?_set_of_ne]
        · exact h.counted.fresh id' hopen
        · rintro rfl
          rw [hknown.2] at hopen
          cases hopen
  | connection id =>
    unfold EngineServer.step
    dsimp only
    split
    · exact h
    next req hget => exact ⟨(h.counted.connection hget).1, h.door⟩
  | close id =>
    unfold EngineServer.step
    dsimp only
    split
    · exact h
    next ip hget => exact ⟨(h.counted.close hget).1, h.door⟩
  | relay input =>
    exact ⟨⟨h.counted.byIp, h.counted.total, h.counted.fresh⟩,
      RelayServer.exact_step cfg h.door input⟩

/-- In every state of a run, every address counts its connected sockets. -/
theorem slotCounts_after [Unknown V] (cfg : Config) (events : List (EngineEvent V)) :
    SlotCounts cfg (after cfg events) :=
  Runs.run_invariant (fun _ event h => h.step event) events
    ⟨counted_create cfg, Door.exact_create _⟩

/-- The counts of sockets and of sessions are exact, a refused socket leaves no count behind, and
a socket gives its slot back once. -/
structure SlotsExact [Unknown V] (cfg : Config) (st : EngineServer V) : Prop where
  sockets : st.relay.activeSocketsByIp.Tallies st.relay.socketAddresses
  handled : ∀ s, st.relay.sockets.has s = true → (st.relay.sessions.get? s).isSome = true
  capped : ∀ ip n, st.relay.activeSocketsByIp.get? ip = some n → n ≤ cfg.relayMaxSocketsPerIp
  sessions : st.engineSessionsByIp.Tallies st.sessions.values
  admitted : ∀ now s clientIp clientsCount, st.relay.sessions.has s = false →
    st.relay.admits cfg now clientIp clientsCount = true →
    (st.relay.step cfg ⟨now, .connection s clientIp clientsCount⟩).socketAddresses =
      st.relay.socketAddresses ++ [clientIp]
  refused : ∀ now s clientIp clientsCount, st.relay.admits cfg now clientIp clientsCount = false →
    ∀ ip, (st.relay.step cfg ⟨now, .connection s clientIp clientsCount⟩).activeSocketsByIp.get? ip =
      st.relay.activeSocketsByIp.get? ip
  gone : ∀ now s session, st.relay.sockets.has s = true →
    st.relay.sessions.get? s = some session →
    st.relay.socketAddresses.Perm
      (session.clientIp :: (st.relay.disconnect now s).socketAddresses)
  once : ∀ now s, ((st.relay.disconnect now s).releaseSocketCounter s).activeSocketsByIp =
    (st.relay.disconnect now s).activeSocketsByIp

/-- In every run the counts of sockets and sessions are exact. -/
theorem slots_exact [Unknown V] (cfg : Config) (events : List (EngineEvent V)) :
    SlotsExact cfg (after cfg events) := by
  have h := slotCounts_after cfg events
  set st := after cfg events
  have htallies : st.relay.activeSocketsByIp.Tallies st.relay.socketAddresses :=
    RelayServer.door_addresses st.relay ▸ h.door.counts
  have hslot : ∀ s, st.relay.sockets.has s = true → ∃ session,
      st.relay.sessions.get? s = some session ∧
        st.relay.door.slot s = some (session.clientIp, false) := by
    intro s hs
    obtain ⟨ip, hip⟩ := (h.door.holds s).1 ((st.relay.sockets.has_iff_mem_keys s).1 hs)
    obtain ⟨session, hsession, heq⟩ := Option.map_eq_some_iff.1 hip
    rw [Prod.mk.injEq] at heq
    exact ⟨session, hsession, heq.1 ▸ hip⟩
  refine ⟨htallies, fun s hs => ?_, fun ip n hn => ?_, h.counted.byIp,
    fun now s clientIp clientsCount hnew hadmits => ?_,
    fun now s clientIp clientsCount hrefused ip => ?_, fun now s session hs hsession => ?_,
    fun now s => ?_⟩
  · obtain ⟨session, hsession, -⟩ := hslot s hs
    rw [hsession]
    rfl
  · rw [htallies ip] at hn
    split at hn
    · cases hn
    · rw [← Option.some.inj hn, ← RelayServer.door_addresses]
      exact h.door.capped ip
  · have hgone := RelayServer.not_connected h.door hnew
    rw [← RelayServer.door_addresses, ← RelayServer.door_addresses, RelayServer.step]
    dsimp only
    rw [hnew, if_neg Bool.false_ne_true, RelayServer.door_onConnection_admitted
      ((JsMap.has_eq_false_iff _ _).2 hgone) hadmits, Door.addresses_enter hgone]
  · rw [RelayServer.step]
    dsimp only
    split
    · rfl
    · exact (RelayServer.door_onConnection_refused h.door.counts hrefused).2.2 ip
  · obtain ⟨session', hsession', hopen⟩ := hslot s hs
    obtain rfl : session = session' := Option.some.inj (hsession.symm.trans hsession')
    rw [← RelayServer.door_addresses, ← RelayServer.door_addresses, RelayServer.door_disconnect]
    exact Door.addresses_leave ((st.relay.sockets.has_iff_mem_keys s).1 hs) hopen
  · have hcounts := congrArg Door.counts (h.door.release_leave s)
    rwa [← RelayServer.door_disconnect now, ← RelayServer.door_releaseSocketCounter] at hcounts

/-- Two sockets of an address, a third one refused by the cap, and one that leaves twice : one
socket is counted. -/
example :
    let cfg := { Config.unset with relayMaxSocketsPerIp := 2, relayMaxActiveSockets := 9 }
    let st := after cfg ([.relay ⟨0, .connection 1 "a" 1⟩, .relay ⟨0, .connection 2 "a" 2⟩,
      .relay ⟨0, .connection 3 "a" 3⟩, .relay ⟨1, .disconnect 1⟩, .relay ⟨1, .disconnect 1⟩] :
        List (EngineEvent String))
    st.relay.activeSocketsByIp.entries = [("a", 1)] ∧ st.relay.socketAddresses = ["a"] := by
  decide

end EngineServer

end QrlBackend
