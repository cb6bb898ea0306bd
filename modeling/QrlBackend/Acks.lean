import QrlBackend.Callbacks
import QrlBackend.RelayServer
import QrlBackend.RoutingEffects

/-!
# Acks

A client may ask for an ack of each event it sends. The handlers of `relay/relayServer.ts` write
it as they end, and all of them but `join_channel` end in the turn they start in. `Counter` is
what a client and its acks are for the relay, and `Service` has a constructor for each way an
event can change it. So the relay serves its clients as `Callbacks` says, and every ack of a run
belongs to one request (`requests_acked_once`).

A message can disconnect sockets, but never its sender.
-/

set_option autoImplicit false

namespace QrlBackend

variable {V : Type}

/-- The response in an ack packet. -/
def Packet.response? : Packet V → Option (Response V)
  | .ack response => some response
  | _ => none

/-- The socket whose client sent the event, and whether it wants an ack. -/
def Event.request? : Event V → Option (SocketId × Bool)
  | .joinChannel s _ ack _ => some (s, ack)
  | .message s _ ack _ => some (s, ack)
  | .leaveChannel s _ ack => some (s, ack)
  | .closeChannel s _ ack => some (s, ack)
  | .ping s ack => some (s, ack)
  | _ => none

/-- The event asks to join a channel. -/
def Event.Joins (event : Event V) : Prop := ∃ s payload ack resolves,
  event = .joinChannel s payload ack resolves

/-- What may answer an event : a failure, or the success of its handler. -/
inductive Answers (input : Input V) : Response V → Prop
  | failed (error : String) : Answers input (.failed error)
  | joined (hevent : input.event.Joins) (bufferedMessages : List (RelayPayload V))
      (channelPublicKey : Option String) (participants : List ClientType) (terminated : Bool) :
      Answers input (.joined bufferedMessages channelPublicKey participants terminated)
  | routed {s : SocketId} {payload : MessagePayload V} {ack : Bool}
      (hevent : input.event = .message s payload ack input.bufferedAt) (buffered : Bool) :
      Answers input (.routed buffered)
  | left {s : SocketId} {requested : Narrowed} {ack : Bool}
      (hevent : input.event = .leaveChannel s requested ack) : Answers input .left
  | closed {s : SocketId} {requested : Narrowed} {ack : Bool}
      (hevent : input.event = .closeChannel s requested ack) : Answers input .closed
  | closeFailed {s : SocketId} {requested : Narrowed} {ack : Bool}
      (hevent : input.event = .closeChannel s requested ack) (error : String) :
      Answers input (.closeFailed error)
  | pong {s : SocketId} {ack : Bool} (hevent : input.event = .ping s ack) :
      Answers input (.pong input.now)

/-- Who is connected, who has a join open, and which acks were written. -/
structure Counter (V : Type) where
  online : SocketId → Bool
  /-- Whether an ack is owed for a suspended join, for each socket there has been. -/
  owed : SocketId → Option Bool
  acks : SocketId → List (Response V)

namespace Counter

/-- An ack, if it is wanted and the socket is connected. -/
def reply (c : Counter V) (s : SocketId) (ack : Bool) (response : Response V) : Counter V :=
  { c with acks := fun x =>
      if x = s ∧ ack = true ∧ c.online s = true then c.acks x ++ [response] else c.acks x }

/-- A join that is suspended, or none. -/
def hold (c : Counter V) (s : SocketId) (ack : Bool) : Counter V :=
  { c with owed := Function.update c.owed s (some ack) }

/-- Sockets go away. -/
def without (c : Counter V) (away : List SocketId) : Counter V :=
  { c with online := fun x => c.online x && decide (x ∉ away) }

@[simp] theorem without_nil (c : Counter V) : c.without [] = c := by
  simp [without]

theorem without_without (c : Counter V) (away away' : List SocketId) :
    (c.without away).without away' = c.without (away ++ away') := by
  simp only [without, Counter.mk.injEq, and_true]
  funext x
  simp [Bool.and_assoc]

theorem hold_eq_self {c : Counter V} {s : SocketId} {ack : Bool} (h : c.owed s = some ack) :
    c.hold s ack = c := by
  simp [hold, ← h]

/-- The socket can answer, or wait with what it was asked. -/
inductive Proceeds (c : Counter V) (s : SocketId) (ack : Bool) : Counter V → Prop
  | waits : Proceeds c s ack (c.hold s ack)
  | ends {response : Response V} (hjoin : ∀ input : Input V, input.event.Joins →
      Answers input response) : Proceeds c s ack ((c.hold s false).reply s ack response)

/-- Whoever is connected has a session. -/
def Attended (c : Counter V) : Prop := ∀ s, c.online s = true → (c.owed s).isSome = true

/-- Where a client stands. -/
def phase (c : Counter V) (x : SocketId) : Callbacks.Phase :=
  if c.online x then if c.owed x = some true then .waiting else .idle
  else if (c.owed x).isSome then .gone else .absent

theorem phase_congr {c c' : Counter V} {x : SocketId} (honline : c'.online x = c.online x)
    (howed : c'.owed x = c.owed x) : c'.phase x = c.phase x := by
  rw [phase, phase, honline, howed]

/-- A connected client waits for the ack of a join, or for none. -/
theorem phase_online {c : Counter V} {x : SocketId} (h : c.online x = true) :
    c.phase x = .idle ∨ c.phase x = .waiting := by
  unfold phase
  rw [if_pos h]
  split
  · exact .inr rfl
  · exact .inl rfl

/-- A client that has had a session and is not connected is gone. -/
theorem phase_offline {c : Counter V} {x : SocketId} (h : c.online x = false)
    (howed : (c.owed x).isSome = true) : c.phase x = .gone := by
  rw [phase, if_neg (by simp [h]), if_pos howed]

/-- A handler that goes on disconnects nobody. -/
theorem Proceeds.online {c c' : Counter V} {s : SocketId} {ack : Bool} (h : c.Proceeds s ack c') :
    c'.online = c.online := by
  cases h <;> rfl

/-- The other clients do not notice. -/
theorem Proceeds.other {c c' : Counter V} {s : SocketId} {ack : Bool} (h : c.Proceeds s ack c')
    {x : SocketId} (hx : x ≠ s) : c'.owed x = c.owed x ∧ c'.acks x = c.acks x := by
  cases h with
  | waits => exact ⟨Function.update_of_ne hx _ _, rfl⟩
  | ends => exact ⟨Function.update_of_ne hx _ _, if_neg fun h => hx h.1⟩

/-- Nor does it end a session. -/
theorem Proceeds.isSome {c c' : Counter V} {s : SocketId} {ack : Bool} (h : c.Proceeds s ack c')
    {x : SocketId} (hx : (c.owed x).isSome = true) : (c'.owed x).isSome = true := by
  by_cases hs : x = s
  · subst hs
    cases h <;> simp [hold, reply]
  · rw [(h.other hs).1, hx]

end Counter

namespace RelayServer

/-- Whether an ack is owed for the join of a session. -/
def owes (session : Session V) : Bool := session.joining.any (·.request.ack)

/-- The acks written to a socket. -/
def acks (st : RelayServer V) (s : SocketId) : List (Response V) :=
  (st.sent.filter fun e => e.1 = s).filterMap (·.2.response?)

/-- The acks of the relay's state. -/
def counter (st : RelayServer V) : Counter V where
  online s := st.sockets.has s
  owed s := (st.sessions.get? s).map owes
  acks := st.acks

/-! ## The counter under the operations of the relay -/

/-- Connections, sessions and packets are all that the counter has. -/
theorem counter_eq {st st' : RelayServer V} (hsock : ∀ s, st'.sockets.has s = st.sockets.has s)
    (hses : ∀ s, (st'.sessions.get? s).map owes = (st.sessions.get? s).map owes)
    (hsent : st'.sent = st.sent) : st'.counter = st.counter := by
  have hacks : st'.acks = st.acks := by
    unfold acks
    rw [hsent]
  simp only [counter, hacks, Counter.mk.injEq, and_true]
  exact ⟨funext hsock, funext hses⟩

theorem has_set {K W : Type} [DecidableEq K] {m : JsMap K W} {k : K} {w w' : W}
    (h : m.get? k = some w) (k' : K) : (m.set k w').has k' = m.has k' := by
  rw [JsMap.has_eq, JsMap.has_eq, JsMap.get?_set]
  split
  next hk =>
    subst hk
    rw [h]
    rfl
  next => rfl

/-- A packet adds to the acks of its socket, if it is one. -/
theorem acks_snoc (st : RelayServer V) (s : SocketId) (packet : Packet V) (x : SocketId) :
    ((st.sent ++ [(s, packet)]).filter fun e => e.1 = x).filterMap (·.2.response?) =
      if x = s then st.acks x ++ packet.response?.toList else st.acks x := by
  rw [List.filter_append, List.filterMap_append, List.filter_singleton]
  by_cases hx : x = s
  · subst hx
    cases hresponse : packet.response? <;> simp [acks, hresponse]
  · simp [acks, hx, Ne.symm hx]

/-- A packet that is no ack does not count. -/
theorem counter_emit (st : RelayServer V) (s : SocketId) {packet : Packet V}
    (h : packet.response? = none) : (st.emit s packet).counter = st.counter := by
  unfold emit
  cases hsock : st.sockets.get? s with
  | none => rfl
  | some socket =>
    simp only [counter, Counter.mk.injEq, true_and]
    refine ⟨funext fun x => has_set hsock x, funext fun x => ?_⟩
    exact (acks_snoc st s packet x).trans (by simp [h])

theorem counter_emitVolatile (st : RelayServer V) (s : SocketId) {packet : Packet V}
    (h : packet.response? = none) : (st.emitVolatile s packet).counter = st.counter := by
  unfold emitVolatile
  split
  · exact counter_emit st s h
  · rfl

/-- A response counts if an ack is wanted and the socket is connected. -/
theorem counter_respond (st : RelayServer V) (s : SocketId) (ack : Bool) (response : Response V) :
    (st.respond s ack response).counter = st.counter.reply s ack response := by
  unfold respond
  cases ack with
  | false => simp [Counter.reply]
  | true =>
    rw [if_pos rfl]
    unfold emit
    cases hsock : st.sockets.get? s with
    | none =>
      have hoff : st.counter.online s = false := by simp [counter, JsMap.has_eq, hsock]
      simp [Counter.reply, hoff]
    | some socket =>
      have hon : st.counter.online s = true := by simp [counter, JsMap.has_eq, hsock]
      simp only [Counter.reply, hon, and_self, and_true]
      simp only [counter, Counter.mk.injEq, true_and]
      refine ⟨funext fun x => has_set hsock x, funext fun x => ?_⟩
      exact acks_snoc st s (.ack response) x

theorem counter_broadcast (st : RelayServer V) (s : SocketId) (room : String) {packet : Packet V}
    (h : packet.response? = none) : (st.broadcast s room packet).counter = st.counter := by
  have hall : ∀ (receivers : List SocketId) (st : RelayServer V),
      (receivers.foldl (fun st receiver => st.emit receiver packet) st).counter = st.counter := by
    intro receivers
    induction receivers with
    | nil => exact fun st => rfl
    | cons receiver receivers ih =>
      intro st
      rw [List.foldl_cons, ih, counter_emit _ _ h]
  exact hall _ st

/-- Presence events are no acks. -/
theorem counter_notifyLeft (st : RelayServer V) (s : SocketId) (channelId : String)
    (event : PresenceEvent) (participant : Option Participant) :
    (st.notifyLeft s channelId event participant).counter = st.counter := by
  cases participant with
  | none => rfl
  | some participant => exact counter_broadcast _ _ _ rfl

theorem counter_setSocket {st : RelayServer V} {s : SocketId} {socket : Socket}
    (h : st.sockets.get? s = some socket) (socket' : Socket) :
    ({ st with sockets := st.sockets.set s socket' } : RelayServer V).counter = st.counter :=
  counter_eq (has_set h) (fun _ => rfl) rfl

/-- Rooms do not count. -/
theorem counter_joinRoom (st : RelayServer V) (s : SocketId) (room : String) (resolves : Bool) :
    (st.joinRoom s room resolves).counter = st.counter := by
  unfold joinRoom
  cases h : st.sockets.get? s with
  | none => rfl
  | some socket =>
    cases resolves with
    | false => rfl
    | true => exact counter_setSocket h _

theorem counter_leaveRoom (st : RelayServer V) (s : SocketId) (room : String) (resolves : Bool) :
    (st.leaveRoom s room resolves).counter = st.counter := by
  unfold leaveRoom
  cases h : st.sockets.get? s with
  | none => rfl
  | some socket =>
    cases resolves with
    | false => rfl
    | true => exact counter_setSocket h _

/-- Nor do transports. -/
theorem counter_modifySocket (st : RelayServer V) (s : SocketId) (f : Socket → Socket) :
    (st.modifySocket s f).counter = st.counter := by
  unfold modifySocket
  cases h : st.sockets.get? s with
  | none => rfl
  | some socket => exact counter_setSocket h _

/-- A session may change if it owes what it owed. -/
theorem counter_modifySession (st : RelayServer V) (s : SocketId) {f : Session V → Session V}
    (hf : ∀ session, owes (f session) = owes session) :
    (st.modifySession s f).counter = st.counter := by
  unfold modifySession
  cases h : st.sessions.get? s with
  | none => rfl
  | some session =>
    refine counter_eq (fun _ => rfl) (fun x => ?_) rfl
    dsimp only
    rw [JsMap.get?_set]
    split
    next hx =>
      subst hx
      rw [h, Option.map_some, Option.map_some, hf]
    next => rfl

/-- A session whose join is suspended, or at an end. -/
theorem counter_setJoining {st : RelayServer V} {s : SocketId} {ack : Bool}
    (h : st.counter.owed s = some ack) {joining : Option (PendingJoin V)} {ack' : Bool}
    (hack : joining.any (·.request.ack) = ack') :
    (st.modifySession s fun session => { session with joining := joining }).counter =
      st.counter.hold s ack' := by
  unfold modifySession
  obtain ⟨session, hses, -⟩ := Option.map_eq_some_iff.1 h
  rw [hses]
  simp only [counter, Counter.hold, Counter.mk.injEq, true_and]
  refine ⟨funext fun x => ?_, rfl⟩
  rw [JsMap.get?_set, Function.update_apply]
  split
  · rw [Option.map_some, owes, hack]
  · rfl

/-- A suspended join owes its ack. -/
theorem counter_suspend {st : RelayServer V} {s : SocketId} {ack : Bool}
    (h : st.counter.owed s = some ack) (request : JoinRequest) (stage : Stage V) :
    (st.suspend s request stage).counter = st.counter.hold s request.ack :=
  counter_setJoining h rfl

/-- A join that ends owes no ack any more, and gives it. -/
theorem counter_endJoin {st : RelayServer V} {s : SocketId} {ack : Bool}
    (h : st.counter.owed s = some ack) (request : JoinRequest) (response : Response V) :
    (st.endJoin s request response).counter =
      (st.counter.hold s false).reply s request.ack response := by
  have hheld : (st.modifySession s fun session => { session with joining := none }).counter =
      st.counter.hold s false :=
    counter_setJoining h rfl
  rw [endJoin, counter_respond, hheld]

theorem counter_releaseSocketCounter (st : RelayServer V) (s : SocketId) :
    (st.releaseSocketCounter s).counter = st.counter := by
  unfold releaseSocketCounter
  split
  · rfl
  · split
    · rfl
    · exact counter_modifySession st s fun _ => rfl

theorem counter_onDisconnect (now : ℕ) (st : RelayServer V) (s : SocketId) :
    (st.onDisconnect now s).counter = st.counter := by
  have hreleased : ((st.releaseSocketCounter s).releaseDirectDelivery s).counter = st.counter :=
    counter_releaseSocketCounter st s
  unfold onDisconnect
  dsimp only
  split
  · exact hreleased
  · rw [counter_notifyLeft]
    exact hreleased

/-- Whom the relay disconnects is away. -/
theorem counter_disconnect (now : ℕ) (st : RelayServer V) (s : SocketId) :
    (st.disconnect now s).counter = st.counter.without [s] := by
  unfold disconnect
  cases h : st.sockets.get? s with
  | none =>
    dsimp only
    simp only [Counter.without, counter, Counter.mk.injEq, and_true]
    funext x
    by_cases hx : x = s
    · simp [hx, JsMap.has_eq, h]
    · simp [hx]
  | some socket =>
    dsimp only
    rw [counter_onDisconnect]
    refine Counter.mk.injEq .. ▸ ⟨funext fun x => ?_, rfl, rfl⟩
    change (st.sockets.delete s).has x = (st.sockets.has x && decide (x ∉ [s]))
    rw [JsMap.has_eq, JsMap.has_eq, JsMap.get?_delete]
    by_cases hx : x = s
    · simp [hx]
    · simp [hx]

/-- At most the slow target is disconnected. -/
theorem counter_disconnectSlow (now : ℕ) (st : RelayServer V) (target : Option SocketId) :
    ∃ away : List SocketId, (∀ s ∈ away, target = some s) ∧
      (st.disconnectSlow now target).counter = st.counter.without away := by
  unfold disconnectSlow
  cases target with
  | none => exact ⟨[], List.forall_mem_nil _, st.counter.without_nil.symm⟩
  | some target =>
    dsimp only
    split
    · exact ⟨[], List.forall_mem_nil _, st.counter.without_nil.symm⟩
    · refine ⟨[target], fun s hs => ?_, counter_disconnect now st target⟩
      rw [List.mem_singleton.1 hs]

theorem counter_armDirectDelivery (st : RelayServer V) (s : SocketId) :
    (st.armDirectDelivery s).2.counter = st.counter := by
  unfold armDirectDelivery
  split
  · rfl
  · split <;> rfl

/-- A ready transport may be found closed. -/
theorem counter_onReady (now : ℕ) (st : RelayServer V) (s : SocketId) :
    ∃ away, (st.onReady now s).counter = st.counter.without away := by
  have hnone : st.counter = st.counter.without [] := st.counter.without_nil.symm
  unfold onReady
  dsimp only
  split
  · exact ⟨[], hnone⟩
  · split
    · exact ⟨[], hnone⟩
    · set st₁ : RelayServer V := { st with
        directTransportListeners := st.directTransportListeners.delete s } with hst₁
      have harm : (st₁.armDirectDelivery s).2.counter = st.counter :=
        counter_armDirectDelivery st₁ s
      generalize st₁.armDirectDelivery s = armed at harm
      obtain ⟨armed, st₂⟩ := armed
      dsimp only at harm
      cases armed with
      | false =>
        refine ⟨[s], ?_⟩
        dsimp only
        rw [counter_disconnect, ← harm]
        rfl
      | true =>
        refine ⟨[], ?_⟩
        rw [← hnone, ← harm]
        dsimp only
        split
        · rfl
        · exact counter_emitVolatile _ _ rfl

theorem counter_fire (now : ℕ) (st : RelayServer V) (s : SocketId) (event : TransportEvent) :
    ∃ away, (st.fire now s event).counter = st.counter.without away := by
  have hnone : st.counter = st.counter.without [] := st.counter.without_nil.symm
  unfold fire
  split
  · exact ⟨[], hnone⟩
  · split
    · cases event with
      | drain => exact ⟨[], hnone⟩
      | ready => exact counter_onReady now st s
    · exact ⟨[], hnone⟩

/-! ## Joining -/

section Joining

variable {st : RelayServer V} {s : SocketId} {owed : Bool}

/-- A handler that is suspended waits. -/
theorem proceeds_waits (howed : st.counter.owed s = some owed) (request : JoinRequest)
    (stage : Stage V) : st.counter.Proceeds s request.ack (st.suspend s request stage).counter := by
  rw [counter_suspend howed]
  exact .waits

/-- A handler that ends has answered. -/
theorem proceeds_ends (howed : st.counter.owed s = some owed) (request : JoinRequest)
    {response : Response V} (hjoin : ∀ input : Input V, input.event.Joins →
      Answers input response) :
    st.counter.Proceeds s request.ack (st.endJoin s request response).counter := by
  rw [counter_endJoin howed]
  exact .ends hjoin

theorem proceeds_finishJoin (howed : st.counter.owed s = some owed) (request : JoinRequest)
    (bufferedMessages : List (RelayPayload V)) (key : Option String)
    (participants : List ClientType) : st.counter.Proceeds s request.ack
      (st.finishJoin s request bufferedMessages key participants).counter := by
  set st₁ : RelayServer V := (st.modifySession s fun session =>
    { session with currentChannelId := some request.channelId }).broadcast s request.channelId
      (.participantsChanged .join request.clientType) with hst₁
  have hcounter : st₁.counter = st.counter :=
    (counter_broadcast _ _ _ rfl).trans (counter_modifySession st s fun _ => rfl)
  rw [← hcounter] at howed ⊢
  exact proceeds_ends howed request fun _ hevent => .joined hevent _ _ _ _

theorem proceeds_leaveRoom (howed : st.counter.owed s = some owed) (request : JoinRequest)
    (room : String) (resolves : Bool) (stage : Stage V) : st.counter.Proceeds s request.ack
      ((st.leaveRoom s room resolves).suspend s request stage).counter := by
  have hcounter := counter_leaveRoom st s room resolves
  rw [← hcounter] at howed ⊢
  exact proceeds_waits howed request stage

/-- A join that is undone waits for the room it leaves, or has failed. -/
theorem proceeds_abortJoin (howed : st.counter.owed s = some owed) (now : ℕ)
    (request : JoinRequest) (joinedManager resolves : Bool) : st.counter.Proceeds s request.ack
      (st.abortJoin now s request joinedManager resolves).counter := by
  have habort : ∀ st' : RelayServer V, st'.counter = st.counter → st.counter.Proceeds s request.ack
      (if request.joinedRoom then
        (st'.leaveRoom s request.channelId resolves).suspend s request .undoing
      else st'.endJoin s request (.failed "Unable to join channel")).counter := by
    intro st' hcounter
    rw [← hcounter] at howed ⊢
    split
    · exact proceeds_leaveRoom howed request _ resolves _
    · exact proceeds_ends howed request fun _ _ => .failed _
  unfold abortJoin
  cases joinedManager with
  | false => exact habort st rfl
  | true => exact habort { st with channelManager := _ } rfl

/-- The call of the manager leads to a wait or an answer. -/
theorem proceeds_enterChannel (howed : st.counter.owed s = some owed) (now : ℕ)
    (session : Session V) (request : JoinRequest) (resolves : Bool) :
    st.counter.Proceeds s request.ack
      (st.enterChannel now s session request resolves).counter := by
  unfold enterChannel
  split
  next error m _ =>
    have howed' : ({ st with channelManager := m } : RelayServer V).counter.owed s = some owed :=
      howed
    dsimp only
    split
    · exact proceeds_leaveRoom howed' request _ resolves _
    · exact proceeds_ends howed' request fun _ _ => .failed _
  next messages key roster terminated m _ =>
    have howed' : ({ st with channelManager := m } : RelayServer V).counter.owed s = some owed :=
      howed
    dsimp only
    split
    · split
      · exact proceeds_leaveRoom howed' request _ resolves _
      · exact proceeds_ends howed' request fun _ hevent => .joined hevent _ _ _ _
    · split
      · exact proceeds_finishJoin howed' request _ _ _
      next previous _ =>
        set left := m.leave now s previous with hleft
        have hcounter : (({ st with channelManager := left.2 } : RelayServer V).notifyLeft s
            previous .leave left.1).counter = st.counter :=
          counter_notifyLeft _ _ _ _ _
        have h := @proceeds_leaveRoom V _ s owed (hcounter ▸ howed) request previous resolves
          (.leavingPrevious messages key roster resolves)
        rwa [hcounter] at h

/-- And so does every turn of a suspended join. -/
theorem proceeds_onResume (howed : st.counter.owed s = some owed) (now : ℕ)
    (session : Session V) (pending : PendingJoin V) (resolves : Bool) :
    st.counter.Proceeds s pending.request.ack
      (st.onResume now s session pending resolves).counter := by
  obtain ⟨request, stage⟩ := pending
  cases stage with
  | joiningRoom resolved =>
    cases resolved with
    | false => exact proceeds_abortJoin howed now request _ resolves
    | true =>
      exact proceeds_enterChannel howed now session { request with joinedRoom := true } resolves
  | leavingRefused error resolved =>
    cases resolved with
    | false => exact proceeds_abortJoin howed now request _ resolves
    | true => exact proceeds_ends howed request fun _ _ => .failed _
  | leavingTombstone resolved =>
    cases resolved with
    | false => exact proceeds_abortJoin howed now request _ resolves
    | true => exact proceeds_ends howed request fun _ hevent => .joined hevent _ _ _ _
  | leavingPrevious messages key roster resolved =>
    cases resolved with
    | false => exact proceeds_abortJoin howed now request _ resolves
    | true => exact proceeds_finishJoin howed request _ _ _
  | undoing => exact proceeds_ends howed request fun _ _ => .failed _

end Joining

/-! ## Messages -/

/-- The sockets a routing names are not the sender. -/
theorem named_ne [Unknown V] {cfg : Config} {canSocketReceive : SocketId → Bool}
    {now bufferedAt : ℕ} {m : ChannelManager V} {channelId : String} {s : SocketId}
    {data : RelayPayload V} {sourceIp : String} {result : RouteResult}
    (h : (m.routeMessage cfg canSocketReceive now bufferedAt channelId s data sourceIp).1 = result)
    {target : SocketId} (htarget : result.backpressuredSocketId = some target ∨
      result.targetSocketId = some target) : target ≠ s := by
  have hne : ∀ {participants : JsMap SocketId Participant},
      ChannelManager.counterparty participants s = some target → target ≠ s :=
    fun hparty => (ChannelManager.counterparty_some hparty).1
  have hout := ChannelManager.routeMessage_outcome cfg canSocketReceive now bufferedAt m channelId s
    data sourceIp
  rw [h] at hout
  generalize (m.routeMessage cfg canSocketReceive now bufferedAt channelId s data sourceIp).2 = m'
    at hout
  cases hout with
  | refused => rcases htarget with htarget | htarget <;> cases htarget
  | refusedLate error named r hget hlive hsender hnamed =>
    rcases htarget with htarget | htarget
    · obtain rfl : named = some target := htarget
      rcases hnamed with hnamed | hnamed
      · cases hnamed
      · exact hne hnamed.symm
    · cases htarget
  | direct r sender named size hget hlive hsender htype hseq hsize hparty =>
    rcases htarget with htarget | htarget
    · cases htarget
    · obtain rfl : named = target := Option.some.inj htarget
      exact hne hparty
  | buffered r sender =>
    rcases htarget with htarget | htarget
    · exact hne htarget
    · cases htarget

/-- The sender of a message is answered, and may lose its counterparty. -/
theorem counter_relayMessage [Unknown V] (cfg : Config) {input : Input V} (st : RelayServer V)
    {s : SocketId} (session : Session V) {raw : MessagePayload V}
    (canonicalPayload : RelayPayload V) {ack : Bool}
    (hevent : input.event = .message s raw ack input.bufferedAt) :
    ∃ away response, s ∉ away ∧ Answers input response ∧
      (st.relayMessage cfg input.now input.bufferedAt s session canonicalPayload ack).counter =
        (st.counter.without away).reply s ack response := by
  have hne := @named_ne V _ cfg st.canSocketReceive input.now input.bufferedAt st.channelManager
    canonicalPayload.id s canonicalPayload session.clientIp
  unfold relayMessage
  generalize st.channelManager.routeMessage cfg st.canSocketReceive input.now input.bufferedAt
    canonicalPayload.id s canonicalPayload session.clientIp = routed at hne
  obtain ⟨result, m⟩ := routed
  dsimp only
  have hne := @hne result rfl
  obtain ⟨away, haway, hslow⟩ := counter_disconnectSlow input.now
    ({ st with channelManager := m } : RelayServer V) result.backpressuredSocketId
  have haway : s ∉ away := fun hs => hne (.inl (haway s hs)) rfl
  generalize ({ st with channelManager := m } : RelayServer V).disconnectSlow input.now
    result.backpressuredSocketId = st₁ at hslow ⊢
  have hslow : st₁.counter = st.counter.without away := hslow
  split
  next error _ =>
    refine ⟨away, .failed error, haway, .failed _, ?_⟩
    rw [counter_respond, hslow]
  next =>
    refine ⟨away, .routed result.buffered, haway, .routed hevent _, ?_⟩
    rw [counter_respond, ← hslow]
    rfl
  next target _ htarget =>
    have harm := counter_armDirectDelivery st₁ target
    generalize st₁.armDirectDelivery target = armed at harm
    obtain ⟨armed, st₂⟩ := armed
    dsimp only at harm
    cases armed with
    | false =>
      refine ⟨away ++ [target], .failed "Counterparty transport unavailable", ?_, .failed _, ?_⟩
      · simp only [List.mem_append, List.mem_singleton, not_or]
        exact ⟨haway, (hne (.inr htarget)).symm⟩
      · dsimp only
        rw [counter_respond, counter_disconnect, ← Counter.without_without, ← hslow, ← harm]
        rfl
    | true =>
      refine ⟨away, .routed result.buffered, haway, .routed hevent _, ?_⟩
      dsimp only
      have hemit := @counter_emitVolatile V st₂ target (.message canonicalPayload) rfl
      rw [counter_respond, ← hslow, ← harm, ← hemit]
      rfl

/-! ## Events -/

/-- What one event can make of the counter. -/
inductive Service (st : RelayServer V) (input : Input V) : Counter V → Prop
  /-- Nothing happens, and a client that sent the event is gone. -/
  | idle (hasks : ∀ s ack, input.event.request? = some (s, ack) → st.counter.online s = false) :
      Service st input st.counter
  | opened (s : SocketId) (hrequest : input.event.request? = none)
      (hnew : st.counter.owed s = none) : Service st input { st.counter with
        online := Function.update st.counter.online s true
        owed := Function.update st.counter.owed s (some false) }
  | dropped (away : List SocketId) (hrequest : input.event.request? = none) :
      Service st input (st.counter.without away)
  | answered (s : SocketId) (ack : Bool) (response : Response V) (away : List SocketId)
      (hrequest : input.event.request? = some (s, ack)) (hconn : st.counter.online s = true)
      (haway : s ∉ away) (hanswers : Answers input response) :
      Service st input ((st.counter.without away).reply s ack response)
  | joining (s : SocketId) (ack : Bool) (c : Counter V)
      (hrequest : input.event.request? = some (s, ack)) (hjoins : input.event.Joins)
      (hconn : st.counter.online s = true) (hfree : st.counter.owed s = some false)
      (h : st.counter.Proceeds s ack c) : Service st input c
  | resumed (s : SocketId) (ack : Bool) (c : Counter V) (hrequest : input.event.request? = none)
      (howed : st.counter.owed s = some ack) (h : st.counter.Proceeds s ack c) :
      Service st input c

section Events

variable {st : RelayServer V} {input : Input V} {s : SocketId}

/-- A handler that ends in an ack and disconnects nobody. -/
theorem service_respond {ack : Bool} (hrequest : input.event.request? = some (s, ack))
    (hconn : st.counter.online s = true) {response : Response V}
    (hanswers : Answers input response) {st' : RelayServer V} (hst' : st'.counter = st.counter) :
    Service st input (st'.respond s ack response).counter := by
  rw [counter_respond, hst', ← st.counter.without_nil]
  exact .answered s ack response [] hrequest hconn List.not_mem_nil hanswers

/-- A join is refused at once, answered, or suspended. -/
theorem service_onJoinChannel (cfg : Config) {session : Session V} {payload : JoinPayload}
    {ack resolves : Bool} (hevent : input.event = .joinChannel s payload ack resolves)
    (hconn : st.counter.online s = true) (hses : st.sessions.get? s = some session) :
    Service st input (st.onJoinChannel cfg input.now s session payload ack resolves).counter := by
  have hrequest : input.event.request? = some (s, ack) := by rw [hevent]; rfl
  have hjoins : input.event.Joins := ⟨s, payload, ack, resolves, hevent⟩
  unfold onJoinChannel
  split
  · exact service_respond hrequest hconn (.failed _) rfl
  next hbusy =>
  have hfree : st.counter.owed s = some false := by
    have hnone : session.joining = none := by simpa using hbusy
    simp [counter, hses, owes, hnone]
  dsimp only
  split
  · exact service_respond hrequest hconn (.failed _) rfl
  split
  · exact service_respond hrequest hconn (.failed _) rfl
  next channelId _ =>
  split
  · exact service_respond hrequest hconn (.failed _) rfl
  split
  · exact service_respond hrequest hconn (.failed _) rfl
  · exact service_respond hrequest hconn (.failed _) rfl
  next clientType publicKey _ _ =>
  set request : JoinRequest := ⟨channelId, clientType, publicKey,
    session.currentChannelId.any (· ≠ channelId), false, ack⟩ with hrequested
  set st₁ := (st.checkRateLimit input.now session.clientIp .join rateLimitMaxJoins).2 with hst₁
  refine .joining s ack _ hrequest hjoins hconn hfree ?_
  split
  · have hcounter : (st₁.joinRoom s channelId resolves).counter = st.counter :=
      counter_joinRoom st₁ s channelId resolves
    have h := @proceeds_waits V _ s false (hcounter ▸ hfree) request (.joiningRoom resolves)
    rwa [hcounter] at h
  · exact @proceeds_enterChannel V st₁ s false hfree input.now session request resolves

/-- A message is answered in its turn, whoever it disconnects. -/
theorem service_onMessage [Unknown V] (cfg : Config) {session : Session V}
    {payload : MessagePayload V} {ack : Bool}
    (hevent : input.event = .message s payload ack input.bufferedAt)
    (hconn : st.counter.online s = true) :
    Service st input
      (st.onMessage cfg input.now input.bufferedAt s session payload ack).counter := by
  have hrequest : input.event.request? = some (s, ack) := by rw [hevent]; rfl
  unfold onMessage
  dsimp only
  split
  · exact service_respond hrequest hconn (.failed _) rfl
  · split
    · exact service_respond hrequest hconn (.failed _) rfl
    next canonicalPayload _ =>
      obtain ⟨away, response, haway, hanswers, hcounter⟩ := counter_relayMessage cfg
        { (st.checkRateLimit input.now session.clientIp .message rateLimitMaxMessages).2 with
          payloads := st.payloads + 1 } session canonicalPayload hevent
      exact hcounter ▸ .answered s ack response away hrequest hconn haway hanswers

/-- A `leave_channel` is answered in its turn. -/
theorem service_onLeaveChannel {session : Session V} {requested : Narrowed} {ack : Bool}
    (hevent : input.event = .leaveChannel s requested ack) (hconn : st.counter.online s = true) :
    Service st input (st.onLeaveChannel input.now s session requested ack).counter := by
  have hrequest : input.event.request? = some (s, ack) := by rw [hevent]; rfl
  unfold onLeaveChannel
  dsimp only
  split
  · exact service_respond hrequest hconn (.failed _) rfl
  · refine service_respond hrequest hconn (.left hevent) ?_
    split
    · rfl
    · rw [counter_modifySession _ _ fun _ => ?_, counter_notifyLeft]
      · exact counter_leaveRoom _ _ _ _
      · split <;> rfl

/-- And so is a `close_channel`. -/
theorem service_onCloseChannel {session : Session V} {requested : Narrowed} {ack : Bool}
    (hevent : input.event = .closeChannel s requested ack) (hconn : st.counter.online s = true) :
    Service st input (st.onCloseChannel input.now s session requested ack).counter := by
  have hrequest : input.event.request? = some (s, ack) := by rw [hevent]; rfl
  unfold onCloseChannel
  dsimp only
  split
  · exact service_respond hrequest hconn (.failed _) rfl
  split
  · exact service_respond hrequest hconn (.closeFailed hevent _) rfl
  split
  · exact service_respond hrequest hconn (.closeFailed hevent _) rfl
  split
  · exact service_respond hrequest hconn (.closeFailed hevent _) rfl
  · refine service_respond hrequest hconn (.closed hevent) ?_
    rw [counter_modifySession _ _ fun _ => ?_, counter_broadcast _ _ _ rfl]
    · exact counter_leaveRoom _ _ _ _
    · split <;> rfl

theorem service_onPing {session : Session V} {ack : Bool} (hevent : input.event = .ping s ack)
    (hconn : st.counter.online s = true) :
    Service st input (st.onPing input.now s session ack).counter := by
  have hrequest : input.event.request? = some (s, ack) := by rw [hevent]; rfl
  unfold onPing
  dsimp only
  split
  · exact service_respond hrequest hconn (.failed _) rfl
  · exact service_respond hrequest hconn (.pong hevent) rfl

/-- A new socket has asked for nothing. -/
theorem service_onConnection (cfg : Config) (now : ℕ) {clientIp : String} {clientsCount : ℕ}
    (hevent : input.event = .connection s clientIp clientsCount)
    (hnew : st.sessions.has s = false) :
    Service st input (st.onConnection cfg now s clientIp clientsCount).counter := by
  have hrequest : input.event.request? = none := by rw [hevent]; rfl
  have hidle : Service st input st.counter :=
    .idle fun _ _ h => by cases hrequest.symm.trans h
  unfold onConnection
  dsimp only
  split
  · exact hidle
  split
  · exact hidle
  · have howed : st.counter.owed s = none := by
      rw [JsMap.has_eq, Option.isSome_eq_false_iff, Option.isNone_iff_eq_none] at hnew
      simp [counter, hnew]
    convert Service.opened s hrequest howed using 1
    simp only [counter, Counter.mk.injEq]
    refine ⟨funext fun x => ?_, funext fun x => ?_, rfl⟩
    · rw [JsMap.has_eq, JsMap.get?_set, Function.update_apply]
      split <;> rfl
    · rw [JsMap.get?_set, Function.update_apply]
      split <;> rfl

end Events

/-- Every event serves the clients. -/
theorem service_of_step [Unknown V] (cfg : Config) (st : RelayServer V) (input : Input V)
    (hattended : st.counter.Attended) : Service st input (step cfg st input).counter := by
  have hidle : input.event.request? = none → Service st input st.counter := fun hrequest =>
    .idle fun s ack h => by cases hrequest.symm.trans h
  have hquiet : input.event.request? = none → ∀ {away : List SocketId} {st' : RelayServer V},
      st'.counter = st.counter.without away → Service st input st'.counter :=
    fun hrequest _ _ hst' => hst' ▸ .dropped _ hrequest
  -- A client with a socket has a session.
  have hmissing : ∀ {s : SocketId} {ack : Bool}, input.event.request? = some (s, ack) →
      (∀ socket session, st.sockets.get? s = some socket →
        st.sessions.get? s = some session → False) → Service st input st.counter := by
    intro s ack hrequest hnone
    refine .idle fun s' ack' hrequest' => ?_
    cases hrequest.symm.trans hrequest'
    cases hsock : st.sockets.get? s with
    | none => simp [counter, JsMap.has_eq, hsock]
    | some socket =>
      cases hses : st.sessions.get? s with
      | none =>
        have howed := hattended s (by simp [counter, JsMap.has_eq, hsock])
        simp [counter, hses] at howed
      | some session => exact (hnone socket session hsock hses).elim
  have hconn : ∀ {s : SocketId} {socket : Socket}, st.sockets.get? s = some socket →
      st.counter.online s = true := fun hsock => by simp [counter, JsMap.has_eq, hsock]
  obtain ⟨now, event⟩ := input
  cases event with
  | connection s clientIp clientsCount =>
    unfold step
    dsimp only
    split
    · exact hidle rfl
    next hnew =>
      exact service_onConnection cfg now rfl (by simpa using hnew)
  | joinChannel s payload ack resolves =>
    unfold step
    dsimp only
    split
    next hsock hses => exact service_onJoinChannel cfg rfl (hconn hsock) hses
    next hnone => exact hmissing rfl hnone
  | resumeJoin s resolves =>
    unfold step
    dsimp only
    split
    · exact hidle rfl
    next session hses =>
      split
      · exact hidle rfl
      next pending hjoin =>
        have howed : st.counter.owed s = some pending.request.ack := by
          simp [counter, hses, owes, hjoin]
        exact .resumed s _ _ rfl howed (proceeds_onResume howed now session pending resolves)
  | message s payload ack bufferedAt =>
    unfold step
    dsimp only
    split
    next hsock hses => exact service_onMessage cfg rfl (hconn hsock)
    next hnone => exact hmissing rfl hnone
  | leaveChannel s requested ack =>
    unfold step
    dsimp only
    split
    next hsock hses => exact service_onLeaveChannel rfl (hconn hsock)
    next hnone => exact hmissing rfl hnone
  | closeChannel s requested ack =>
    unfold step
    dsimp only
    split
    next hsock hses => exact service_onCloseChannel rfl (hconn hsock)
    next hnone => exact hmissing rfl hnone
  | ping s ack =>
    unfold step
    dsimp only
    split
    next hsock hses => exact service_onPing rfl (hconn hsock)
    next hnone => exact hmissing rfl hnone
  | disconnect s => exact hquiet rfl (counter_disconnect now st s)
  | drain s =>
    obtain ⟨away, hfire⟩ := counter_fire now st s .drain
    exact hquiet rfl hfire
  | ready s consumed =>
    obtain ⟨away, hfire⟩ := counter_fire now
      (st.modifySocket s fun socket => { socket with writable := !consumed }) s .ready
    rw [counter_modifySocket] at hfire
    exact hquiet rfl hfire
  | controlPacket s =>
    have hsame := counter_modifySocket st s fun socket => { socket with writable := false }
    exact hsame ▸ hidle rfl
  | upgrade s writable =>
    have hsame := counter_modifySocket st s fun socket =>
      { socket with transport := st.transports, writable := writable }
    exact hsame ▸ hidle rfl
  | cleanup => exact hidle rfl
  | sweepRateLimits => exact hidle rfl

/-! ## The client's desk -/

/-- What there is to see of a client of the relay. -/
def desk (x : SocketId) : Callbacks.Desk (RelayServer V) (Input V) (Response V) where
  asks st input := input.event.request? = some (x, true) ∧ st.counter.online x = true
  slow input := input.event.Joins
  Answers := Answers
  phase st := st.counter.phase x
  answers st := st.counter.acks x

section Desk

variable {st : RelayServer V} {input : Input V} {x : SocketId}

/-- Nothing was asked of the desk, and the client is there as before or has gone. -/
theorem serves_of_away {st' : RelayServer V} {away : List SocketId}
    (hattended : st.counter.Attended)
    (hasks : ¬(input.event.request? = some (x, true) ∧ st.counter.online x = true))
    (honline : st'.counter.online x = (st.counter.without away).online x)
    (howed : st'.counter.owed x = st.counter.owed x)
    (hacks : st'.counter.acks x = st.counter.acks x) : (desk x).Serves st input st' := by
  by_cases hgone : st.counter.online x = true ∧ x ∈ away
  · have hoff : st'.counter.online x = false := by simp [honline, Counter.without, hgone.2]
    refine .went hasks ?_ (Counter.phase_offline hoff ?_) hacks
    · have hphase : (desk x).phase st = .idle ∨ (desk x).phase st = .waiting :=
        Counter.phase_online hgone.1
      rcases hphase with hphase | hphase <;> (rw [hphase]; decide)
    · rw [howed]
      exact hattended x hgone.1
  · refine .kept hasks (Counter.phase_congr (honline.trans ?_) howed) hacks
    cases hon : st.counter.online x with
    | false => simp [Counter.without, hon]
    | true => simpa [Counter.without, hon] using hgone

/-- A join that goes on, for the client that asked. -/
theorem serves_of_proceeds {st' : RelayServer V} {ack : Bool}
    (hasks : ¬(desk x).asks st input) (howed : st.counter.owed x = some ack)
    (h : st.counter.Proceeds x ack st'.counter) : (desk x).Serves st input st' := by
  generalize hc : st'.counter = c at h
  have honline : c.online x = st.counter.online x := by rw [h.online]
  have hkept : (c.owed x).isSome = (st.counter.owed x).isSome → c.acks x = st.counter.acks x →
      (st.counter.online x = true → c.owed x = st.counter.owed x) →
      (desk x).Serves st input st' := by
    intro hsome hacks hsame
    refine .kept hasks ?_ (congrArg (Counter.acks · x) hc |>.trans hacks)
    change st'.counter.phase x = st.counter.phase x
    rw [hc, Counter.phase, Counter.phase, honline, hsome]
    cases hon : st.counter.online x with
    | false => rfl
    | true => rw [hsame hon]
  cases h with
  | waits =>
    rw [Counter.hold_eq_self howed] at hkept
    exact hkept rfl rfl fun _ => rfl
  | @ends response hjoin =>
    by_cases hanswered : ack = true ∧ st.counter.online x = true
    · obtain ⟨rfl, hon⟩ := hanswered
      refine .closed response hasks ?_ ?_ ?_ fun input' hjoins => hjoin input' hjoins
      · change st.counter.phase x = _
        rw [Counter.phase, if_pos hon, if_pos howed]
      · change st'.counter.phase x = _
        rw [hc, Counter.phase, honline, if_pos hon]
        simp [Counter.hold, Counter.reply]
      · change st'.counter.acks x = _
        rw [hc]
        exact if_pos ⟨rfl, rfl, hon⟩
    · refine hkept ?_ (if_neg fun h => hanswered h.2) fun hon => ?_
      · simp [Counter.hold, Counter.reply, howed]
      · have hack : ack = false := by simpa [hon] using hanswered
        simp [Counter.hold, Counter.reply, howed, hack]

/-- What the relay does for its clients, seen by one of them. -/
theorem serves_of_service {st' : RelayServer V} (hattended : st.counter.Attended)
    (h : Service st input st'.counter) (x : SocketId) : (desk x).Serves st input st' := by
  have haway := @serves_of_away V st input x st'
  generalize hc : st'.counter = c at h haway
  have hnone : input.event.request? = none → ¬(desk x).asks st input := by
    rintro hrequest ⟨hasks, -⟩
    cases hrequest.symm.trans hasks
  have hother : ∀ {s : SocketId} {ack : Bool}, input.event.request? = some (s, ack) →
      ¬(x = s ∧ ack = true) → ¬(desk x).asks st input := by
    rintro s ack hrequest hne ⟨hasks, -⟩
    cases hrequest.symm.trans hasks
    exact hne ⟨rfl, rfl⟩
  cases h with
  | idle hasks =>
    refine @haway [] hattended ?_ (by rw [Counter.without_nil]) rfl rfl
    rintro ⟨hrequest, hon⟩
    rw [hasks x true hrequest] at hon
    cases hon
  | opened s hrequest hnew =>
    by_cases hx : x = s
    · subst hx
      have hoff : st.counter.online x = false := by
        by_contra hon
        have howed := hattended x (by simpa using hon)
        rw [hnew] at howed
        cases howed
      refine .came (hnone hrequest) ?_ ?_ (congrArg (Counter.acks · x) hc)
      · change st.counter.phase x = _
        simp [Counter.phase, hoff, hnew]
      · change st'.counter.phase x = _
        simp [hc, Counter.phase]
    · refine @haway [] hattended (hnone hrequest) ?_ (Function.update_of_ne hx _ _) rfl
      rw [Counter.without_nil]
      exact Function.update_of_ne hx _ _
  | dropped away hrequest => exact haway hattended (hnone hrequest) rfl rfl rfl
  | answered s ack response away hrequest hconn hnot hanswers =>
    by_cases hx : x = s ∧ ack = true
    · obtain ⟨rfl, rfl⟩ := hx
      have hon : (st.counter.without away).online x = true := by
        simp [Counter.without, hconn, hnot]
      refine .answered response ⟨hrequest, hconn⟩ (Counter.phase_online hconn) ?_ ?_ hanswers
      · change st'.counter.phase x = st.counter.phase x
        exact Counter.phase_congr (by rw [hc]; exact hon.trans hconn.symm) (by rw [hc]; rfl)
      · change st'.counter.acks x = _
        rw [hc]
        exact if_pos ⟨rfl, rfl, hon⟩
    · exact haway hattended (hother hrequest hx) rfl rfl (if_neg fun h => hx ⟨h.1, h.2.1⟩)
  | joining s ack _ hrequest hjoins hconn hfree h =>
    by_cases hx : x = s
    · subst hx
      cases ack with
      | false =>
        rw [← hc] at h
        exact serves_of_proceeds (hother hrequest (by simp)) hfree h
      | true =>
        have hasks : (desk x).asks st input := ⟨hrequest, hconn⟩
        have hphase : st.counter.phase x = .idle := by
          simp [Counter.phase, hconn, hfree]
        cases h with
        | waits =>
          refine .opened hasks hjoins hphase ?_ (congrArg (Counter.acks · x) hc)
          change st'.counter.phase x = _
          simp [hc, Counter.phase, Counter.hold, hconn]
        | @ends response hjoin =>
          rw [Counter.hold_eq_self hfree] at hc
          refine .answered response hasks (.inl hphase) ?_ ?_ (hjoin input hjoins)
          · change st'.counter.phase x = st.counter.phase x
            rw [hc]
            rfl
          · change st'.counter.acks x = _
            rw [hc]
            exact if_pos ⟨rfl, rfl, hconn⟩
    · refine @haway [] hattended (hother hrequest fun h => hx h.1) ?_ (h.other hx).1 (h.other hx).2
      rw [Counter.without_nil, h.online]
  | resumed s ack _ hrequest howed h =>
    by_cases hx : x = s
    · subst hx
      rw [← hc] at h
      exact serves_of_proceeds (hnone hrequest) howed h
    · refine @haway [] hattended (hnone hrequest) ?_ (h.other hx).1 (h.other hx).2
      rw [Counter.without_nil, h.online]

end Desk

/-- Whoever is connected keeps a session. -/
theorem attended_of_service {st : RelayServer V} {input : Input V} {c : Counter V}
    (hattended : st.counter.Attended) (h : Service st input c) : c.Attended := by
  cases h with
  | idle => exact hattended
  | opened s hrequest hnew =>
    intro x hx
    by_cases hs : x = s
    · simp [hs]
    · dsimp only at hx ⊢
      rw [Function.update_of_ne hs] at hx ⊢
      exact hattended x hx
  | dropped away | answered s ack response away =>
    exact fun x hx => hattended x (Bool.and_eq_true_iff.1 hx).1
  | joining s ack c _ _ _ _ h | resumed s ack c _ _ h =>
    intro x hx
    rw [h.online] at hx
    exact h.isSome (hattended x hx)

/-- A join of the socket that wants an ack is suspended. -/
def AwaitsJoin (st : RelayServer V) (s : SocketId) : Prop :=
  ∃ session pending, st.sessions.get? s = some session ∧ session.joining = some pending ∧
    pending.request.ack = true

/-- A client waits for the ack of a suspended join only. -/
theorem phase_waiting {st : RelayServer V} {s : SocketId} (h : st.counter.phase s = .waiting) :
    st.AwaitsJoin s := by
  have howed : st.counter.owed s = some true := by
    unfold Counter.phase at h
    split at h
    · split at h
      · assumption
      · cases h
    · split at h <;> cases h
  obtain ⟨session, hses, howes⟩ := Option.map_eq_some_iff.1 howed
  obtain ⟨pending, hjoin, hack⟩ := (Option.any_eq_true ..).1 howes
  exact ⟨session, pending, hses, hjoin, hack⟩

/-- A client that is gone has no connected socket. -/
theorem phase_gone {st : RelayServer V} {s : SocketId} (h : st.counter.phase s = .gone) :
    st.isSocketActive s = false := by
  unfold Counter.phase at h
  split at h
  · split at h <;> cases h
  next hoff => exact Bool.eq_false_iff.2 hoff

variable [Unknown V] (cfg : Config)

/-- In every state of a run, whoever is connected has a session. -/
theorem attended_after (inputs : List (Input V)) : (after cfg inputs).counter.Attended :=
  Runs.run_invariant (I := fun st : RelayServer V => st.counter.Attended)
    (fun st input h => attended_of_service h (service_of_step cfg st input h)) inputs
    fun s h => by cases h

/-- Every event of a run serves every client. -/
theorem serves_step (x : SocketId) (inputs : List (Input V)) (input : Input V) :
    (desk x).Serves (after cfg inputs) input (step cfg (after cfg inputs) input) :=
  serves_of_service (attended_after cfg inputs)
    (service_of_step cfg _ input (attended_after cfg inputs)) x

/-- A client that is connected asks for an ack at that place of the run. -/
def Requested (inputs : List (Input V)) (s : SocketId) (n : ℕ) (input : Input V) : Prop :=
  inputs[n]? = some input ∧ input.event.request? = some (s, true) ∧
    (after cfg (inputs.take n)).isSocketActive s = true

/-- In every run each ack a client gets answers one of its requests, and each request gets at
most one. One that is no join is answered in its own turn. A join without an ack waits, as the
only one of its socket, or the socket is gone. -/
theorem requests_acked_once (inputs : List (Input V)) (s : SocketId) :
    ∃ ledger : List (ℕ × Response V),
      ledger.map Prod.snd = (after cfg inputs).acks s ∧ (ledger.map Prod.fst).Nodup ∧
      (∀ e ∈ ledger, ∃ input, Requested cfg inputs s e.1 input ∧ Answers input e.2) ∧
      ∀ n input, Requested cfg inputs s n input →
        (¬input.event.Joins → n ∈ ledger.map Prod.fst ∧ ∃ response, Answers input response ∧
          (after cfg (inputs.take (n + 1))).acks s =
            (after cfg (inputs.take n)).acks s ++ [response]) ∧
        (n ∉ ledger.map Prod.fst → input.event.Joins ∧
          ((after cfg inputs).isSocketActive s = false ∨ (after cfg inputs).AwaitsJoin s ∧
            ∀ n' input', Requested cfg inputs s n' input' → n' ∉ ledger.map Prod.fst →
              n' = n)) := by
  obtain ⟨ledger, h⟩ := (desk s).exists_accounts (step cfg) (create cfg) rfl rfl
    (serves_step cfg s) inputs
  refine ⟨ledger, h.answers, h.nodup, h.fits, fun n input hrequested => ⟨fun hslow => ?_,
    fun hn => ?_⟩⟩
  · have hasked : (desk s).Asked (step cfg) (create cfg) inputs n input := hrequested
    refine ⟨?_, hasked.answered_at_once hslow (serves_step cfg s)⟩
    by_contra hn
    exact hslow (h.unanswered n input hrequested hn).1
  · obtain ⟨hjoins, hwaiting | hgone⟩ := h.unanswered n input hrequested hn
    · obtain ⟨m, _, _, _, honly⟩ := h.waiting hwaiting
      refine ⟨hjoins, .inr ⟨phase_waiting hwaiting, fun n' input' hrequested' hn' => ?_⟩⟩
      exact (honly n' input' hrequested' hn').trans (honly n input hrequested hn).symm
    · exact ⟨hjoins, .inl (phase_gone hgone)⟩

end RelayServer

end QrlBackend
