import QrlBackend.Reservations

/-!
# One delivery at a time

While a listener is on the current transport of its socket (`Listens`), the socket's own
transport events move it on : `drain` makes it wait for `ready`, and `ready` hands over the
oldest message of the reservation's channel and waits for the next `drain`, or, if there is
none, ends the reservation.
-/

set_option autoImplicit false

namespace QrlBackend

variable {V : Type}

open ChannelManager RelayServer

/-- The socket is connected, and a listener for the event is on its current transport. -/
def Listens (st : RelayServer V) (s : SocketId) (event : TransportEvent) : Prop :=
  ∃ socket, st.sockets.get? s = some socket ∧
    st.directTransportListeners.get? s = some ⟨socket.transport, event⟩

/-- The event is one the socket's own transport emits. -/
def OwnTransport (s : SocketId) (input : Input V) : Prop :=
  input.event = .drain s ∨ input.event = .ready s false

theorem listens_of_core {st : RelayServer V} {s : SocketId} {transport : TransportRef}
    {event : TransportEvent} (htransport : st.core.transport s = some transport)
    (hlistener : st.core.listener s = some ⟨transport, event⟩) : Listens st s event := by
  obtain ⟨socket, hsock, rfl⟩ := Option.map_eq_some_iff.1 htransport
  exact ⟨socket, hsock, hlistener⟩

variable [Unknown V] (cfg : Config) {st : RelayServer V} {s : SocketId}

/-- Without a listener the ready event makes the socket able to take a message. -/
theorem canSocketReceive_ready (now : ℕ) (hconn : (st.sockets.get? s).isSome = true)
    (hidle : st.directTransportListeners.get? s = none) :
    (step cfg st ⟨now, .ready s false⟩).canSocketReceive s = true := by
  obtain ⟨socket, hsock⟩ := Option.isSome_iff_exists.1 hconn
  simp [step, modifySocket, hsock, fire, hidle, canSocketReceive, JsMap.has]

namespace Listens

/-- After the drain the listener waits for the ready event. -/
theorem drain (h : Listens st s .drain) (now : ℕ) :
    Listens (step cfg st ⟨now, .drain s⟩) s .ready ∧
    (step cfg st ⟨now, .drain s⟩).channelManager = st.channelManager ∧
    (step cfg st ⟨now, .drain s⟩).handed = st.handed := by
  obtain ⟨socket, hsock, hlistener⟩ := h
  have hstep : (step cfg st ⟨now, .drain s⟩).core = { st.core with
      listener := Function.update st.core.listener s (some ⟨socket.transport, .ready⟩) } := by
    simp only [step, fire, hsock, hlistener, if_pos]
    exact core_onDrain st s socket.transport
  have htransport : (step cfg st ⟨now, .drain s⟩).core.transport s = some socket.transport := by
    rw [hstep]
    exact congrArg (Option.map _) hsock
  have harmed : (step cfg st ⟨now, .drain s⟩).core.listener s =
      some ⟨socket.transport, .ready⟩ := by
    rw [hstep]
    exact Function.update_self _ _ _
  exact ⟨listens_of_core htransport harmed, congrArg Core.manager hstep,
    congrArg Core.handed hstep⟩

/-- A ready event that reaches its listener with the transport writable. -/
theorem step_ready {socket : Socket} (hsock : st.sockets.get? s = some socket)
    (hlistener : st.directTransportListeners.get? s = some ⟨socket.transport, .ready⟩) (now : ℕ) :
    step cfg st ⟨now, .ready s false⟩ =
      ({ st with sockets := st.sockets.set s { socket with writable := true } } :
        RelayServer V).onReady now s := by
  simp only [step, modifySocket, hsock, fire, JsMap.get?_set_self, hlistener, if_pos,
    Bool.not_false]

/-- The ready event hands over what `advanceDirectDelivery` promotes. -/
theorem promote (h : Listens st s .ready) (now : ℕ) {payload : RelayPayload V}
    (hres : (st.channelManager.advanceDirectDelivery s).1 = some payload) :
    Listens (step cfg st ⟨now, .ready s false⟩) s .drain ∧
    (step cfg st ⟨now, .ready s false⟩).channelManager =
      (st.channelManager.advanceDirectDelivery s).2 ∧
    (step cfg st ⟨now, .ready s false⟩).handed = st.handed ++ [(s, payload)] := by
  obtain ⟨socket, hsock, hlistener⟩ := h
  obtain ⟨m, hadvance⟩ : ∃ m, st.channelManager.advanceDirectDelivery s = (some payload, m) :=
    ⟨_, Prod.ext hres rfl⟩
  set st₁ : RelayServer V :=
    { st with sockets := st.sockets.set s { socket with writable := true } } with hst₁
  have hsock₁ : st₁.sockets.get? s = some { socket with writable := true } :=
    JsMap.get?_set_self _ _ _
  have hcore₁ : st₁.core = st.core := core_setSocket st hsock rfl
  have hadvance₁ : st₁.channelManager.advanceDirectDelivery s = (some payload, m) := hadvance
  have hstep : (step cfg st ⟨now, .ready s false⟩).core = ({ st.core with
      manager := m
      listener := Function.update st.core.listener s
        (some ⟨socket.transport, .drain⟩) }.hand s [payload]) := by
    rw [step_ready cfg hsock hlistener, core_onReady now hsock₁ rfl, hadvance₁, hcore₁]
  have htransport : (step cfg st ⟨now, .ready s false⟩).core.transport s =
      some socket.transport := by
    rw [hstep]
    exact congrArg (Option.map _) hsock
  have harmed : (step cfg st ⟨now, .ready s false⟩).core.listener s =
      some ⟨socket.transport, .drain⟩ := by
    rw [hstep]
    exact Function.update_self _ _ _
  refine ⟨listens_of_core htransport harmed, ?_, congrArg Core.handed hstep⟩
  rw [hadvance]
  exact congrArg Core.manager hstep

/-- With nothing to promote, the ready event leaves the socket able to take a message. -/
theorem finish (h : Listens st s .ready) (now : ℕ)
    (hres : (st.channelManager.advanceDirectDelivery s).1 = none) :
    (step cfg st ⟨now, .ready s false⟩).canSocketReceive s = true := by
  obtain ⟨socket, hsock, hlistener⟩ := h
  obtain ⟨m, hadvance⟩ : ∃ m, st.channelManager.advanceDirectDelivery s = (none, m) :=
    ⟨_, Prod.ext hres rfl⟩
  rw [step_ready cfg hsock hlistener]
  simp [onReady, armDirectDelivery, hadvance, canSocketReceive, RelayServer.releaseDirectDelivery,
    JsMap.has]

end Listens

omit [Unknown V] in
/-- A promotion leaves one message less in the buffer it promotes from. -/
theorem RelayServer.Promoted.length_lt {m m' : ChannelManager V} {payload : RelayPayload V}
    {r : ChannelRef} {p : Participant} {next : BufferedMessage V}
    (h : Promoted m m' s payload r p next) :
    (m'.content r).messageBuffer.length < (m.content r).messageBuffer.length := by
  have hmem := List.mem_of_find?_eq_some h.oldest
  rw [h.content, if_pos rfl, Content.promoted,
    List.length_eraseP_of_mem hmem (List.find?_some h.oldest)]
  exact Nat.sub_lt (List.length_pos_of_mem hmem) Nat.one_pos

end QrlBackend
