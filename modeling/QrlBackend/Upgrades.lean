import QrlBackend.Readiness

/-!
# Transport upgrades

A listener stays on the transport object it was armed on. As long as no transport is
replaced under a listener, every listener is on its socket's current transport, and the
socket's own transport events lead it to where it can take a message
(`reservations_survive`).

An upgrade under a listener leaves the listener on a transport that emits nothing any more :
`upgradesArmed` is that step, and `reservation_stranded` a run with it.
-/

set_option autoImplicit false

namespace QrlBackend

variable {V : Type}

open ChannelManager RelayServer

/-- Every listener is on the current transport of its socket. -/
def Attached (k : Core V) : Prop :=
  ∀ s transport listener, k.transport s = some transport → k.listener s = some listener →
    listener.transport = transport

/-- The socket's own transport events lead to a state in which it can take a message. -/
def Recovers [Unknown V] (cfg : Config) (st : RelayServer V) (s : SocketId) : Prop :=
  ∃ inputs : List (Input V), (∀ i ∈ inputs, OwnTransport s i) ∧
    (Runs.run (step cfg) st inputs).canSocketReceive s = true

/-- The event replaces the transport of a socket that has an armed listener. -/
def RelayServer.upgradesArmed (st : RelayServer V) (input : Input V) : Bool :=
  match input.event with
  | .upgrade s _ => st.directTransportListeners.has s
  | _ => false

namespace Attached

/-- Listeners that stay, on transports that stay. -/
theorem of_same {k k' : Core V} (h : Attached k) (htransport : k'.transport = k.transport)
    (hlistener : k'.listener = k.listener) : Attached k' := by
  intro s transport listener ht hl
  exact h s transport listener (htransport ▸ ht) (hlistener ▸ hl)

/-- A listener on the current transport of its socket. -/
theorem of_armed {k k' : Core V} (h : Attached k) {s : SocketId} {transport : TransportRef}
    {event : TransportEvent} (htransport : k'.transport = k.transport)
    (hcurrent : k.transport s = some transport)
    (hlistener : k'.listener = Function.update k.listener s (some ⟨transport, event⟩)) :
    Attached k' := by
  intro s' transport' listener ht hl
  rw [htransport] at ht
  rw [hlistener, Function.update_apply] at hl
  split at hl
  next hs =>
    rw [hs, hcurrent, Option.some.injEq] at ht
    rw [← Option.some.inj hl, ht]
  next => exact h s' transport' listener ht hl

/-- A socket without a listener may get a transport or lose it. -/
theorem of_unarmed {k k' : Core V} (h : Attached k) {s : SocketId}
    (htransport : ∀ s', s' ≠ s → k'.transport s' = k.transport s')
    (hidle : k'.listener s = none) (hlistener : ∀ s', s' ≠ s → k'.listener s' = k.listener s') :
    Attached k' := by
  intro s' transport listener ht hl
  by_cases hs : s' = s
  · subst hs
    rw [hidle] at hl
    cases hl
  · exact h s' transport listener (htransport s' hs ▸ ht) (hlistener s' hs ▸ hl)

theorem drop {k : Core V} (h : Attached k) (now : ℕ) (s : SocketId) : Attached (k.drop now s) := by
  unfold Core.drop
  split
  · exact h.of_unarmed (fun s' hs => Function.update_of_ne hs _ _) (Function.update_self _ _ _)
      fun s' hs => Function.update_of_ne hs _ _
  · exact h

theorem relieve {k : Core V} (h : Attached k) (now : ℕ) (target : Option SocketId) :
    Attached (k.relieve now target) := by
  unfold Core.relieve
  split
  · exact h
  · split
    · exact h
    · exact h.drop now _

end Attached

variable [Unknown V] {cfg : Config} {st : RelayServer V} {input : Input V} {k : Core V}

theorem attached_turn (hturn : Turn cfg st input k) (hagrees : Agrees st.core)
    (hknown : Known st.core) (hguard : st.upgradesArmed input = false) (h : Attached st.core) :
    Attached k := by
  cases hturn with
  | idle => exact h
  | requested | dismissed | refusedJoin | entered | switched | completed | undone | left | closed
  | cleaned => exact h.of_same rfl rfl
  | opened s _ hnew =>
    refine h.of_unarmed (fun s' hs => Function.update_of_ne hs _ _) ?_ fun _ _ => rfl
    -- a socket without a session is not connected, so it has no listener
    cases hlistener : st.core.listener s with
    | none => rfl
    | some listener =>
      have hses := hknown s (hagrees.connected s (by rw [hlistener]; rfl))
      have hnone : st.core.session s = none := hnew
      simp [hnone] at hses
  | refused | buffered =>
    refine Attached.relieve ?_ _ _
    exact h.of_same rfl rfl
  | direct s session payload target transport _ _ htransport =>
    exact h.of_armed rfl htransport rfl
  | dropped s => exact h.drop _ s
  | drained s transport htransport | promoted s transport _ htransport =>
    exact h.of_armed rfl htransport rfl
  | released s =>
    exact h.of_unarmed (fun _ _ => rfl) (Function.update_self _ _ _)
      fun s' hs => Function.update_of_ne hs _ _
  | upgraded s writable hevent =>
    refine h.of_unarmed (fun s' hs => Function.update_of_ne hs _ _) ?_ fun _ _ => rfl
    simpa [upgradesArmed, hevent, JsMap.has, core] using hguard

omit [Unknown V] in
/-- A socket with a reservation has a listener on its current transport. -/
theorem listens_of_reserved (hagrees : Agrees st.core) (hattached : Attached st.core)
    {s : SocketId} (hreserved : (st.channelManager.directDeliveries.get? s).isSome = true) :
    ∃ event, Listens st s event := by
  have hlistener := (hagrees.reserved s).trans hreserved
  obtain ⟨transport, htransport⟩ := Option.isSome_iff_exists.1 (hagrees.connected s hlistener)
  obtain ⟨⟨attachedTo, event⟩, hlistener⟩ := Option.isSome_iff_exists.1 hlistener
  obtain ⟨socket, hsock, rfl⟩ := Option.map_eq_some_iff.1 htransport
  obtain rfl : attachedTo = socket.transport := hattached s _ _ htransport hlistener
  exact ⟨event, socket, hsock, hlistener⟩

/-! ## Getting back to where a message can be taken -/

variable (cfg)

/-- Each ready event promotes a message or frees the socket, so the buffer of the
reservation's channel bounds the events it takes. -/
theorem recovers_ready (n : ℕ) : ∀ {st : RelayServer V} {s : SocketId}
    {reservation : DirectDeliveryReservation}, Listens st s .ready →
    st.channelManager.directDeliveries.get? s = some reservation →
    (st.channelManager.content reservation.channel).messageBuffer.length = n →
    Recovers cfg st s := by
  induction n using Nat.strong_induction_on with
  | _ n ih =>
  intro st s reservation hlistens hreserved hlength
  cases hres : (st.channelManager.advanceDirectDelivery s).1 with
  | none =>
    refine ⟨[⟨0, .ready s false⟩], by simp [OwnTransport], ?_⟩
    rw [Runs.run_cons, Runs.run_nil]
    exact hlistens.finish cfg 0 hres
  | some payload =>
    obtain ⟨r, p, next, hpromoted⟩ := promoted_of_advance hres
    obtain ⟨reservation', rfl, hget⟩ := hpromoted.reservation
    obtain rfl : reservation' = reservation := Option.some.inj (hget.symm.trans hreserved)
    obtain ⟨hlistens₁, hm₁, -⟩ := hlistens.promote cfg 0 hres
    obtain ⟨hlistens₂, hm₂, -⟩ := hlistens₁.drain cfg 0
    obtain ⟨reservation'', hchannel, hget'⟩ := hpromoted.directDeliveries s
    rw [if_pos rfl, ← hm₁, ← hm₂] at hget'
    have hshorter := hpromoted.length_lt
    rw [← hm₁, ← hm₂, hlength, ← hchannel] at hshorter
    obtain ⟨inputs, hevents, hrun⟩ := ih _ hshorter hlistens₂ hget' rfl
    exact ⟨⟨0, .ready s false⟩ :: ⟨0, .drain s⟩ :: inputs,
      List.forall_mem_cons.2 ⟨.inr rfl, List.forall_mem_cons.2 ⟨.inl rfl, hevents⟩⟩, hrun⟩

/-- A connected socket whose listener is on its current transport gets back to where it can
take a message. -/
theorem recovers_of_attached (hagrees : Agrees st.core) (hattached : Attached st.core)
    {s : SocketId} (hconn : (st.sockets.get? s).isSome = true) : Recovers cfg st s := by
  obtain ⟨socket, hsock⟩ := Option.isSome_iff_exists.1 hconn
  cases hlistener : st.directTransportListeners.get? s with
  | none =>
    refine ⟨[⟨0, .ready s false⟩], by simp [OwnTransport], ?_⟩
    rw [Runs.run_cons, Runs.run_nil]
    exact canSocketReceive_ready cfg 0 hconn hlistener
  | some listener =>
    have hreserved : (st.channelManager.directDeliveries.get? s).isSome = true :=
      (hagrees.reserved s).symm.trans (Option.isSome_iff_exists.2 ⟨listener, hlistener⟩)
    obtain ⟨event, hlistens⟩ := listens_of_reserved hagrees hattached hreserved
    obtain ⟨reservation, hreserved⟩ := Option.isSome_iff_exists.1 hreserved
    cases event with
    | ready => exact recovers_ready cfg _ hlistens hreserved rfl
    | drain =>
      obtain ⟨hlistens₁, hm₁, -⟩ := hlistens.drain cfg 0
      obtain ⟨inputs, hevents, hrun⟩ := recovers_ready cfg _ hlistens₁ (hm₁ ▸ hreserved) rfl
      exact ⟨⟨0, .drain s⟩ :: inputs, List.forall_mem_cons.2 ⟨.inl rfl, hevents⟩, hrun⟩

/-! ## Runs -/

/-- What an upgrade should not break : listeners are on current transports, every
reservation has one that its socket can still complete, and every connected socket gets back
to where it can take a message. -/
structure SurvivesUpgrades (st : RelayServer V) : Prop where
  attached : Attached st.core
  completable : ∀ s, (st.channelManager.directDeliveries.get? s).isSome = true →
    ∃ socket event, st.sockets.get? s = some socket ∧
      st.directTransportListeners.get? s = some ⟨socket.transport, event⟩
  recovers : ∀ s, (st.sockets.get? s).isSome = true → Recovers cfg st s

theorem attached_after {inputs : List (Input V)}
    (hguard : Runs.Guarded (step cfg) (fun st i => st.upgradesArmed i = false) (create cfg)
      inputs) :
    Attached (RelayServer.after cfg inputs).core :=
  Runs.Guarded.run_reached (I := fun st : RelayServer V => Attached st.core)
    (fun _ _ _ h => by cases h)
    (fun inputs input h hok => attached_turn (turn_of_step cfg _ input) (agrees_after cfg inputs)
      (known_after cfg inputs) hok h) hguard

/-- In a run that upgrades no socket while a listener is armed on it, reservations survive
every upgrade. -/
theorem reservations_survive {inputs : List (Input V)}
    (hguard : Runs.Guarded (step cfg) (fun st i => st.upgradesArmed i = false) (create cfg)
      inputs) :
    SurvivesUpgrades cfg (RelayServer.after cfg inputs) := by
  have hattached := attached_after cfg hguard
  have hagrees := agrees_after cfg inputs
  refine ⟨hattached, fun s hreserved => ?_, fun s => recovers_of_attached cfg hagrees hattached⟩
  obtain ⟨event, socket, hsock, hlistener⟩ := listens_of_reserved hagrees hattached hreserved
  exact ⟨socket, event, hsock, hlistener⟩

/-! ## A listener left behind -/

/-- The socket has a listener on a transport it does not have any more. -/
def Stranded (st : RelayServer V) (s : SocketId) : Prop :=
  ∃ socket listener, st.sockets.get? s = some socket ∧
    st.directTransportListeners.get? s = some listener ∧ listener.transport ≠ socket.transport

omit [Unknown V] in
theorem Stranded.fire {s : SocketId} (h : Stranded st s) (now : ℕ) (event : TransportEvent) :
    st.fire now s event = st := by
  obtain ⟨socket, listener, hsock, hlistener, hne⟩ := h
  unfold RelayServer.fire
  rw [hsock]
  dsimp only
  rw [if_neg]
  rw [hlistener, Option.some.injEq]
  rintro rfl
  exact hne rfl

/-- No transport event of a stranded socket reaches its listener. -/
theorem not_recovers_of_stranded {s : SocketId} (h : Stranded st s) : ¬Recovers cfg st s := by
  rintro ⟨inputs, hevents, hreceive⟩
  suffices hall : Stranded (Runs.run (step cfg) st inputs) s by
    obtain ⟨-, listener, -, hlistener, -⟩ := hall
    simp [canSocketReceive, JsMap.has, hlistener] at hreceive
  clear hreceive
  induction inputs generalizing st with
  | nil => exact h
  | cons i inputs ih =>
    refine ih ?_ fun i hi => hevents i (List.mem_cons_of_mem _ hi)
    rcases hevents i List.mem_cons_self with hevent | hevent
    · rw [step, hevent]
      dsimp only
      rwa [h.fire]
    · rw [step, hevent]
      have hready :
          Stranded (st.modifySocket s fun socket => { socket with writable := !false }) s := by
        obtain ⟨socket, listener, hsock, hlistener, hne⟩ := h
        refine ⟨{ socket with writable := !false }, listener, ?_, ?_, hne⟩
        · simp [modifySocket, hsock]
        · simpa [modifySocket, hsock] using hlistener
      dsimp only
      rwa [hready.fire]

/-- A wallet takes a message, its transport drains, and then it is upgraded. -/
def upgradedInFlight : List (Input String) :=
  [⟨0, .connection 1 "a" 1⟩, ⟨0, .connection 2 "b" 2⟩,
    ⟨0, .joinChannel 1 ⟨.string "c", .string "dapp", .undefined⟩ true true⟩,
    ⟨0, .resumeJoin 1 true⟩,
    ⟨0, .joinChannel 2 ⟨.string "c", .string "wallet", .undefined⟩ true true⟩,
    ⟨0, .resumeJoin 2 true⟩, ⟨0, .drain 2⟩, ⟨0, .ready 2 false⟩,
    ⟨1, .message 1 ⟨.string "c", "hello", .string "dapp", .undefined, .text "hello"⟩ true 1⟩,
    ⟨2, .drain 2⟩, ⟨3, .upgrade 2 true⟩]

/-- Its listener is on the old transport, and the wallet can never take a message again. -/
theorem reservation_stranded :
    ¬Attached (RelayServer.after .unset upgradedInFlight).core ∧
    ¬Recovers .unset (RelayServer.after .unset upgradedInFlight) 2 := by
  refine ⟨fun h => ?_, not_recovers_of_stranded _ ⟨⟨["c", "2"], 2, true⟩, ⟨1, .ready⟩, ?_, ?_, ?_⟩⟩
  · exact absurd (h 2 2 ⟨1, .ready⟩ (by decide) (by decide)) (by decide)
  · rfl
  · decide
  · decide

/-- An upgrade before the message is one the reservation survives. -/
theorem reservations_survive_idle_upgrade :
    SurvivesUpgrades (V := String) .unset (RelayServer.after .unset
      [⟨0, .connection 1 "a" 1⟩, ⟨0, .connection 2 "b" 2⟩,
        ⟨0, .joinChannel 1 ⟨.string "c", .string "dapp", .undefined⟩ true true⟩,
        ⟨0, .resumeJoin 1 true⟩,
        ⟨0, .joinChannel 2 ⟨.string "c", .string "wallet", .undefined⟩ true true⟩,
        ⟨0, .resumeJoin 2 true⟩, ⟨1, .upgrade 2 true⟩,
        ⟨2, .message 1
            ⟨.string "c", "hello", .string "dapp", .undefined, .text "hello"⟩ true 2⟩]) :=
  reservations_survive .unset (by decide)

end QrlBackend
