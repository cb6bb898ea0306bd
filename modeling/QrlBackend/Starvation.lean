import QrlBackend.Reservations

/-!
# Disconnections by a message

`routeMessage` names the counterparty as backpressured whenever it does not reserve a direct
write for it : when the counterparty cannot take one, and also when a byte budget has no room
(`backpressured_iff`). The `message` handler then disconnects it unless a delivery is in
flight. So a message spares every socket that could take a write exactly when no budget
refuses it to such a socket (`spares_writable_iff`).
-/

set_option autoImplicit false

namespace QrlBackend

variable {V : Type} [Unknown V]

open ChannelManager RelayServer

/-! ## The counterparty a routing names -/

namespace ChannelManager

/-- A message that passes every check of `routeMessage` and has a counterparty. -/
structure Addressed (m : ChannelManager V) (channelId : String) (s : SocketId)
    (data : RelayPayload V) (r : ChannelRef) (sizeBytes : ℕ) (target : SocketId) : Prop where
  get : m.channels.get? channelId = some r
  live : (m.channel r).terminated = false
  sender : ∃ p, (m.channel r).participants.get? s = some p ∧ data.clientType = p.clientType
  fresh : replays (m.channel r).seqNumbers s data.seq = false
  size : data.getSerializedSize = some sizeBytes
  counterparty : counterparty (m.channel r).participants s = some target

omit [Unknown V] in
@[simp] theorem backpressured_bufferMessage (cfg : Config) (now : ℕ) (m : ChannelManager V)
    (r : ChannelRef) (sender : Participant) (s : SocketId) (data : RelayPayload V)
    (sourceIp : String) (sizeBytes : ℕ) (target : Option SocketId) :
    (bufferMessage cfg now m r sender s data sourceIp sizeBytes target).1.backpressuredSocketId =
      target := by
  unfold bufferMessage
  dsimp only
  split <;> rfl

omit [Unknown V] in
theorem backpressured_deliverMessage (cfg : Config) (canSocketReceive : SocketId → Bool) (now : ℕ)
    (m : ChannelManager V) (r : ChannelRef) (sender : Participant) (s : SocketId)
    (data : RelayPayload V) (sourceIp : String) (sizeBytes : ℕ) (target : SocketId) :
    (deliverMessage cfg canSocketReceive now m r sender s data sourceIp
        sizeBytes).1.backpressuredSocketId = some target ↔
      counterparty (m.channel r).participants s = some target ∧
      (canSocketReceive target && m.admitsDirect cfg r target sourceIp sizeBytes) = false := by
  unfold deliverMessage
  split
  next hnone => simp [hnone]
  next other hother =>
    rw [hother, Option.some.injEq]
    split
    next hok =>
      constructor
      · intro h
        cases h
      · rintro ⟨rfl, hno⟩
        simp [hno] at hok
    next hno =>
      rw [backpressured_bufferMessage, Option.some.injEq]
      refine ⟨fun htarget => ⟨htarget, ?_⟩, fun h => h.1⟩
      rw [← htarget]
      simpa using hno

omit [Unknown V] in
/-- The time of last activity is no part of a budget. -/
theorem admitsDirect_touch (cfg : Config) (now : ℕ) (m : ChannelManager V) (r : ChannelRef)
    (target : SocketId) (sourceIp : String) (sizeBytes : ℕ) :
    (m.modifyChannel r fun c => { c with lastActivity := now }).admitsDirect cfg r target sourceIp
      sizeBytes = m.admitsDirect cfg r target sourceIp sizeBytes := by
  have hch : (m.modifyChannel r fun c => { c with lastActivity := now }).channel r =
      { m.channel r with lastActivity := now } := by
    rw [channel_modifyChannel, if_pos rfl]
  simp only [admitsDirect, hch]
  rfl

/-- An addressed message reaches the delivery half of `routeMessage`. -/
theorem Addressed.routeMessage_eq {m : ChannelManager V} {channelId : String} {s : SocketId}
    {data : RelayPayload V} {r : ChannelRef} {sizeBytes : ℕ} {target : SocketId}
    (h : m.Addressed channelId s data r sizeBytes target) (cfg : Config)
    (canSocketReceive : SocketId → Bool) (now bufferedAt : ℕ) (sourceIp : String) :
    ∃ sender, m.routeMessage cfg canSocketReceive now bufferedAt channelId s data sourceIp =
      deliverMessage cfg canSocketReceive bufferedAt
        (m.modifyChannel r fun c => { c with lastActivity := now }) r sender s data sourceIp
        sizeBytes := by
  obtain ⟨sender, hsender, htype⟩ := h.sender
  refine ⟨sender, ?_⟩
  have hseq : ((m.modifyChannel r fun c => { c with lastActivity := now }).channel r).seqNumbers =
      (m.channel r).seqNumbers := by
    rw [channel_modifyChannel, if_pos rfl]
  unfold routeMessage
  simp [h.get, h.live, hsender, htype, hseq, h.fresh, h.size]

/-- A routing names its counterparty exactly when it reserves nothing for it. -/
theorem backpressured_iff (cfg : Config) (canSocketReceive : SocketId → Bool)
    (now bufferedAt : ℕ) (m : ChannelManager V) (channelId : String) (s : SocketId)
    (data : RelayPayload V) (sourceIp : String) (target : SocketId) :
    (m.routeMessage cfg canSocketReceive now bufferedAt channelId s data
        sourceIp).1.backpressuredSocketId = some target ↔
      ∃ r sizeBytes, m.Addressed channelId s data r sizeBytes target ∧
        (canSocketReceive target && m.admitsDirect cfg r target sourceIp sizeBytes) = false := by
  have hparts : ∀ r, ((m.modifyChannel r fun c =>
      { c with lastActivity := now }).channel r).participants = (m.channel r).participants := by
    intro r
    rw [channel_modifyChannel, if_pos rfl]
  constructor
  · unfold routeMessage
    split
    · exact fun h => nomatch h
    next r hget =>
    split
    · exact fun h => nomatch h
    next hlive =>
    split
    · exact fun h => nomatch h
    next sender hsender =>
    split
    · exact fun h => nomatch h
    next htype =>
    dsimp only
    split
    · exact fun h => nomatch h
    next hfresh =>
    split
    · exact fun h => nomatch h
    next sizeBytes hsize =>
    intro h
    obtain ⟨htarget, hno⟩ := (backpressured_deliverMessage ..).1 h
    rw [hparts] at htarget
    rw [admitsDirect_touch] at hno
    rw [channel_modifyChannel, if_pos rfl] at hfresh
    exact ⟨r, sizeBytes, ⟨hget, by simpa using hlive, ⟨sender, hsender, not_not.1 htype⟩,
      by simpa using hfresh, hsize, htarget⟩, hno⟩
  · rintro ⟨r, sizeBytes, h, hno⟩
    obtain ⟨sender, hroute⟩ := h.routeMessage_eq cfg canSocketReceive now bufferedAt sourceIp
    rw [hroute, backpressured_deliverMessage, hparts, admitsDirect_touch]
    exact ⟨h.counterparty, hno⟩

end ChannelManager

/-! ## What a message disconnects -/

namespace RelayServer

variable (cfg : Config) (st : RelayServer V) (input : Input V)

/-- Whether a socket could take a write : connected, its connection open, its transport
writable. -/
def canWrite {V : Type} (st : RelayServer V) (s : SocketId) : Bool :=
  (st.sockets.get? s).any (·.writable)

/-- A socket the event disconnects. -/
def CutsOff (target : SocketId) : Prop :=
  (st.sockets.get? target).isSome = true ∧ (step cfg st input).sockets.get? target = none

/-- A message to a counterparty that could take a write and has no delivery in flight, for
which a byte budget has no room. -/
def Starves : Prop :=
  ∃ s session payload r sizeBytes target, st.Routes input s session payload ∧
    st.channelManager.Addressed payload.id s payload r sizeBytes target ∧
    st.canWrite target = true ∧ st.channelManager.hasDirectDelivery target = false ∧
    st.channelManager.admitsDirect cfg r target session.clientIp sizeBytes = false

variable {cfg st input}

/-- The event of an admissible message runs `relayMessage`. -/
theorem Routes.step_eq {s : SocketId} {session : Session V} {payload : RelayPayload V}
    (h : st.Routes input s session payload) : ∃ limits ack, step cfg st input =
      ({ st with rateLimits := limits, payloads := st.payloads + 1 } : RelayServer V).relayMessage
        cfg input.now input.bufferedAt s session payload ack := by
  obtain ⟨raw, ack, hevent, hparse⟩ := h.event
  obtain ⟨socket, hsock⟩ := Option.isSome_iff_exists.1 h.connected
  have hallowed := h.allowed
  refine ⟨(st.checkRateLimit input.now session.clientIp .message
    rateLimitMaxMessages).2.rateLimits, ack, ?_⟩
  unfold step
  dsimp only
  rw [hevent]
  dsimp only
  rw [hsock, h.found]
  dsimp only
  unfold onMessage
  rw [show (st.checkRateLimit input.now session.clientIp .message rateLimitMaxMessages) =
    (true, (st.checkRateLimit input.now session.clientIp .message rateLimitMaxMessages).2) from
      Prod.ext hallowed rfl]
  dsimp only
  rw [if_neg (by simp)]
  rw [show parseMessage raw ⟨s, (st.checkRateLimit input.now session.clientIp .message
    rateLimitMaxMessages).2.payloads⟩ = .ok payload from hparse]
  rfl

/-- A routing without a direct reservation relieves the counterparty it names. -/
theorem transport_relayMessage {s : SocketId} {session : Session V} {payload : RelayPayload V}
    (hundirected : (st.routeCall cfg input s session payload).1.targetSocketId = none)
    (limits : JsMap String RateLimitEntry) (ack : Bool) :
    (({ st with rateLimits := limits, payloads := st.payloads + 1 } : RelayServer V).relayMessage
        cfg input.now input.bufferedAt s session payload ack).core.transport =
      (Core.relieve input.now { st.core with
        manager := (st.routeCall cfg input s session payload).2
        payloads := st.payloads + 1 }
          (st.routeCall cfg input s session payload).1.backpressuredSocketId).transport := by
  set st₁ : RelayServer V := { st with rateLimits := limits, payloads := st.payloads + 1 } with hst₁
  unfold relayMessage
  have hcall : st₁.channelManager.routeMessage cfg st₁.canSocketReceive input.now input.bufferedAt
      payload.id s payload session.clientIp = st.routeCall cfg input s session payload := rfl
  rw [hcall]
  generalize st.routeCall cfg input s session payload = out at *
  obtain ⟨⟨targetSocketId, backpressured, buffered, error⟩, m⟩ := out
  dsimp only at hundirected ⊢
  subst hundirected
  have hcore : (({ st₁ with channelManager := m } : RelayServer V).disconnectSlow input.now
      backpressured).core = Core.relieve input.now
        { st.core with manager := m, payloads := st.payloads + 1 } backpressured := by
    rw [core_disconnectSlow]
    rfl
  rw [← hcore]
  cases error with
  | some error =>
    dsimp only
    rw [core_respond _ _ _ rfl]
  | none =>
    dsimp only
    rw [core_respond _ _ _ rfl]
    rfl

/-- Without a direct reservation the routing keeps every reservation. -/
theorem routeCall_backpressured {s target : SocketId} {session : Session V}
    {payload : RelayPayload V}
    (h : (st.routeCall cfg input s session payload).1.backpressuredSocketId = some target) :
    (st.routeCall cfg input s session payload).1.targetSocketId = none ∧
      (st.routeCall cfg input s session payload).2.directDeliveries =
        st.channelManager.directDeliveries := by
  have hout := routeMessage_outcome cfg st.canSocketReceive input.now input.bufferedAt
    st.channelManager payload.id s payload session.clientIp
  change RouteOutcome _ _ _ _ _ _ _ _ _ (st.routeCall cfg input s session payload).1
    (st.routeCall cfg input s session payload).2 at hout
  generalize st.routeCall cfg input s session payload = out at h hout ⊢
  obtain ⟨result, m⟩ := out
  dsimp only at h hout ⊢
  cases hout with
  | refused => exact ⟨rfl, rfl⟩
  | refusedLate _ _ _ _ _ _ _ _ _ hdd => exact ⟨rfl, hdd⟩
  | direct => cases h
  | buffered _ _ _ _ _ _ _ _ _ _ _ _ hdd => exact ⟨rfl, hdd⟩

omit [Unknown V] in
/-- Relieving cuts off the socket it names only, and only without a delivery in flight. -/
theorem transport_relieve {now : ℕ} {k : Core V} {target : Option SocketId} {s : SocketId}
    (hconn : (k.transport s).isSome = true) :
    (k.relieve now target).transport s = none ↔
      target = some s ∧ k.manager.hasDirectDelivery s = false := by
  unfold Core.relieve
  cases target with
  | none => simpa [Option.isSome_iff_ne_none] using hconn
  | some target =>
    dsimp only
    split
    next hhas =>
      refine iff_of_false (by simpa [Option.isSome_iff_ne_none] using hconn) ?_
      rintro ⟨htarget, hno⟩
      rw [Option.some.inj htarget, hno] at hhas
      cases hhas
    next hhas =>
      rw [Core.transport_drop]
      split
      next hs => simpa [hs] using hhas
      next hs =>
        refine iff_of_false (by simpa [Option.isSome_iff_ne_none] using hconn) ?_
        rintro ⟨htarget, -⟩
        exact hs (Option.some.inj htarget).symm

/-- Only a disconnection or a message that names a counterparty takes a transport away. -/
theorem cut_of_turn {k : Core V} (hturn : Turn cfg st input k) {target : SocketId}
    (hconn : (st.core.transport target).isSome = true) (hgone : k.transport target = none) :
    input.event = .disconnect target ∨ ∃ s session payload,
      st.Routes input s session payload ∧
      (st.routeCall cfg input s session payload).1.backpressuredSocketId = some target ∧
      st.channelManager.hasDirectDelivery target = false := by
  have hkept : st.core.transport target ≠ none := by
    rwa [← Option.isSome_iff_ne_none]
  cases hturn with
  | opened s =>
    dsimp only at hgone
    rw [Function.update_apply] at hgone
    split at hgone
    · cases hgone
    · exact absurd hgone hkept
  | upgraded s =>
    dsimp only at hgone
    rw [Function.update_apply] at hgone
    split at hgone
    · cases hgone
    · exact absurd hgone hkept
  | dropped s hevent =>
    rw [Core.transport_drop] at hgone
    split at hgone
    next hs => exact .inl (hs ▸ hevent)
    next => exact absurd hgone hkept
  | refused s session payload error hroutes hres =>
    obtain ⟨hname, hno⟩ := (transport_relieve (by exact hconn)).1 hgone
    refine .inr ⟨s, session, payload, hroutes, hname, ?_⟩
    rwa [hasDirectDelivery, ← (routeCall_backpressured hname).2]
  | buffered s session payload named hroutes hres =>
    obtain ⟨hname, hno⟩ := (transport_relieve (by exact hconn)).1 hgone
    have hname : (st.routeCall cfg input s session payload).1.backpressuredSocketId =
        some target := by
      rw [hres, hname]
    refine .inr ⟨s, session, payload, hroutes, hname, ?_⟩
    rwa [hasDirectDelivery, ← (routeCall_backpressured hname).2]
  | idle | requested | dismissed | refusedJoin | entered | switched | completed | undone | direct |
      left | closed | drained | promoted | released | cleaned => exact absurd hgone hkept

/-- In every reachable state, a message event disconnects only sockets that cannot take a
write, exactly when the message starves no counterparty. -/
theorem spares_writable_iff (cfg : Config) (inputs : List (Input V)) (now bufferedAt : ℕ)
    (s : SocketId) (payload : MessagePayload V) (ack : Bool) :
    (∀ target, CutsOff cfg (after cfg inputs) ⟨now, .message s payload ack bufferedAt⟩ target →
      (after cfg inputs).canWrite target = false) ↔
      ¬Starves cfg (after cfg inputs) ⟨now, .message s payload ack bufferedAt⟩ := by
  have hagrees := agrees_after cfg inputs
  generalize after cfg inputs = st at hagrees ⊢
  set input : Input V := ⟨now, .message s payload ack bufferedAt⟩ with hinput
  constructor
  · rintro hspares ⟨s, session, payload, r, sizeBytes, target, hroutes, haddressed, hwrite, hidle,
      hrefuses⟩
    have hname : (st.routeCall cfg input s session payload).1.backpressuredSocketId =
        some target :=
      (backpressured_iff ..).2 ⟨r, sizeBytes, haddressed, by rw [hrefuses, Bool.and_false]⟩
    obtain ⟨hundirected, hdd⟩ := routeCall_backpressured hname
    have hconn : (st.sockets.get? target).isSome = true := by
      rw [canWrite, Option.any_eq_true] at hwrite
      obtain ⟨socket, hsock, -⟩ := hwrite
      rw [hsock]
      rfl
    have hgone : (step cfg st input).core.transport target = none := by
      obtain ⟨limits, ack, hstep⟩ := @Routes.step_eq V _ cfg _ _ _ _ _ hroutes
      rw [hstep, transport_relayMessage hundirected]
      refine (transport_relieve (by exact core_connected.2 hconn)).2 ⟨hname, ?_⟩
      rwa [hasDirectDelivery, hdd]
    have hcut : CutsOff cfg st input target := by
      refine ⟨hconn, ?_⟩
      rw [← Option.not_isSome_iff_eq_none, ← core_connected, hgone]
      simp
    rw [hspares target hcut] at hwrite
    cases hwrite
  · rintro hno target ⟨hconn, hgone⟩
    by_contra hwrite
    have hwrite : st.canWrite target = true := by simpa using hwrite
    have hgone : (step cfg st input).core.transport target = none := by
      rw [← Option.not_isSome_iff_eq_none, core_connected, hgone]
      simp
    rcases cut_of_turn (turn_of_step cfg st input) (core_connected.2 hconn) hgone with
      hevent | ⟨s, session, payload, hroutes, hname, hidle⟩
    · cases hevent
    obtain ⟨r, sizeBytes, haddressed, hrefuses⟩ := (backpressured_iff ..).1 hname
    refine hno ⟨s, session, payload, r, sizeBytes, target, hroutes, haddressed, hwrite, hidle, ?_⟩
    -- without a delivery in flight there is no listener either, so a budget refused
    have hlistener : st.directTransportListeners.has target = false := by
      rw [JsMap.has_eq, show (st.directTransportListeners.get? target).isSome = _ from
        hagrees.reserved target]
      exact hidle
    have hreceive : st.canSocketReceive target = true := by
      rw [canSocketReceive, hlistener, Bool.not_false, Bool.and_true]
      exact hwrite
    simpa [hreceive] using hrefuses

/-- Two dApps of one address are in channels "c" and "d". The message of the first waits for
a wallet and takes most of the address's budget. The wallet of the second is idle. -/
def crowdedAddress : List (Input String) :=
  [⟨0, .connection 1 "a" 1⟩, ⟨0, .connection 2 "a" 2⟩, ⟨0, .connection 3 "b" 3⟩,
    ⟨0, .joinChannel 1 ⟨.string "c", .string "dapp", .undefined⟩ true true⟩,
    ⟨0, .resumeJoin 1 true⟩,
    ⟨0, .joinChannel 2 ⟨.string "d", .string "dapp", .undefined⟩ true true⟩,
    ⟨0, .resumeJoin 2 true⟩,
    ⟨0, .joinChannel 3 ⟨.string "d", .string "wallet", .undefined⟩ true true⟩,
    ⟨0, .resumeJoin 3 true⟩, ⟨0, .ready 3 false⟩,
    ⟨1, .message 1 ⟨.string "c", "first", .string "dapp", .undefined, .text "first"⟩ true 1⟩]

/-- With a budget of 64 bytes for an address, the next message of the address disconnects
the idle wallet. -/
theorem wallet_starved :
    ¬∀ target, CutsOff { Config.unset with relayMaxBufferedBytesPerIp := 64 }
        (after { Config.unset with relayMaxBufferedBytesPerIp := 64 } crowdedAddress)
        ⟨2, .message 2 ⟨.string "d", "second", .string "dapp", .undefined, .text "second"⟩ true 2⟩
        target →
      (after { Config.unset with relayMaxBufferedBytesPerIp := 64 } crowdedAddress).canWrite
        target = false := by
  intro h
  exact absurd (h 3 ⟨by decide, by decide⟩) (by decide)

end RelayServer

end QrlBackend
