import QrlBackend.Shrinks
import QrlBackend.Upgrades

/-!
# Stranded messages

A message waits in the buffer of its channel until the socket it is for joins the channel or
its reservation promotes it. `Promised` says that the socket, when it is connected, has a
reservation for this very channel, and then its own transport events hand the message over
(`handsOver_ready`).

A socket has one reservation, and switching channels does not end it. A message accepted on
the new channel while the reservation is for the old one (`straddles`) is buffered with nothing
to promote it, and `message_stranded` is a run with such a message. Without such a message
nothing is stranded (`nothing_stranded`).
-/

set_option autoImplicit false

namespace QrlBackend

variable {V : Type}

open ChannelManager RelayServer

/-- Every message buffered for a connected participant is in the channel of its reservation. -/
def Promised (k : Core V) : Prop :=
  ∀ r s p message, (k.manager.content r).participants.get? s = some p →
    message ∈ (k.manager.content r).messageBuffer → message.targetClientType = p.clientType →
    (k.transport s).isSome = true →
    ∃ reservation, k.manager.directDeliveries.get? s = some reservation ∧ reservation.channel = r

namespace RelayServer

variable [Unknown V] (cfg : Config) (st : RelayServer V) (input : Input V)

/-- The message of an event that reaches `channelManager.routeMessage`. -/
def routed : Option (SocketId × Session V × RelayPayload V) :=
  match input.event with
  | .message s raw _ _ =>
    match st.sockets.get? s, st.sessions.get? s, parseMessage raw ⟨s, st.payloads⟩ with
    | some _, some session, .ok payload =>
      if (st.checkRateLimit input.now session.clientIp .message rateLimitMaxMessages).1 then
        some (s, session, payload)
      else none
    | _, _, _ => none
  | _ => none

/-- The message of an event that `channelManager.routeMessage` accepts. -/
def accepts : Option (SocketId × RelayPayload V) :=
  (st.routed input).bind fun (s, session, payload) =>
    if (st.routeCall cfg input s session payload).1.error = none then some (s, payload)
    else none

/-- The event is a message accepted while the reservation of its target is for another
channel. -/
def straddles : Bool :=
  (st.accepts cfg input).any fun (s, payload) =>
    (st.channelManager.channels.get? payload.id).any fun r =>
      (counterparty (st.channelManager.channel r).participants s).any fun target =>
        (st.channelManager.directDeliveries.get? target).any (·.channel ≠ r)

variable {cfg st input} {s : SocketId} {session : Session V} {payload : RelayPayload V}

theorem Routes.routed (h : st.Routes input s session payload) :
    st.routed input = some (s, session, payload) := by
  obtain ⟨raw, ack, hevent, hparse⟩ := h.event
  obtain ⟨socket, hsock⟩ := Option.isSome_iff_exists.1 h.connected
  simp [RelayServer.routed, hevent, hparse, hsock, h.found, h.allowed]

theorem Routes.accepts (h : st.Routes input s session payload)
    (hres : (st.routeCall cfg input s session payload).1.error = none) :
    st.accepts cfg input = some (s, payload) := by
  simp [RelayServer.accepts, h.routed, hres]

/-- Where no message straddles, the reservation of the target is for the message's channel. -/
theorem Routes.channel_of_not_straddles (h : st.Routes input s session payload)
    (hres : (st.routeCall cfg input s session payload).1.error = none)
    (hguard : st.straddles cfg input = false) {r : ChannelRef} {target : SocketId}
    (hget : st.channelManager.channels.get? payload.id = some r)
    (htarget : counterparty (st.channelManager.content r).participants s = some target)
    {reservation : DirectDeliveryReservation}
    (hreserved : st.channelManager.directDeliveries.get? target = some reservation) :
    reservation.channel = r := by
  have htarget' : counterparty (st.channelManager.channel r).participants s = some target := htarget
  simpa [straddles, h.accepts hres, hget, htarget', hreserved] using hguard

end RelayServer

namespace Promised

/-- Nobody joined and nothing was buffered, and the sockets that stay keep the channel of
their reservation. -/
theorem of_shrinks {k k' : Core V} (h : Promised k) (hshrinks : Shrinks k.manager k'.manager)
    (htransport : ∀ r s p, (k.manager.content r).participants.get? s = some p →
      (k'.transport s).isSome = true → (k.transport s).isSome = true)
    (hdd : ∀ s reservation, (k'.transport s).isSome = true →
      k.manager.directDeliveries.get? s = some reservation →
      ∃ reservation' : DirectDeliveryReservation, k'.manager.directDeliveries.get? s =
        some reservation' ∧ reservation'.channel = reservation.channel) : Promised k' := by
  intro r s p message hp hmem htype hconn
  have hp' := hshrinks.participants r s p hp
  obtain ⟨reservation, hget, hchannel⟩ :=
    h r s p message hp' (hshrinks.mem hmem) htype (htransport r s p hp' hconn)
  obtain ⟨reservation', hget', hsame⟩ := hdd s reservation hconn hget
  exact ⟨reservation', hget', hsame.trans hchannel⟩

/-- The same with reservations and sockets that do not change. -/
theorem of_same {k k' : Core V} (h : Promised k) (hshrinks : Shrinks k.manager k'.manager)
    (htransport : k'.transport = k.transport)
    (hdd : k'.manager.directDeliveries = k.manager.directDeliveries) : Promised k' :=
  h.of_shrinks hshrinks (fun _ _ _ _ hconn => htransport ▸ hconn)
    fun _ reservation _ hget => ⟨reservation, hdd ▸ hget, rfl⟩

theorem drop {k : Core V} (h : Promised k) (now : ℕ) (s : SocketId) : Promised (k.drop now s) := by
  refine h.of_shrinks (Shrinks.drop now k s) (fun _ s' _ _ hconn => (Core.connected_drop hconn).2)
    fun s' reservation hconn hget => ⟨reservation, ?_, rfl⟩
  rw [Core.directDeliveries_drop now k (Core.connected_drop hconn).1, hget]

theorem relieve {k : Core V} (h : Promised k) (now : ℕ) (target : Option SocketId) :
    Promised (k.relieve now target) := by
  refine h.of_shrinks (Shrinks.relieve now k target)
    (fun _ s _ _ hconn => (Core.connected_relieve hconn).1)
    fun s reservation hconn hget => ⟨reservation, ?_, rfl⟩
  rw [(Core.connected_relieve hconn).2.1, hget]

end Promised

/-- The participant a buffered message is for is the target of its routing. -/
theorem RelayServer.Pushed.target_of_participant {m m' : ChannelManager V} {now : ℕ}
    {s target : SocketId} {payload : RelayPayload V} {backpressured : Option SocketId}
    {r : ChannelRef} {message : BufferedMessage V} {p : Participant}
    (h : Pushed m m' now s payload backpressured r message)
    (hroles : RoleExclusive (m.content r).participants)
    (hp : (m.content r).participants.get? target = some p)
    (htype : message.targetClientType = p.clientType) :
    counterparty (m.content r).participants s = some target := by
  obtain ⟨sender, hsender, hsenderType⟩ := h.sender
  have hother : p.clientType = sender.clientType.other := by
    rw [← htype, h.targetClientType, hsenderType]
  have hne : target ≠ s := by
    rintro rfl
    rw [hsender, Option.some.injEq] at hp
    subst hp
    exact ClientType.other_ne _ hother.symm
  cases hcounterparty : counterparty (m.content r).participants s with
  | none => exact absurd (counterparty_none hcounterparty target p hp) hne
  | some target' =>
    obtain ⟨-, q, hq⟩ := counterparty_some hcounterparty
    have hqType := hroles.counterparty_clientType hsender hcounterparty hq
    rw [hroles target' target q p hq hp (hqType.trans hother.symm)]

variable [Unknown V] {cfg : Config} {st : RelayServer V} {input : Input V} {k : Core V}

namespace Promised

variable {s : SocketId} {session : Session V} {payload : RelayPayload V}

omit [Unknown V] in
/-- A join takes what is buffered for the role that joins. -/
theorem joined {now : ℕ} {request : JoinRequest} {messages : List (RelayPayload V)}
    {key : Option String} {roster : List ClientType} (h : Promised st.core)
    (hagrees : Agrees st.core)
    (hres : (st.joinCall now s session request).1 = .success messages key roster false) :
    Promised { st.core with manager := (st.joinCall now s session request).2 } := by
  intro r s' p message hp hmem htype hconn
  dsimp only at hp hmem hconn ⊢
  rw [hagrees.directDeliveries_joinCall]
  obtain ⟨r₀, c, key, stale, hadmitted⟩ := admitted_of_success hres
  rcases hadmitted.participants hp with ⟨-, rfl, rfl⟩ | hold
  · exact absurd htype (hadmitted.drained hmem)
  · exact h r s' p message hold ((hadmitted.buffers r).subset hmem) htype hconn

omit [Unknown V] in
/-- A socket that connects takes part in nothing. -/
theorem opened {k : Core V} (h : Promised k) (henrolled : Enrolled k) (hnew : k.session s = none)
    (transport : Option TransportRef) (session : Option (Session V)) :
    Promised { k with
      transport := Function.update k.transport s transport
      session := Function.update k.session s session } := by
  refine h.of_shrinks (.refl _) (fun r s' p hp hconn => ?_) fun _ d _ hget => ⟨d, hget, rfl⟩
  have hne : s' ≠ s := by
    rintro rfl
    have hses := henrolled.session r s' p hp
    simp [hnew] at hses
  dsimp only at hconn
  rwa [Function.update_of_ne hne] at hconn

/-- A message that is buffered is for its target, which has a reservation or is gone. -/
theorem buffered {target : Option SocketId} (h : Promised st.core)
    (hmanaged : Managed cfg st.channelManager) (hguard : st.straddles cfg input = false)
    (hroutes : st.Routes input s session payload)
    (hres : (st.routeCall cfg input s session payload).1 = ⟨none, target, true, none⟩) :
    Promised (({ st.core with
      manager := (st.routeCall cfg input s session payload).2
      payloads := st.payloads + 1
      accepted := st.accepted ++ acceptance st.channelManager payload.id s payload } :
        Core V).relieve input.now target) := by
  obtain ⟨r, message, hpushed⟩ := pushed_of_buffered hres
  intro r' s' p message' hp hmem htype hconn
  have hshrinks := Shrinks.relieve input.now _ target |>.participants r' s' p hp
  obtain ⟨hconn₁, hdd, hhas⟩ := Core.connected_relieve hconn
  have hp₁ : (st.channelManager.content r').participants.get? s' = some p := by
    rw [← hpushed.participants]
    exact hshrinks
  have hmem₁ := hpushed.mem ((Shrinks.relieve input.now _ target).mem hmem)
  have hdd₁ := hdd.trans (congrArg (·.get? s') hpushed.directDeliveries)
  rw [hdd₁]
  rcases hmem₁ with ⟨rfl, rfl⟩ | hold
  · have htarget := hpushed.target_of_participant (hmanaged.roleExclusive _) hp₁ htype
    have hreserved := hhas (hpushed.target_eq.trans htarget)
    rw [hasDirectDelivery, hpushed.directDeliveries, JsMap.has] at hreserved
    obtain ⟨reservation, hget⟩ := Option.isSome_iff_exists.1 hreserved
    have hnone : (st.routeCall cfg input s session payload).1.error = none := by rw [hres]
    exact ⟨reservation, hget,
      hroutes.channel_of_not_straddles hnone hguard hpushed.get htarget hget⟩
  · exact h r' s' p message' hp₁ hold htype hconn₁

omit [Unknown V] in
/-- A promotion keeps the channel of the reservation. -/
theorem promoted {listener : SocketId → Option Listener} (h : Promised st.core)
    (hres : (st.channelManager.advanceDirectDelivery s).1 = some payload) :
    Promised ({ st.core with
      manager := (st.channelManager.advanceDirectDelivery s).2, listener }.hand s [payload]) := by
  obtain ⟨r, p, next, hpromoted⟩ := promoted_of_advance hres
  obtain ⟨reservation, hchannel, hreserved⟩ := hpromoted.reservation
  refine h.of_shrinks hpromoted.shrinks (fun _ _ _ _ => id) fun s' d _ hget => ?_
  obtain ⟨reservation', hchannel', hget'⟩ := hpromoted.directDeliveries s'
  by_cases hs : s' = s
  · subst hs
    have hsame : reservation = d := Option.some.inj (hreserved.symm.trans hget)
    exact ⟨reservation', hget'.trans (if_pos rfl), by rw [hchannel', ← hsame, hchannel]⟩
  · exact ⟨d, (hget'.trans (if_neg hs)).trans hget, rfl⟩

end Promised

theorem promised_turn (hturn : Turn cfg st input k) (hmanaged : Managed cfg st.channelManager)
    (hagrees : Agrees st.core) (henrolled : Enrolled st.core)
    (hguard : st.straddles cfg input = false) (h : Promised st.core) : Promised k := by
  cases hturn with
  | idle | requested | dismissed | completed | drained => exact h.of_same (.refl _) rfl rfl
  | opened s _ hnew => exact h.opened henrolled hnew _ _
  | upgraded s _ _ hconn =>
    refine h.of_shrinks (.refl _) (fun r s' p hp hconn' => ?_) fun _ d _ hget => ⟨d, hget, rfl⟩
    by_cases hs : s' = s
    · rw [hs]
      exact core_connected.2 hconn
    · dsimp only at hconn'
      rwa [Function.update_of_ne hs] at hconn'
  | refusedJoin s session request error joining hses hentering hres =>
    exact h.of_shrinks (refusedJoin_of_failure hres).shrinks (fun _ _ _ _ => id)
      fun s' d _ hget => ⟨d, (hagrees.directDeliveries_joinCall _ _ _ _ s').trans hget, rfl⟩
  | entered s session request messages key roster delivered _ _ _ hres =>
    exact (h.joined hagrees hres).of_same (.refl _) rfl rfl
  | switched s session request messages key roster previous resolves _ _ _ hres =>
    exact (h.joined hagrees hres).of_same (Shrinks.leave _ _ s previous) rfl
      (directDeliveries_leave _ _ _ _)
  | undone | left =>
    exact h.of_same (Shrinks.leave _ _ _ _) rfl (directDeliveries_leave _ _ _ _)
  | closed =>
    exact h.of_same ((Shrinks.leave _ _ _ _).trans (Shrinks.close _ _ _)) rfl
      ((directDeliveries_close _ _ _).trans (directDeliveries_leave _ _ _ _))
  | cleaned => exact h.of_same (Shrinks.cleanup _ _) rfl (cleanup_spec _ _).2.2.2.2
  | refused s session payload error _ hres =>
    have htouched := touched_of_error hres
    refine Promised.relieve ?_ _ _
    exact h.of_same htouched.shrinks rfl htouched.directDeliveries
  | buffered s session payload target hroutes hres => exact h.buffered hmanaged hguard hroutes hres
  | direct s session payload target transport _ hres htransport =>
    obtain ⟨r, hgranted⟩ := granted_of_direct hres
    obtain ⟨reservation, -, hdd⟩ := hgranted.directDeliveries
    refine h.of_shrinks hgranted.shrinks (fun _ _ _ _ => id) fun s' d _ hget => ⟨d, ?_, rfl⟩
    have hne : s' ≠ target := by
      rintro rfl
      have hfree : st.core.manager.directDeliveries.get? s' = none := hgranted.free
      rw [hfree] at hget
      cases hget
    dsimp only [Core.hand]
    rw [hdd, JsMap.get?_set_of_ne _ _ hne]
    exact hget
  | dropped s => exact h.drop _ s
  | promoted s transport payload _ _ hres => exact h.promoted hres
  | released s transport htransport _ hres =>
    have hexhausted := exhausted_of_advance hres
    intro r s' p message hp hmem htype hconn
    have hp' := hexhausted.shrinks.participants r s' p hp
    have hmem' := hexhausted.shrinks.mem hmem
    obtain ⟨d, hget, rfl⟩ := h r s' p message hp' hmem' htype hconn
    refine ⟨d, ((hexhausted.directDeliveries s').trans (if_neg ?_)).trans hget, rfl⟩
    rintro rfl
    exact hexhausted.empty d hget p hp' (hmanaged.live_of_mem hmem') message hmem' htype

/-! ## The socket's own events -/

/-- The socket's own transport events lead to the hand-over of the message. -/
def HandsOver (cfg : Config) (st : RelayServer V) (s : SocketId)
    (payload : RelayPayload V) : Prop :=
  ∃ inputs : List (Input V), (∀ i ∈ inputs, OwnTransport s i) ∧
    (s, payload) ∈ (Runs.run (step cfg) st inputs).handed

variable (cfg)

omit [Unknown V] in
/-- A reservation whose channel has a message for its socket promotes the oldest one. -/
theorem promoted_of_buffered {m : ChannelManager V} {s : SocketId}
    {reservation : DirectDeliveryReservation} {p : Participant} {message : BufferedMessage V}
    (hreserved : m.directDeliveries.get? s = some reservation)
    (hp : (m.content reservation.channel).participants.get? s = some p)
    (hlive : (m.content reservation.channel).terminated = false)
    (hmem : message ∈ (m.content reservation.channel).messageBuffer)
    (htype : message.targetClientType = p.clientType) :
    ∃ next, (m.advanceDirectDelivery s).1 = some next.data ∧
      Promoted m (m.advanceDirectDelivery s).2 s next.data reservation.channel p next := by
  cases hres : (m.advanceDirectDelivery s).1 with
  | none =>
    exact absurd htype ((exhausted_of_advance hres).empty _ hreserved p hp hlive message hmem)
  | some payload =>
    obtain ⟨r, p', next, hpromoted⟩ := promoted_of_advance hres
    obtain ⟨reservation', hchannel, hget⟩ := hpromoted.reservation
    obtain rfl : reservation = reservation' := Option.some.inj (hreserved.symm.trans hget)
    subst hchannel
    obtain rfl : p = p' := Option.some.inj (hp.symm.trans hpromoted.participant)
    obtain rfl := hpromoted.data
    exact ⟨next, rfl, hpromoted⟩

/-- Each ready event hands over the oldest message, so the buffer bounds the events it
takes. -/
theorem handsOver_ready (n : ℕ) : ∀ {st : RelayServer V} {s : SocketId}
    {reservation : DirectDeliveryReservation} (p : Participant) (message : BufferedMessage V),
    Listens st s .ready →
    st.channelManager.directDeliveries.get? s = some reservation →
    (st.channelManager.content reservation.channel).participants.get? s = some p →
    (st.channelManager.content reservation.channel).terminated = false →
    message ∈ (st.channelManager.content reservation.channel).messageBuffer →
    message.targetClientType = p.clientType →
    (st.channelManager.content reservation.channel).messageBuffer.length = n →
    HandsOver cfg st s message.data := by
  induction n using Nat.strong_induction_on with
  | _ n ih =>
  intro st s reservation p message hlistens hreserved hp hlive hmem htype hlength
  obtain ⟨next, hres, hpromoted⟩ := promoted_of_buffered hreserved hp hlive hmem htype
  obtain ⟨hlistens₁, hm₁, hhanded₁⟩ := hlistens.promote cfg 0 hres
  rcases List.mem_cons.1 ((perm_cons_eraseP hpromoted.oldest).mem_iff.1 hmem) with rfl | hrest
  · refine ⟨[⟨0, .ready s false⟩], by simp [OwnTransport], ?_⟩
    rw [Runs.run_cons, Runs.run_nil, hhanded₁]
    exact List.mem_append_right _ (List.mem_singleton_self _)
  · obtain ⟨hlistens₂, hm₂, -⟩ := hlistens₁.drain cfg 0
    obtain ⟨reservation', hchannel, hget'⟩ := hpromoted.directDeliveries s
    have hcontent := hpromoted.content reservation.channel
    rw [if_pos rfl] at hget' hcontent
    have hshorter := hpromoted.length_lt
    rw [← hm₁, ← hm₂] at hget' hcontent hshorter
    rw [hlength] at hshorter
    obtain ⟨inputs, hevents, hrun⟩ := ih _ hshorter p message hlistens₂ hget'
      (by rw [hchannel, hcontent]; exact hp) (by rw [hchannel, hcontent]; exact hlive)
      (by rw [hchannel, hcontent]; exact hrest) htype (by rw [hchannel])
    exact ⟨⟨0, .ready s false⟩ :: ⟨0, .drain s⟩ :: inputs,
      List.forall_mem_cons.2 ⟨.inr rfl, List.forall_mem_cons.2 ⟨.inl rfl, hevents⟩⟩, hrun⟩

/-! ## Runs -/

/-- No connected participant has messages in the buffer of its channel that no event will
promote : its reservation is for the channel, the next ready event promotes the oldest
message, and the socket's own transport events hand over every one. -/
structure NothingStranded (st : RelayServer V) : Prop where
  promised : Promised st.core
  promotes : ∀ r s p message, (st.channelManager.content r).participants.get? s = some p →
    message ∈ (st.channelManager.content r).messageBuffer →
    message.targetClientType = p.clientType → Listens st s .ready →
    ∃ next, (st.channelManager.content r).messageBuffer.find?
        (·.targetClientType = p.clientType) = some next ∧
      ∀ now, (step cfg st ⟨now, .ready s false⟩).handed = st.handed ++ [(s, next.data)]
  handsOver : ∀ r s p message, (st.channelManager.content r).participants.get? s = some p →
    message ∈ (st.channelManager.content r).messageBuffer →
    message.targetClientType = p.clientType → (st.sockets.get? s).isSome = true →
    HandsOver cfg st s message.data

theorem promised_after {inputs : List (Input V)}
    (hguard : Runs.Guarded (step cfg) (fun st i => st.straddles cfg i = false) (create cfg)
      inputs) :
    Promised (RelayServer.after cfg inputs).core :=
  Runs.Guarded.run_reached (I := fun st : RelayServer V => Promised st.core)
    (fun r s p _ hp => absurd hp (not_participant_create cfg r s p))
    (fun inputs input h hok => promised_turn (turn_of_step cfg _ input) (managed_after cfg inputs)
      (agrees_after cfg inputs) (enrolled_after cfg inputs) hok h) hguard

/-- In a run without straddling messages, in which no socket is upgraded while a listener is
armed on it, nothing is stranded. -/
theorem nothing_stranded {inputs : List (Input V)}
    (hguard : Runs.Guarded (step cfg)
      (fun st i => st.straddles cfg i = false ∧ st.upgradesArmed i = false) (create cfg) inputs) :
    NothingStranded cfg (RelayServer.after cfg inputs) := by
  have hpromised := promised_after cfg (hguard.mono fun _ _ hok => hok.1)
  have hattached := attached_after cfg (hguard.mono fun _ _ hok => hok.2)
  have hagrees := agrees_after cfg inputs
  have hmanaged := managed_after cfg inputs
  generalize RelayServer.after cfg inputs = st at hpromised hattached hagrees hmanaged ⊢
  refine ⟨hpromised, fun r s p message hp hmem htype hlistens => ?_,
    fun r s p message hp hmem htype hconn => ?_⟩
  · obtain ⟨socket, hsock, hlistener⟩ := hlistens
    have hconn : (st.core.transport s).isSome = true := by simp [core, hsock]
    obtain ⟨reservation, hget, rfl⟩ := hpromised r s p message hp hmem htype hconn
    obtain ⟨next, hres, hpromoted⟩ := promoted_of_buffered hget hp (hmanaged.live_of_mem hmem) hmem
      htype
    exact ⟨next, hpromoted.oldest, fun now =>
      (Listens.promote cfg ⟨socket, hsock, hlistener⟩ now hres).2.2⟩
  · obtain ⟨reservation, hget, rfl⟩ :=
      hpromised r s p message hp hmem htype (core_connected.2 hconn)
    obtain ⟨event, hlistens⟩ :=
      listens_of_reserved hagrees hattached (Option.isSome_iff_exists.2 ⟨reservation, hget⟩)
    cases event with
    | ready =>
      exact handsOver_ready cfg _ p message hlistens hget hp (hmanaged.live_of_mem hmem) hmem htype
        rfl
    | drain =>
      obtain ⟨hlistens₁, hm₁, -⟩ := hlistens.drain cfg 0
      obtain ⟨inputs, hevents, hrun⟩ := handsOver_ready cfg _ p message hlistens₁ (hm₁ ▸ hget)
        (hm₁ ▸ hp) (hm₁ ▸ hmanaged.live_of_mem hmem) (hm₁ ▸ hmem) htype rfl
      exact ⟨⟨0, .drain s⟩ :: inputs, List.forall_mem_cons.2 ⟨.inl rfl, hevents⟩, hrun⟩

/-- Two dapps in channels of their own. A wallet takes a message of the first, switches to
the channel of the second, and is sent a message there. -/
def straddlingMessage : List (Input String) :=
  [⟨0, .connection 1 "a" 1⟩, ⟨0, .connection 2 "b" 2⟩, ⟨0, .connection 3 "c" 3⟩,
    ⟨0, .joinChannel 1 ⟨.string "c", .string "dapp", .undefined⟩ true true⟩,
    ⟨0, .resumeJoin 1 true⟩,
    ⟨0, .joinChannel 2 ⟨.string "d", .string "dapp", .undefined⟩ true true⟩,
    ⟨0, .resumeJoin 2 true⟩,
    ⟨0, .joinChannel 3 ⟨.string "c", .string "wallet", .undefined⟩ true true⟩,
    ⟨0, .resumeJoin 3 true⟩, ⟨0, .drain 3⟩, ⟨0, .ready 3 false⟩,
    ⟨1, .message 1 ⟨.string "c", "first", .string "dapp", .undefined, .text "first"⟩ true 1⟩,
    ⟨2, .joinChannel 3 ⟨.string "d", .string "wallet", .undefined⟩ true true⟩,
    ⟨2, .resumeJoin 3 true⟩, ⟨2, .resumeJoin 3 true⟩,
    ⟨3, .message 2 ⟨.string "d", "second", .string "dapp", .undefined, .text "second"⟩ true 3⟩]

/-- The second message was accepted and is buffered for the connected wallet, whose
reservation is for the channel it left. The wallet's next ready event ends the reservation
and leaves the message where it is. -/
theorem message_stranded :
    ((RelayServer.after .unset straddlingMessage).sessions.values.all (·.joining.isNone)) = true ∧
    ¬Promised (RelayServer.after .unset straddlingMessage).core ∧
    ¬Promised (RelayServer.after .unset
      (straddlingMessage ++ [⟨4, .drain 3⟩, ⟨4, .ready 3 false⟩])).core := by
  have hnot : ∀ inputs : List (Input String),
      (((RelayServer.after .unset inputs).channelManager.content 1).participants.get? 3).map
        (·.clientType) = some .wallet →
      ((RelayServer.after .unset inputs).channelManager.content 1).messageBuffer.head?.map
        (·.targetClientType) = some .wallet →
      ((RelayServer.after .unset inputs).sockets.get? 3).isSome = true →
      ((RelayServer.after .unset inputs).channelManager.directDeliveries.get? 3).map (·.channel) ≠
        some 1 →
      ¬Promised (RelayServer.after .unset inputs).core := by
    intro inputs hp hhead hconn hreserved hpromised
    obtain ⟨p, hp, hptype⟩ := Option.map_eq_some_iff.1 hp
    obtain ⟨message, hhead, htype⟩ := Option.map_eq_some_iff.1 hhead
    obtain ⟨reservation, hget, hchannel⟩ := hpromised 1 3 p message hp (List.mem_of_mem_head? hhead)
      (htype.trans hptype.symm) (core_connected.2 hconn)
    exact hreserved (Option.map_eq_some_iff.2 ⟨reservation, hget, hchannel⟩)
  exact ⟨by decide, hnot _ (by decide) (by decide) (by decide) (by decide),
    hnot _ (by decide) (by decide) (by decide) (by decide)⟩

/-- A message buffered behind one in flight on the same channel is not stranded. -/
theorem nothing_stranded_behind : NothingStranded (V := String) .unset (RelayServer.after .unset
    [⟨0, .connection 1 "a" 1⟩, ⟨0, .connection 2 "b" 2⟩,
      ⟨0, .joinChannel 1 ⟨.string "c", .string "dapp", .undefined⟩ true true⟩,
      ⟨0, .resumeJoin 1 true⟩,
      ⟨0, .joinChannel 2 ⟨.string "c", .string "wallet", .undefined⟩ true true⟩,
      ⟨0, .resumeJoin 2 true⟩, ⟨0, .drain 2⟩, ⟨0, .ready 2 false⟩,
      ⟨1, .message 1 ⟨.string "c", "first", .string "dapp", .undefined, .text "first"⟩ true 1⟩,
      ⟨2, .message 1
          ⟨.string "c", "second", .string "dapp", .undefined, .text "second"⟩ true 2⟩]) :=
  nothing_stranded .unset (by decide)

end QrlBackend
