import QrlBackend.Shrinks

/-!
# Where accepted messages wait

An accepted message that was not handed over at once waits in the buffer of its channel, or
in a join handler that took it out of the buffer and is suspended before its ack
(`Core.held`). Only a switching join, between leaving the old room and its ack, holds
messages.

A buffered message is on record : it was accepted on this very channel object, its id is
that of the channel, and it is for the role its sender did not have (`Recorded`).
-/

set_option autoImplicit false

namespace QrlBackend

variable {V : Type}

open ChannelManager RelayServer

/-- The messages that the ack of a suspended join will hand over. -/
def Session.held (session : Session V) : List (RelayPayload V) :=
  match session.joining with
  | some ⟨request, .leavingPrevious messages _ _ true⟩ => if request.ack then messages else []
  | _ => []

/-- The messages held for a socket. A socket that is gone gets no ack. -/
def Core.held (k : Core V) (s : SocketId) : List (RelayPayload V) :=
  if (k.transport s).isSome then (k.session s).elim [] Session.held else []

/-- A session that waits for nothing holds nothing. -/
theorem Session.held_of_settled {session : Session V} (h : Settled session.joining) :
    session.held = [] := by
  unfold Session.held
  split
  next heq => simp [heq, Settled] at h
  next => rfl

namespace Core

/-- Nor does a socket that is gone. -/
theorem held_of_gone {k : Core V} {s : SocketId} (h : k.transport s = none) : k.held s = [] := by
  simp [held, h]

/-- What a socket holds depends on whether it is connected, and on its session. -/
theorem held_congr {k k' : Core V} {s : SocketId}
    (htransport : (k'.transport s).isSome = (k.transport s).isSome)
    (hsession : k'.session s = k.session s) : k'.held s = k.held s := by
  rw [held, held, htransport, hsession]

theorem held_sublist {k k' : Core V} {s : SocketId}
    (htransport : (k'.transport s).isSome = (k.transport s).isSome)
    (hsession : k'.session s = k.session s) : (k'.held s).Sublist (k.held s) :=
  held_congr htransport hsession ▸ .refl _

theorem held_setSession_of_ne {k : Core V} {s s' : SocketId} (hs : s' ≠ s) (session : Session V) :
    (k.setSession s session).held s' = k.held s' :=
  held_congr rfl (Function.update_of_ne hs _ _)

/-- A session that holds less. -/
theorem held_setSession {k : Core V} {s : SocketId} {session session' : Session V}
    (hses : k.session s = some session) (hheld : session'.held.Sublist session.held)
    (s' : SocketId) : ((k.setSession s session').held s').Sublist (k.held s') := by
  by_cases hs : s' = s
  · subst hs
    simp only [held, setSession, Function.update_self, hses, Option.elim_some]
    split
    · exact hheld
    · exact .refl _
  · rw [held_setSession_of_ne hs]

/-- What a switching join holds is what it took out of the buffer. -/
theorem held_switching {k : Core V} {s : SocketId} {session : Session V} {request : JoinRequest}
    {messages : List (RelayPayload V)} {key : Option String} {roster : List ClientType}
    {resolves : Bool} (hses : k.session s = some { session with
      joining := some ⟨request, .leavingPrevious messages key roster resolves⟩ }) :
    (k.held s).Sublist messages := by
  simp only [held, hses, Option.elim_some, Session.held]
  split
  · cases resolves with
    | false => exact List.nil_sublist _
    | true =>
      dsimp only
      split
      · exact .refl _
      · exact List.nil_sublist _
  · exact List.nil_sublist _

/-- A join that has nothing more to do with any channel holds nothing. -/
theorem held_settled {k : Core V} {s : SocketId} {session session' : Session V}
    (hses : k.session s = some session) (hsettled : Settled session'.joining) (s' : SocketId) :
    ((k.setSession s session').held s').Sublist (k.held s') := by
  refine held_setSession hses ?_ s'
  rw [Session.held_of_settled hsettled]
  exact List.nil_sublist _

/-- A new connection holds nothing. -/
theorem held_opened (k : Core V) (s : SocketId) (transport : TransportRef) (clientIp : String)
    (s' : SocketId) :
    (({ k with
      transport := Function.update k.transport s (some transport)
      session := Function.update k.session s (some ⟨clientIp, none, false, none⟩) } :
        Core V).held s').Sublist (k.held s') := by
  by_cases hs : s' = s
  · subst hs
    refine List.Sublist.trans ?_ (List.nil_sublist _)
    simp [held, Session.held]
  · exact held_sublist (congrArg Option.isSome (Function.update_of_ne hs _ _))
      (Function.update_of_ne hs _ _)

/-- An upgrade changes nothing that is held. -/
theorem held_upgraded {k : Core V} {s : SocketId} (hconn : (k.transport s).isSome = true)
    (transport : TransportRef) (s' : SocketId) :
    (({ k with transport := Function.update k.transport s (some transport) } :
      Core V).held s').Sublist (k.held s') := by
  refine held_sublist ?_ rfl
  dsimp only
  rw [Function.update_apply]
  split
  next hs => rw [hs, hconn]; rfl
  next => rfl

/-- Only connected sockets hold messages. -/
theorem connected_of_held {k : Core V} {s : SocketId} {payload : RelayPayload V}
    (h : payload ∈ k.held s) : (k.transport s).isSome = true := by
  by_contra hgone
  rw [held_of_gone (Option.not_isSome_iff_eq_none.1 hgone)] at h
  cases h

theorem session_drop (now : ℕ) (k : Core V) {s s' : SocketId} (hs : s' ≠ s) :
    (k.drop now s).session s' = k.session s' := by
  unfold drop
  split
  · exact Function.update_of_ne hs _ _
  · rfl

/-- A disconnection can only lose what is held. -/
theorem held_drop (now : ℕ) (k : Core V) (s s' : SocketId) :
    ((k.drop now s).held s').Sublist (k.held s') := by
  by_cases hs : s' = s
  · rw [held_of_gone ((transport_drop now k s s').trans (if_pos hs))]
    exact List.nil_sublist _
  · exact held_sublist (by rw [transport_drop, if_neg hs]) (session_drop now k hs)

theorem held_relieve (now : ℕ) (k : Core V) (target : Option SocketId) (s : SocketId) :
    ((k.relieve now target).held s).Sublist (k.held s) := by
  unfold relieve
  split
  · exact .refl _
  · split
    · exact .refl _
    · exact held_drop now k _ s

end Core

/-! ## Records -/

/-- The accepted messages and the channel objects they were accepted on. -/
structure Recorded (k : Core V) : Prop where
  buffered : ∀ r, ∀ message ∈ (k.manager.content r).messageBuffer,
    message.targetClientType = message.data.clientType.other ∧
    ⟨r, message.data.clientType, message.data⟩ ∈ k.accepted
  allocated : ∀ e ∈ k.accepted, e.channel < k.manager.objects.next
  named : ∀ e ∈ k.accepted, ∀ id, k.manager.channels.get? id = some e.channel → e.payload.id = id

namespace Recorded

/-- Records last while no message is accepted. -/
theorem of_shrinks {k k' : Core V} (h : Recorded k) (hshrinks : Shrinks k.manager k'.manager)
    (haccepted : k'.accepted = k.accepted) : Recorded k' where
  buffered r message hmem := haccepted ▸ h.buffered r message (hshrinks.mem hmem)
  allocated e he := hshrinks.next ▸ h.allocated e (haccepted ▸ he)
  named e he id hget := h.named e (haccepted ▸ he) id (hshrinks.entries id _ hget)

/-- Buffered messages of a channel carry its id. -/
theorem id_eq {k : Core V} (h : Recorded k) {id : String} {r : ChannelRef}
    {message : BufferedMessage V} (hget : k.manager.channels.get? id = some r)
    (hmem : message ∈ (k.manager.content r).messageBuffer) : message.data.id = id :=
  h.named _ (h.buffered r message hmem).2 id hget

/-- A message that is accepted and buffered is on record. -/
theorem accept {k k' : Core V} (h : Recorded k) {r : ChannelRef} {payload : RelayPayload V}
    (hsound : MapSound k.manager) (hget : k.manager.channels.get? payload.id = some r)
    (hnew : ∀ r', ∀ message ∈ (k'.manager.content r').messageBuffer,
      (r' = r ∧ message.data = payload ∧ message.targetClientType = payload.clientType.other) ∨
      message ∈ (k.manager.content r').messageBuffer)
    (hch : k'.manager.channels = k.manager.channels)
    (hnext : k'.manager.objects.next = k.manager.objects.next)
    (haccepted : k'.accepted = k.accepted ++ [⟨r, payload.clientType, payload⟩]) :
    Recorded k' where
  buffered r' message hmem := by
    rw [haccepted]
    rcases hnew r' message hmem with ⟨rfl, rfl, htype⟩ | hold
    · exact ⟨htype, List.mem_append_right _ (List.mem_singleton_self _)⟩
    · obtain ⟨htype, hmem⟩ := h.buffered r' message hold
      exact ⟨htype, List.mem_append_left _ hmem⟩
  allocated e he := by
    rw [haccepted] at he
    rw [hnext]
    rcases List.mem_append.1 he with hold | hnew
    · exact h.allocated e hold
    · rw [List.mem_singleton.1 hnew]
      exact hsound.lt_next payload.id r hget
  named e he id hid := by
    rw [haccepted] at he
    rw [hch] at hid
    rcases List.mem_append.1 he with hold | hnew
    · exact h.named e hold id hid
    · obtain rfl := List.mem_singleton.1 hnew
      exact hsound.injective _ _ r hget hid

end Recorded

/-- What is recorded of an accepted message. -/
theorem RelayServer.acceptance_eq {m : ChannelManager V} {s : SocketId} {payload : RelayPayload V}
    {r : ChannelRef} (hget : m.channels.get? payload.id = some r)
    (hsender : ∃ p, (m.content r).participants.get? s = some p ∧
      p.clientType = payload.clientType) :
    acceptance m payload.id s payload = [⟨r, payload.clientType, payload⟩] := by
  obtain ⟨p, hp, htype⟩ := hsender
  have hp' : (m.channel r).participants.get? s = some p := hp
  simp [acceptance, hget, hp', htype]

variable [Unknown V] {cfg : Config} {st : RelayServer V} {input : Input V} {k : Core V}

/-- Every turn keeps the records. -/
theorem recorded_turn (hturn : Turn cfg st input k) (hmanaged : Managed cfg st.channelManager)
    (h : Recorded st.core) : Recorded k := by
  have hjoined : ∀ {now : ℕ} {s : SocketId} {session : Session V} {request : JoinRequest}
      {messages : List (RelayPayload V)} {key : Option String} {roster : List ClientType},
      (st.joinCall now s session request).1 = .success messages key roster false →
      Recorded { st.core with manager := (st.joinCall now s session request).2 } := by
    intro now s session request messages key roster hres
    obtain ⟨r, c, key, stale, hadmitted⟩ := admitted_of_success hres
    refine ⟨fun r' message hmem => h.buffered r' message ((hadmitted.buffers r').subset hmem),
      fun e he => (h.allocated e he).trans_le hadmitted.next_le,
      fun e he id hget => h.named e he id ?_⟩
    dsimp only at hget
    rcases hadmitted.slot with ⟨-, -, hch, -⟩ | ⟨-, hr, -, hch, -⟩
    · exact hch ▸ hget
    · rw [hch, JsMap.get?_set] at hget
      split at hget
      · -- the entry of the new channel
        have hlt := h.allocated e he
        rw [← Option.some.inj hget, hr] at hlt
        exact absurd hlt (lt_irrefl _)
      · exact hget
  cases hturn with
  | idle | drained | upgraded | opened | requested | dismissed | completed =>
    exact h.of_shrinks (.refl _) rfl
  | refusedJoin s session request error joining _ _ hres =>
    exact h.of_shrinks (refusedJoin_of_failure hres).shrinks rfl
  | entered s session request messages key roster delivered _ _ _ hres =>
    exact (hjoined hres).of_shrinks (.refl _) rfl
  | switched s session request messages key roster previous resolves _ _ _ hres =>
    exact (hjoined hres).of_shrinks (Shrinks.leave _ _ s previous) rfl
  | undone | left => exact h.of_shrinks (Shrinks.leave _ _ _ _) rfl
  | closed => exact h.of_shrinks ((Shrinks.leave _ _ _ _).trans (Shrinks.close _ _ _)) rfl
  | refused s session payload error _ hres =>
    refine Recorded.of_shrinks ?_ (Shrinks.relieve _ _ _) (Core.log_relieve _ _ _).1
    exact h.of_shrinks (touched_of_error hres).shrinks rfl
  | buffered s session payload target _ hres =>
    obtain ⟨r, message, hpushed⟩ := pushed_of_buffered hres
    obtain ⟨hch, -, -, hnext⟩ := tables_eq_iff.1 hpushed.tables
    have haccepted := acceptance_eq hpushed.get hpushed.sender
    refine Recorded.of_shrinks (h.accept hmanaged.mapSound hpushed.get (fun r' message' hmem => ?_)
      hch hnext ?_) (Shrinks.relieve _ _ _) (Core.log_relieve _ _ _).1
    · rcases hpushed.mem hmem with ⟨hr, rfl⟩ | hold
      · exact .inl ⟨hr, hpushed.data, hpushed.targetClientType⟩
      · exact .inr hold
    · exact congrArg (st.accepted ++ ·) haccepted
  | direct s session payload target transport _ hres =>
    obtain ⟨r, hgranted⟩ := granted_of_direct hres
    obtain ⟨hch, -, -, hnext⟩ := tables_eq_iff.1 hgranted.tables
    exact h.accept hmanaged.mapSound hgranted.get
      (fun r' message hmem => .inr (hgranted.shrinks.mem hmem)) hch hnext
      (congrArg (st.accepted ++ ·) (acceptance_eq hgranted.get hgranted.sender))
  | dropped s => exact h.of_shrinks (Shrinks.drop _ _ s) (Core.log_drop _ _ _).1
  | promoted s transport payload _ _ hres =>
    obtain ⟨r, p, next, hpromoted⟩ := promoted_of_advance hres
    exact h.of_shrinks hpromoted.shrinks rfl
  | released s transport _ _ hres => exact h.of_shrinks (exhausted_of_advance hres).shrinks rfl
  | cleaned => exact h.of_shrinks (Shrinks.cleanup _ _) rfl

/-- In every state of a run, what is buffered was accepted. -/
theorem recorded_after (cfg : Config) (inputs : List (Input V)) :
    Recorded (RelayServer.after cfg inputs).core :=
  Runs.Guarded.run_reached (I := fun st : RelayServer V => Recorded st.core)
    ⟨fun _ _ hmem => absurd hmem List.not_mem_nil, fun _ he => absurd he List.not_mem_nil,
      fun _ he => absurd he List.not_mem_nil⟩
    (fun inputs input h _ => recorded_turn (turn_of_step cfg _ input) (managed_after cfg inputs) h)
    (Runs.guarded_true inputs)

end QrlBackend
