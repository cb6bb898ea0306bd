import QrlBackend.Stranding
import QrlBackend.Streams
import QrlBackend.Waiting

/-!
# Messages are handed over in order

The relay is a system of queues in the sense of `Streams` : a queue for each channel id, which
is its buffer, and one for each socket, with what a suspended join holds for it. A stream is
what one sender sends on one channel id in one role. Every turn is a step of that system
(`step_of_turn`), unless it accepts a message while the reservation of its target is for
another channel (`straddles`) or while a suspended join holds messages of its stream
(`overtakes`).

So without such a message every stream is handed over in order (`handed_in_order`). Each
kind of message can overtake an earlier one (`message_overtaken`).
-/

set_option autoImplicit false

namespace QrlBackend

variable {V : Type}

open ChannelManager RelayServer Streams

/-- Where an accepted message waits. -/
inductive Place where
  | buffer (channelId : String)
  | join (s : SocketId)
  deriving DecidableEq

/-- What one sender sends on one channel id in one role is a stream. -/
def RelayPayload.stream (payload : RelayPayload V) : String × SocketId × ClientType :=
  (payload.id, payload.origin.sender, payload.clientType)

/-- The messages buffered under a channel id. -/
def ChannelManager.bufferedUnder (m : ChannelManager V) (channelId : String) :
    List (RelayPayload V) :=
  (m.channels.get? channelId).elim [] fun r => (m.content r).messageBuffer.map (·.data)

/-- The relay as a system of queues. -/
def Core.streams (k : Core V) : Streams.State Place (RelayPayload V) where
  accepted := k.accepted.map (·.payload)
  handed := k.handed.map Prod.snd
  queue
    | .buffer channelId => k.manager.bufferedUnder channelId
    | .join s => k.held s

/-! ## Buffers as queues -/

namespace ChannelManager

theorem bufferedUnder_of_some {m : ChannelManager V} {channelId : String} {r : ChannelRef}
    (h : m.channels.get? channelId = some r) :
    m.bufferedUnder channelId = (m.content r).messageBuffer.map (·.data) := by
  rw [bufferedUnder, h, Option.elim_some]

theorem mem_bufferedUnder {m : ChannelManager V} {channelId : String} {payload : RelayPayload V} :
    payload ∈ m.bufferedUnder channelId ↔ ∃ r, m.channels.get? channelId = some r ∧
      ∃ message ∈ (m.content r).messageBuffer, message.data = payload := by
  unfold bufferedUnder
  cases m.channels.get? channelId with
  | none => simp
  | some r => simp

/-- Entries that stay, with smaller buffers. -/
theorem bufferedUnder_sublist {m m' : ChannelManager V} {channelId : String}
    (hentries : ∀ r, m'.channels.get? channelId = some r → m.channels.get? channelId = some r)
    (hbuffers : ∀ r, m'.channels.get? channelId = some r →
      (m'.content r).messageBuffer.Sublist (m.content r).messageBuffer) :
    (m'.bufferedUnder channelId).Sublist (m.bufferedUnder channelId) := by
  cases hget : m'.channels.get? channelId with
  | none =>
    rw [bufferedUnder, hget]
    exact List.nil_sublist _
  | some r =>
    rw [bufferedUnder_of_some hget, bufferedUnder_of_some (hentries r hget)]
    exact (hbuffers r hget).map _

end ChannelManager

theorem Shrinks.bufferedUnder {m m' : ChannelManager V} (h : Shrinks m m') (channelId : String) :
    (m'.bufferedUnder channelId).Sublist (m.bufferedUnder channelId) :=
  bufferedUnder_sublist (h.entries channelId) fun r _ => h.buffers r

/-- Nothing was buffered, and nothing is held that was not. -/
theorem queue_sublist {k k' : Core V} (hshrinks : Shrinks k.manager k'.manager)
    (hheld : ∀ s, (k'.held s).Sublist (k.held s)) :
    ∀ p, (k'.streams.queue p).Sublist (k.streams.queue p)
  | .buffer channelId => hshrinks.bufferedUnder channelId
  | .join s => hheld s

/-- The messages of a stream are all for one role. -/
theorem other_of_stream {t : ClientType} (p q : RelayPayload V) (h : p.stream = q.stream) :
    decide (p.clientType.other = t) = decide (q.clientType.other = t) := by
  have htype : p.clientType = q.clientType := congrArg (·.2.2) h
  rw [htype]

namespace RelayServer.Admitted

variable {st : RelayServer V} {now : ℕ} {s : SocketId} {request : JoinRequest}
  {m' : ChannelManager V} {messages : List (RelayPayload V)} {r : ChannelRef} {c : Content V}
  {key : Option String} {stale : Option SocketId}

theorem bufferedUnder_before (h : Admitted st now s request m' messages r c key stale) :
    st.channelManager.bufferedUnder request.channelId = c.messageBuffer.map (·.data) := by
  rcases h.slot with ⟨hget, rfl, -⟩ | ⟨hget, -, ⟨creatorIp, rfl⟩, -⟩
  · exact bufferedUnder_of_some hget
  · rw [ChannelManager.bufferedUnder, hget]
    rfl

theorem target_eq (h : Admitted st now s request m' messages r c key stale)
    (hrecorded : Recorded st.core) {message : BufferedMessage V}
    (hmem : message ∈ c.messageBuffer) :
    message.targetClientType = message.data.clientType.other := by
  rcases h.slot with ⟨-, rfl, -⟩ | ⟨-, -, ⟨creatorIp, rfl⟩, -⟩
  · exact (hrecorded.buffered r message hmem).1
  · cases hmem

/-- The join takes the messages for its role out of the buffer. -/
theorem messages_eq (h : Admitted st now s request m' messages r c key stale)
    (hrecorded : Recorded st.core) :
    messages = (st.channelManager.bufferedUnder request.channelId).filter
      fun p => p.clientType.other = request.clientType := by
  rw [h.messages, h.bufferedUnder_before, List.filter_map]
  refine congrArg _ (List.filter_congr fun message hmem => ?_)
  rw [h.target_eq hrecorded hmem]
  rfl

theorem bufferedUnder_after (h : Admitted st now s request m' messages r c key stale)
    (hrecorded : Recorded st.core) :
    m'.bufferedUnder request.channelId =
      (st.channelManager.bufferedUnder request.channelId).filter
        fun p => !decide (p.clientType.other = request.clientType) := by
  rw [bufferedUnder_of_some h.get, h.messageBuffer, h.bufferedUnder_before, List.filter_map]
  refine congrArg _ (List.filter_congr fun message hmem => ?_)
  rw [h.target_eq hrecorded hmem]
  simp

theorem bufferedUnder_of_ne (h : Admitted st now s request m' messages r c key stale)
    {channelId : String} (hne : channelId ≠ request.channelId) :
    (m'.bufferedUnder channelId).Sublist (st.channelManager.bufferedUnder channelId) := by
  refine bufferedUnder_sublist (fun r' hget => ?_) fun r' _ => h.buffers r'
  rcases h.slot with ⟨-, -, hch, -⟩ | ⟨-, -, -, hch, -⟩
  · exact hch ▸ hget
  · rwa [hch, JsMap.get?_set_of_ne _ _ hne] at hget

end RelayServer.Admitted

namespace RelayServer.Pushed

variable {m m' : ChannelManager V} {now : ℕ} {s : SocketId} {payload : RelayPayload V}
  {target : Option SocketId} {r : ChannelRef} {message : BufferedMessage V}

theorem bufferedUnder_self (h : Pushed m m' now s payload target r message) :
    (m'.bufferedUnder payload.id).Sublist (m.bufferedUnder payload.id ++ [payload]) := by
  have hget' : m'.channels.get? payload.id = some r := (tables_eq_iff.1 h.tables).1 ▸ h.get
  rw [bufferedUnder_of_some hget', bufferedUnder_of_some h.get, h.content, if_pos rfl,
    List.map_append, List.map_singleton, h.data]
  exact ((afterEviction_sublist _).map _).append_right _

theorem bufferedUnder_of_ne (h : Pushed m m' now s payload target r message) (hsound : MapSound m)
    {channelId : String} (hne : channelId ≠ payload.id) :
    (m'.bufferedUnder channelId).Sublist (m.bufferedUnder channelId) := by
  have hentries := Shrinks.entries_of_tables h.tables channelId
  refine bufferedUnder_sublist hentries fun r' hget => ?_
  rw [h.content, if_neg]
  rintro rfl
  exact hne (hsound.injective _ _ r' (hentries r' hget) h.get)

end RelayServer.Pushed

/-! ## Moves between the queues -/

variable {st : RelayServer V}

/-- A join hands over what it takes out of the buffer, or part of it. -/
theorem step_of_entered {now : ℕ} {s : SocketId} {request : JoinRequest} {m' : ChannelManager V}
    {messages out : List (RelayPayload V)} {r : ChannelRef} {c : Content V} {key : Option String}
    {stale : Option SocketId} (hadmitted : Admitted st now s request m' messages r c key stale)
    (hrecorded : Recorded st.core) (hout : out.Sublist messages) {k : Core V}
    (hmanager : k.manager = m') (haccepted : k.accepted = st.accepted)
    (hhanded : k.handed = st.core.handed ++ out.map (s, ·))
    (hheld : ∀ s', (k.held s').Sublist (st.core.held s')) :
    Step RelayPayload.stream st.core.streams k.streams := by
  subst hmanager
  refine .hand (.buffer request.channelId) out (fun κ => ?_)
    (congrArg (List.map Acceptance.payload) haccepted) ?_ ?_
  · have hsub : (out ++ k.streams.queue (.buffer request.channelId)).Sublist
        (messages ++ k.manager.bufferedUnder request.channelId) := hout.append_right _
    rw [hadmitted.messages_eq hrecorded, hadmitted.bufferedUnder_after hrecorded] at hsub
    exact (ofStream_sublist hsub κ).trans
      (ofStream_partition (fun p _ q _ => other_of_stream p q) κ)
  · simp [Core.streams, hhanded]
  · rintro (channelId | s') hp
    · exact hadmitted.bufferedUnder_of_ne (by simpa using hp)
    · exact hheld s'

/-- A switching join holds what it takes out of the buffer. -/
theorem step_of_switched {now : ℕ} {s : SocketId} {request : JoinRequest} {m' : ChannelManager V}
    {messages : List (RelayPayload V)} {r : ChannelRef} {c : Content V} {key : Option String}
    {stale : Option SocketId} (hadmitted : Admitted st now s request m' messages r c key stale)
    (hrecorded : Recorded st.core) {k : Core V} (hshrinks : Shrinks m' k.manager)
    (haccepted : k.accepted = st.accepted) (hhanded : k.handed = st.core.handed)
    (hself : (k.held s).Sublist messages)
    (hheld : ∀ s' ≠ s, (k.held s').Sublist (st.core.held s')) :
    Step RelayPayload.stream st.core.streams k.streams := by
  refine .move (.buffer request.channelId) (.join s)
    (fun p => decide (p.clientType.other = request.clientType))
    (fun p _ q _ => other_of_stream p q) (congrArg (List.map Acceptance.payload) haccepted)
    (congrArg (List.map Prod.snd) hhanded) ?_
  rintro (channelId | s')
  · have hleft := hshrinks.bufferedUnder channelId
    rw [if_neg nofun]
    by_cases hid : channelId = request.channelId
    · subst hid
      rw [if_pos rfl]
      rwa [hadmitted.bufferedUnder_after hrecorded] at hleft
    · rw [if_neg (by simpa using hid)]
      exact hleft.trans (hadmitted.bufferedUnder_of_ne hid)
  · by_cases hs : s' = s
    · subst hs
      rw [if_pos rfl]
      rwa [hadmitted.messages_eq hrecorded] at hself
    · rw [if_neg (by simpa using hs), if_neg nofun]
      exact hheld s' hs

/-- The end of a switching join hands over what it held, or part of it. -/
theorem step_of_completed {s : SocketId} {out : List (RelayPayload V)} {k : Core V}
    (hmanager : k.manager = st.channelManager) (haccepted : k.accepted = st.accepted)
    (hhanded : k.handed = st.core.handed ++ out.map (s, ·)) (hout : out.Sublist (st.core.held s))
    (hempty : k.held s = []) (hheld : ∀ s', (k.held s').Sublist (st.core.held s')) :
    Step RelayPayload.stream st.core.streams k.streams := by
  refine .hand (.join s) out (fun κ => ofStream_sublist ?_ κ)
    (congrArg (List.map Acceptance.payload) haccepted) (by simp [Core.streams, hhanded]) ?_
  · change (out ++ k.held s).Sublist (st.core.held s)
    rwa [hempty, List.append_nil]
  · rintro (channelId | s') -
    · change (k.manager.bufferedUnder channelId).Sublist _
      rw [hmanager]
      exact .refl _
    · exact hheld s'

/-- A promotion hands over the first message of its stream. -/
theorem step_of_promoted {s : SocketId} {payload : RelayPayload V} {r : ChannelRef}
    {p : Participant} {next : BufferedMessage V} {k : Core V} {channelId : String}
    (hpromoted : Promoted st.channelManager k.manager s payload r p next)
    (hget : st.channelManager.channels.get? channelId = some r) (hrecorded : Recorded st.core)
    (haccepted : k.accepted = st.accepted) (hhanded : k.handed = st.core.handed ++ [(s, payload)])
    (hheld : ∀ s', (k.held s').Sublist (st.core.held s')) :
    Step RelayPayload.stream st.core.streams k.streams := by
  obtain ⟨pre, post, hbuffer, herase, htype, hpre⟩ := split_eraseP hpromoted.oldest
  have hbefore : st.core.streams.queue (.buffer channelId) =
      pre.map (·.data) ++ payload :: post.map (·.data) := by
    refine (bufferedUnder_of_some hget).trans ?_
    rw [hbuffer, List.map_append, List.map_cons, hpromoted.data]
  have hafter : k.streams.queue (.buffer channelId) = pre.map (·.data) ++ post.map (·.data) := by
    refine (bufferedUnder_of_some ((tables_eq_iff.1 hpromoted.tables).1 ▸ hget)).trans ?_
    rw [hpromoted.content, if_pos rfl, Content.promoted, herase, List.map_append]
  refine .hand (.buffer channelId) [payload] (fun κ => ?_)
    (congrArg (List.map Acceptance.payload) haccepted) (by simp [Core.streams, hhanded])
    fun q _ => queue_sublist hpromoted.shrinks hheld q
  rw [hbefore, hafter]
  refine ofStream_first (fun earlier hearlier hstream => ?_) κ
  -- an earlier message of the stream would be for the same role
  obtain ⟨message, hmem, rfl⟩ := List.mem_map.1 hearlier
  have hother : message.data.clientType = payload.clientType := congrArg (·.2.2) hstream
  have hnext := (hrecorded.buffered r next (List.mem_of_find?_eq_some hpromoted.oldest)).1
  have hmessage := (hrecorded.buffered r message (by
    dsimp only [core]
    rw [hbuffer]
    exact List.mem_append_left _ hmem)).1
  refine hpre message hmem (decide_eq_true ?_)
  rw [hmessage, hother, ← hpromoted.data, ← hnext]
  exact of_decide_eq_true htype

/-- A target without a reservation has nothing waiting for it in the channel's buffer. -/
theorem RelayServer.Granted.target_ne {m' : ChannelManager V} {now : ℕ} {s target : SocketId}
    {payload : RelayPayload V} {r : ChannelRef}
    (h : Granted st.channelManager m' now s payload target r) (hpromised : Promised st.core)
    (hconn : (st.core.transport target).isSome = true) {p : Participant}
    (hp : (st.channelManager.content r).participants.get? target = some p)
    {message : BufferedMessage V} (hmem : message ∈ (st.channelManager.content r).messageBuffer) :
    message.targetClientType ≠ p.clientType := by
  intro htype
  obtain ⟨reservation, hget, -⟩ := hpromised r target p message hp hmem htype hconn
  have hfree : st.core.manager.directDeliveries.get? target = none := h.free
  rw [hfree] at hget
  cases hget

/-! ## Messages that overtake -/

variable [Unknown V] (cfg : Config) {input : Input V} {k : Core V}

/-- The event is a message accepted while a suspended join holds messages of its stream. -/
def RelayServer.overtakes (st : RelayServer V) (input : Input V) : Bool :=
  (st.accepts cfg input).any fun (_, payload) =>
    st.sockets.keys.any fun s => (st.core.held s).any (·.stream = payload.stream)

variable {cfg}

/-- Where no message overtakes, no suspended join holds messages of the stream. -/
theorem RelayServer.Routes.held_apart {s : SocketId} {session : Session V}
    {payload : RelayPayload V} (h : st.Routes input s session payload)
    (hres : (st.routeCall cfg input s session payload).1.error = none)
    (hguard : st.overtakes cfg input = false) (s' : SocketId) :
    ∀ held ∈ st.core.held s', held.stream ≠ payload.stream := by
  intro held hheld hstream
  have hconn : s' ∈ st.sockets.keys := by
    rw [← JsMap.has_iff_mem_keys]
    exact core_connected.1 (Core.connected_of_held hheld)
  have hovertakes : st.overtakes cfg input = true := by
    simp only [overtakes, h.accepts hres, Option.any_some, List.any_eq_true, decide_eq_true_eq]
    exact ⟨s', hconn, held, hheld, hstream⟩
  rw [hguard] at hovertakes
  cases hovertakes

/-! ## Turns as steps -/

/-- A direct message finds nothing of its stream waiting. -/
theorem RelayServer.Granted.alone {m' : ChannelManager V} {s target : SocketId}
    {session : Session V} {payload : RelayPayload V} {r : ChannelRef}
    (h : Granted st.channelManager m' input.now s payload target r)
    (hroutes : st.Routes input s session payload)
    (hnone : (st.routeCall cfg input s session payload).1.error = none)
    (hroles : RoleExclusive (st.channelManager.content r).participants)
    (hpromised : Promised st.core) (hrecorded : Recorded st.core)
    (hconn : (st.core.transport target).isSome = true) (hguard : st.overtakes cfg input = false) :
    ∀ p, ∀ waiting ∈ st.core.streams.queue p, waiting.stream ≠ payload.stream := by
  rintro (channelId | s') waiting hwaiting hstream
  · obtain ⟨r', hget, message, hmem, rfl⟩ := mem_bufferedUnder.1 hwaiting
    have hid : channelId = payload.id :=
      (hrecorded.id_eq hget hmem).symm.trans (congrArg Prod.fst hstream)
    obtain rfl : r' = r := Option.some.inj (hget.symm.trans (hid ▸ h.get))
    obtain ⟨sender, hsender, hsenderType⟩ := h.sender
    obtain ⟨-, p, hp⟩ := counterparty_some h.target_eq
    refine h.target_ne hpromised hconn hp hmem ?_
    have htype : message.data.clientType = payload.clientType := congrArg (·.2.2) hstream
    rw [(hrecorded.buffered r' message hmem).1, htype, ← hsenderType]
    exact (hroles.counterparty_clientType hsender h.target_eq hp).symm
  · exact hroutes.held_apart hnone hguard s' waiting hwaiting hstream

/-- A message that is buffered finds nothing of its stream elsewhere. -/
theorem step_of_buffered {s : SocketId} {session : Session V} {payload : RelayPayload V}
    {target : Option SocketId} (hmanaged : Managed cfg st.channelManager)
    (hrecorded : Recorded st.core) (hroutes : st.Routes input s session payload)
    (hres : (st.routeCall cfg input s session payload).1 = ⟨none, target, true, none⟩)
    (hguard : st.overtakes cfg input = false) :
    Step RelayPayload.stream st.core.streams (({ st.core with
      manager := (st.routeCall cfg input s session payload).2
      payloads := st.payloads + 1
      accepted := st.accepted ++ acceptance st.channelManager payload.id s payload } :
        Core V).relieve input.now target).streams := by
  obtain ⟨r, message, hpushed⟩ := pushed_of_buffered hres
  have hnone : (st.routeCall cfg input s session payload).1.error = none := by rw [hres]
  set k : Core V := { st.core with
    manager := (st.routeCall cfg input s session payload).2
    payloads := st.payloads + 1
    accepted := st.accepted ++ acceptance st.channelManager payload.id s payload }
  obtain ⟨haccepted, hhanded⟩ := Core.log_relieve input.now k target
  refine .accept payload (.buffer payload.id) ?_ ?_ (congrArg (List.map Prod.snd) hhanded) ?_
  · rintro (channelId | s') hp waiting hwaiting hstream
    · obtain ⟨r', hget, message', hmem, rfl⟩ := mem_bufferedUnder.1 hwaiting
      have hid : message'.data.id = payload.id := congrArg Prod.fst hstream
      exact hp (congrArg Place.buffer ((hrecorded.id_eq hget hmem).symm.trans hid))
    · exact hroutes.held_apart hnone hguard s' waiting hwaiting hstream
  · refine (congrArg (List.map Acceptance.payload) haccepted).trans ?_
    simp [k, Core.streams, core, acceptance_eq hpushed.get hpushed.sender]
  · rintro (channelId | s')
    · have hrelieved := (Shrinks.relieve input.now k target).bufferedUnder channelId
      by_cases hid : channelId = payload.id
      · subst hid
        rw [if_pos rfl]
        exact hrelieved.trans hpushed.bufferedUnder_self
      · rw [if_neg (by simpa using hid)]
        exact hrelieved.trans (hpushed.bufferedUnder_of_ne hmanaged.mapSound hid)
    · rw [if_neg fun h => by cases h]
      exact Core.held_relieve _ _ _ s'

theorem step_of_turn (hturn : Turn cfg st input k) (hmanaged : Managed cfg st.channelManager)
    (henrolled : Enrolled st.core) (hpromised : Promised st.core) (hrecorded : Recorded st.core)
    (hguard : st.overtakes cfg input = false) :
    Step RelayPayload.stream st.core.streams k.streams := by
  cases hturn with
  | idle => exact .lose rfl rfl fun _ => .refl _
  | drained => exact .lose rfl rfl fun _ => .refl _
  | released s transport _ _ hres =>
    exact .lose rfl rfl (queue_sublist (exhausted_of_advance hres).shrinks fun _ => .refl _)
  | upgraded s writable _ hconn =>
    exact .lose rfl rfl (queue_sublist (.refl _)
      (Core.held_upgraded (core_connected.2 hconn) _))
  | opened s clientIp =>
    exact .lose rfl rfl (queue_sublist (.refl _) (Core.held_opened st.core s _ clientIp))
  | requested s session request resolves _ hses =>
    exact .lose rfl rfl (queue_sublist (.refl _) (Core.held_setSession hses (List.nil_sublist _)))
  | dismissed s session joining hses hnot hsettled =>
    exact .lose rfl rfl (queue_sublist (.refl _) (Core.held_settled hses hsettled))
  | refusedJoin s session request error joining hses hentering hres hsettled =>
    exact .lose rfl rfl (queue_sublist (refusedJoin_of_failure hres).shrinks
      (Core.held_settled hses hsettled))
  | entered s session request messages key roster delivered hses hentering _ hres =>
    obtain ⟨r, c, key, stale, hadmitted⟩ := admitted_of_success hres
    refine step_of_entered hadmitted hrecorded ?_ rfl rfl rfl ?_
    · split
      · exact .refl _
      · exact List.nil_sublist _
    · exact Core.held_setSession (k := st.core) hses (List.nil_sublist _)
  | switched s session request messages key roster previous resolves hses hentering _ hres =>
    obtain ⟨r, c, key, stale, hadmitted⟩ := admitted_of_success hres
    exact step_of_switched hadmitted hrecorded (Shrinks.leave _ _ s previous) rfl rfl
      (Core.held_switching (Function.update_self _ _ _))
      fun s' hs => Core.held_sublist rfl (Function.update_of_ne hs _ _)
  | completed s session request messages key roster delivered hses hjoin hdelivered =>
    refine step_of_completed rfl rfl rfl ?_ (by simp [Core.held, Core.hand, Core.setSession,
      Session.held]) (Core.held_setSession (k := st.core) hses (List.nil_sublist _))
    split
    next h =>
      obtain ⟨hack, hconn⟩ := hdelivered h
      have hheld : st.core.held s = messages := by
        simp [Core.held, core, Session.held, hconn, hses, hjoin, hack]
      rw [hheld]
    next => exact List.nil_sublist _
  | undone s session request messages key roster joining hses hjoin hsettled =>
    exact .lose rfl rfl (queue_sublist (Shrinks.leave _ _ _ _) (Core.held_settled hses hsettled))
  | refused s session payload error _ hres =>
    obtain ⟨haccepted, hhanded⟩ := Core.log_relieve input.now { st.core with
      manager := (st.routeCall cfg input s session payload).2
      payloads := st.payloads + 1 }
      (st.routeCall cfg input s session payload).1.backpressuredSocketId
    refine .lose (congrArg (List.map Acceptance.payload) haccepted)
      (congrArg (List.map Prod.snd) hhanded) (queue_sublist
        (Shrinks.trans ?_ (Shrinks.relieve _ _ _)) (Core.held_relieve _ _ _))
    exact (touched_of_error hres).shrinks
  | buffered s session payload target hroutes hres =>
    exact step_of_buffered hmanaged hrecorded hroutes hres hguard
  | direct s session payload target transport hroutes hres htransport =>
    obtain ⟨r, hgranted⟩ := granted_of_direct hres
    have hnone : (st.routeCall cfg input s session payload).1.error = none := by rw [hres]
    refine .direct payload (hgranted.alone hroutes hnone (hmanaged.roleExclusive r) hpromised
      hrecorded (by rw [htransport]; rfl) hguard) ?_ (by simp [Core.streams, Core.hand])
      (queue_sublist hgranted.shrinks fun _ => .refl _)
    simp [Core.streams, Core.hand, core, acceptance_eq hgranted.get hgranted.sender]
  | left s session channelId current hleaves =>
    exact .lose rfl rfl (queue_sublist (Shrinks.leave _ _ _ _)
      (Core.held_setSession hleaves.found (.refl _)))
  | closed s session channelId participant _ hleaves =>
    refine .lose rfl rfl (queue_sublist ((Shrinks.leave _ _ _ _).trans (Shrinks.close _ _ _))
      (Core.held_setSession hleaves.found ?_))
    split <;> exact .refl _
  | dropped s =>
    obtain ⟨haccepted, hhanded⟩ := Core.log_drop input.now st.core s
    exact .lose (congrArg (List.map Acceptance.payload) haccepted)
      (congrArg (List.map Prod.snd) hhanded)
      (queue_sublist (Shrinks.drop _ _ s) (Core.held_drop _ _ s))
  | promoted s transport payload _ _ hres =>
    obtain ⟨r, p, next, hpromoted⟩ := promoted_of_advance hres
    obtain ⟨channelId, hget⟩ := henrolled.mapped hmanaged hpromoted.participant
    exact step_of_promoted hpromoted hget hrecorded rfl rfl fun _ => .refl _
  | cleaned => exact .lose rfl rfl (queue_sublist (Shrinks.cleanup _ _) fun _ => .refl _)

/-! ## Runs -/

/-- A direct grant, seen from its result. -/
theorem granted_of_target {input : Input V} {s target : SocketId} {session : Session V}
    {payload : RelayPayload V}
    (h : (st.routeCall cfg input s session payload).1.targetSocketId = some target) :
    (st.routeCall cfg input s session payload).1 = ⟨some target, none, false, none⟩ ∧
    st.canSocketReceive target = true := by
  have hout := routeMessage_outcome cfg st.canSocketReceive input.now input.bufferedAt
    st.channelManager payload.id s payload session.clientIp
  change RouteOutcome _ _ _ _ _ _ _ _ _ (st.routeCall cfg input s session payload).1
    (st.routeCall cfg input s session payload).2 at hout
  generalize st.routeCall cfg input s session payload = out at h hout ⊢
  obtain ⟨result, m⟩ := out
  dsimp only at h hout ⊢
  cases hout with
  | refused | refusedLate | buffered => cases h
  | direct r sender target' size _ _ _ _ _ _ _ hreceive =>
    obtain rfl : target' = target := Option.some.inj h
    exact ⟨rfl, hreceive⟩

/-- What a sender sent on a channel id in a role. -/
def ofSender (channelId : String) (s : SocketId) (t : ClientType)
    (messages : List (RelayPayload V)) : List (RelayPayload V) :=
  messages.filter fun p => p.id = channelId ∧ p.origin.sender = s ∧ p.clientType = t

omit [Unknown V] in
theorem ofStream_eq_ofSender (channelId : String) (s : SocketId) (t : ClientType)
    (messages : List (RelayPayload V)) :
    ofStream RelayPayload.stream (channelId, s, t) messages = ofSender channelId s t messages := by
  simp only [ofStream, ofSender, RelayPayload.stream, Prod.mk.injEq]

variable (cfg)

/-- The messages of every sender on every channel id are handed over in the order in which
they were accepted, none twice, and no message is granted a direct delivery while another for
its target is buffered. -/
structure InOrder (st : RelayServer V) : Prop where
  handed : ∀ channelId s t, (ofSender channelId s t (st.handed.map Prod.snd)).Sublist
    (ofSender channelId s t (st.accepted.map (·.payload)))
  direct : ∀ input s session payload target,
    (st.routeCall cfg input s session payload).1.targetSocketId = some target →
    ∀ r p, st.channelManager.channels.get? payload.id = some r →
      (st.channelManager.content r).participants.get? target = some p →
      ∀ message ∈ (st.channelManager.content r).messageBuffer,
        message.targetClientType ≠ p.clientType

theorem ordered_after {inputs : List (Input V)}
    (hguard : Runs.Guarded (step cfg)
      (fun st i => st.straddles cfg i = false ∧ st.overtakes cfg i = false) (create cfg) inputs) :
    Ordered RelayPayload.stream (RelayServer.after cfg inputs).core.streams := by
  refine (Runs.Guarded.run_reached
    (I := fun st : RelayServer V => Promised st.core ∧ Ordered RelayPayload.stream st.core.streams)
    ⟨fun r s p _ hp => absurd hp (not_participant_create cfg r s p), ordered_empty rfl ?_⟩
    (fun inputs input h hok => ?_) hguard).2
  · rintro (channelId | s) <;> rfl
  · have hturn := turn_of_step cfg (RelayServer.after cfg inputs) input
    have hmanaged := managed_after cfg inputs
    have henrolled := enrolled_after cfg inputs
    exact ⟨promised_turn hturn hmanaged (agrees_after cfg inputs) henrolled hok.1 h.1,
      (step_of_turn hturn hmanaged henrolled h.1 (recorded_after cfg inputs) hok.2).ordered h.2⟩

/-- In a run without straddling messages and without messages that overtake what a suspended
join holds, every sender's messages are handed over in order. -/
theorem handed_in_order {inputs : List (Input V)}
    (hguard : Runs.Guarded (step cfg)
      (fun st i => st.straddles cfg i = false ∧ st.overtakes cfg i = false) (create cfg) inputs) :
    InOrder cfg (RelayServer.after cfg inputs) := by
  have hordered := ordered_after cfg hguard
  have hpromised := promised_after cfg (hguard.mono fun _ _ hok => hok.1)
  generalize RelayServer.after cfg inputs = st at hordered hpromised ⊢
  refine ⟨fun channelId s t => ?_, fun now s session payload target htarget r p hget hp message
    hmem => ?_⟩
  · have : Nonempty Place := ⟨.join s⟩
    have hsublist := hordered.handed (channelId, s, t)
    rwa [ofStream_eq_ofSender, ofStream_eq_ofSender] at hsublist
  · obtain ⟨hres, hreceive⟩ := granted_of_target htarget
    obtain ⟨r', hgranted⟩ := granted_of_direct hres
    obtain rfl : r' = r := Option.some.inj (hgranted.get.symm.trans hget)
    have hconn : (st.core.transport target).isSome = true := by
      unfold canSocketReceive at hreceive
      cases hsock : st.sockets.get? target with
      | none => simp [hsock] at hreceive
      | some socket => simp [core, hsock]
    exact hgranted.target_ne hpromised hconn hp hmem

/-- A wallet that left a channel with a message in flight is sent a message in its new
channel. The delivery ends, the next message goes out directly, and the earlier one after
it. -/
def straddlingOvertaken : List (Input String) :=
  straddlingMessage ++ [⟨4, .drain 3⟩, ⟨4, .ready 3 false⟩,
    ⟨5, .message 2 ⟨.string "d", "third", .string "dapp", .undefined, .text "third"⟩ true 5⟩,
    ⟨6, .drain 3⟩, ⟨6, .ready 3 false⟩]

/-- A wallet switches to a channel where a message waits for it, and the next message goes
out directly before the ack of the join. -/
def overtakenInJoin : List (Input String) :=
  [⟨0, .connection 2 "b" 2⟩, ⟨0, .connection 3 "c" 3⟩,
    ⟨0, .joinChannel 2 ⟨.string "d", .string "dapp", .undefined⟩ true true⟩,
    ⟨0, .resumeJoin 2 true⟩,
    ⟨0, .joinChannel 3 ⟨.string "c", .string "wallet", .undefined⟩ true true⟩,
    ⟨0, .resumeJoin 3 true⟩, ⟨0, .drain 3⟩, ⟨0, .ready 3 false⟩,
    ⟨1, .message 2 ⟨.string "d", "first", .string "dapp", .undefined, .text "first"⟩ true 1⟩,
    ⟨2, .joinChannel 3 ⟨.string "d", .string "wallet", .undefined⟩ true true⟩,
    ⟨2, .resumeJoin 3 true⟩,
    ⟨3, .message 2 ⟨.string "d", "second", .string "dapp", .undefined, .text "second"⟩ true 3⟩,
    ⟨4, .resumeJoin 3 true⟩]

/-- In both runs the second of two messages is handed over first. -/
theorem message_overtaken :
    ¬InOrder .unset (RelayServer.after .unset straddlingOvertaken) ∧
    ¬InOrder .unset (RelayServer.after .unset overtakenInJoin) := by
  constructor
  · intro h
    have hserials := (h.handed "d" 2 .dapp).map (·.origin.serial)
    exact absurd hserials (by decide)
  · intro h
    have hserials := (h.handed "d" 2 .dapp).map (·.origin.serial)
    exact absurd hserials (by decide)

/-- A buffered message and the one in flight before it are handed over in order. -/
theorem handed_in_order_behind : InOrder (V := String) .unset (RelayServer.after .unset
    [⟨0, .connection 1 "a" 1⟩, ⟨0, .connection 2 "b" 2⟩,
      ⟨0, .joinChannel 1 ⟨.string "c", .string "dapp", .undefined⟩ true true⟩,
      ⟨0, .resumeJoin 1 true⟩,
      ⟨0, .joinChannel 2 ⟨.string "c", .string "wallet", .undefined⟩ true true⟩,
      ⟨0, .resumeJoin 2 true⟩, ⟨0, .drain 2⟩, ⟨0, .ready 2 false⟩,
      ⟨1, .message 1 ⟨.string "c", "first", .string "dapp", .undefined, .text "first"⟩ true 1⟩,
      ⟨2, .message 1 ⟨.string "c", "second", .string "dapp", .undefined, .text "second"⟩ true 2⟩,
      ⟨3, .drain 2⟩, ⟨3, .ready 2 false⟩]) :=
  handed_in_order .unset (by decide)

end QrlBackend
