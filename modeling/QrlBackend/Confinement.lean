import QrlBackend.Seats

/-!
# Messages stay in their channel

A message is handed only to a socket with a seat in the channel object the message was
accepted on, in the role the message is for (`Confined`). Promotions and direct deliveries
read the seat when they happen. The ack of a switching join does not : its messages were
taken out of the buffer before an `await`, and the seat may be gone after it. `vacates` is the
step that takes the seat, and without it every hand-over is confined (`handed_confined`).
`message_escapes` is a run in which the channel is closed while a join holds a message of it.
-/

set_option autoImplicit false

namespace QrlBackend

variable {V : Type}

open ChannelManager RelayServer

/-- The message was accepted from the other role on the channel object that its id names, and
the socket takes part in that live channel in the role the message is for. -/
def Confined (k : Core V) (s : SocketId) (payload : RelayPayload V) : Prop :=
  ∃ r, Seated k.manager s payload.id r payload.clientType.other ∧
    ⟨r, payload.clientType, payload⟩ ∈ k.accepted

/-- What suspended joins hold is confined. -/
def HeldConfined (k : Core V) : Prop := ∀ s, ∀ payload ∈ k.held s, Confined k s payload

theorem Confined.of_seats {k k' : Core V} {s : SocketId} {payload : RelayPayload V}
    (h : Confined k s payload)
    (hseats : ∀ r t, Seated k.manager s payload.id r t → Seated k'.manager s payload.id r t)
    (haccepted : ∀ e ∈ k.accepted, e ∈ k'.accepted) : Confined k' s payload := by
  obtain ⟨r, hseated, hmem⟩ := h
  exact ⟨r, hseats r _ hseated, haccepted _ hmem⟩

/-- No join holds more, and who is held something keeps its seat. -/
theorem HeldConfined.of_seats {k k' : Core V} (h : HeldConfined k)
    (hheld : ∀ s, (k'.held s).Sublist (k.held s))
    (hseats : ∀ s, ∀ payload ∈ k'.held s, ∀ r t, Seated k.manager s payload.id r t →
      Seated k'.manager s payload.id r t)
    (haccepted : ∀ e ∈ k.accepted, e ∈ k'.accepted) : HeldConfined k' :=
  fun s payload hmem =>
    (h s payload ((hheld s).subset hmem)).of_seats (hseats s payload hmem) haccepted

/-- What a join takes out of a buffer is confined to who joins. -/
theorem RelayServer.Admitted.confined {st : RelayServer V} {now : ℕ} {s : SocketId}
    {request : JoinRequest} {m' : ChannelManager V} {messages : List (RelayPayload V)}
    {r : ChannelRef} {c : Content V} {key : Option String} {stale : Option SocketId}
    (h : Admitted st now s request m' messages r c key stale) (hrecorded : Recorded st.core)
    {payload : RelayPayload V} (hmem : payload ∈ messages) :
    payload.id = request.channelId ∧ payload.clientType.other = request.clientType ∧
    Seated m' s payload.id r payload.clientType.other ∧
    ⟨r, payload.clientType, payload⟩ ∈ st.accepted := by
  rw [h.messages] at hmem
  obtain ⟨message, hfiltered, rfl⟩ := List.mem_map.1 hmem
  obtain ⟨hmem, htype⟩ := List.mem_filter.1 hfiltered
  have htype : message.targetClientType = request.clientType := of_decide_eq_true htype
  have hseated := Seated.joined h
  rcases h.slot with ⟨hget, rfl, -⟩ | ⟨-, -, ⟨creatorIp, rfl⟩, -⟩
  · obtain ⟨hother, haccepted⟩ := hrecorded.buffered r message hmem
    have hid : message.data.id = request.channelId := hrecorded.id_eq hget hmem
    have hrole : message.data.clientType.other = request.clientType := hother.symm.trans htype
    exact ⟨hid, hrole, by rw [hid, hrole]; exact hseated, haccepted⟩
  · cases hmem

namespace RelayServer

variable (st : RelayServer V) (input : Input V)

/-- The channel id that a `leave_channel` or `close_channel` event of a socket resolves to. -/
def resolves (s : SocketId) (requested : Narrowed) : Option String :=
  match st.sockets.get? s, st.sessions.get? s with
  | some _, some session =>
    if (st.checkRateLimit input.now session.clientIp .control rateLimitMaxControlEvents).1 then
      resolveChannelId requested session.currentChannelId
    else none
  | _, _ => none

/-- A suspended join of the socket holds messages of the channel id. -/
def holds (s : SocketId) (channelId : String) : Bool :=
  (st.core.held s).any (·.id = channelId)

/-- The event takes the seat of a socket whose suspended join holds messages of the channel :
it leaves the channel, or a participant closes it. -/
def vacates : Bool :=
  match input.event with
  | .leaveChannel s requested _ =>
    (st.resolves input s requested).any fun channelId => st.holds s channelId
  | .closeChannel s requested _ =>
    (st.resolves input s requested).any fun channelId =>
      ((st.channelManager.channels.get? channelId).any fun r =>
        (st.channelManager.channel r).participants.has s) &&
      st.sockets.keys.any fun s' => st.holds s' channelId
  | _ => false

variable {st input} {s : SocketId} {session : Session V} {channelId : String}

theorem holds_of_mem {payload : RelayPayload V} (h : payload ∈ st.core.held s) :
    st.holds s payload.id = true := by
  simp only [holds, List.any_eq_true, decide_eq_true_eq]
  exact ⟨payload, h, rfl⟩

theorem Leaves.resolves (h : st.Leaves input s session channelId) :
    ∃ requested ack, (input.event = .leaveChannel s requested ack ∨
      input.event = .closeChannel s requested ack) ∧
    st.resolves input s requested = some channelId := by
  obtain ⟨requested, ack, hevent, hresolve⟩ := h.event
  obtain ⟨socket, hsock⟩ := Option.isSome_iff_exists.1 h.connected
  refine ⟨requested, ack, hevent, ?_⟩
  simp [RelayServer.resolves, hsock, h.found, h.allowed, hresolve]

/-- Where no event vacates, nobody leaves a channel that a suspended join of its holds
messages of. -/
theorem Leaves.keeps (h : st.Leaves input s session channelId) (hguard : st.vacates input = false)
    {payload : RelayPayload V} (hheld : payload ∈ st.core.held s) {r : ChannelRef} {t : ClientType}
    (hseated : Seated st.channelManager s payload.id r t) : channelId ≠ payload.id := by
  rintro rfl
  obtain ⟨requested, ack, hevent, hresolve⟩ := h.resolves
  have hholds := holds_of_mem hheld
  suffices hvacates : st.vacates input = true by
    rw [hguard] at hvacates
    cases hvacates
  rcases hevent with hevent | hevent
  · simp [vacates, hevent, hresolve, hholds]
  · obtain ⟨p, hp, -⟩ := hseated.participant
    have hp' : (st.channelManager.channel r).participants.get? s = some p := hp
    have hconn : s ∈ st.sockets.keys := (JsMap.has_iff_mem_keys _ _).1 h.connected
    simp only [vacates, hevent, hresolve, hseated.entry, Option.any_some, Bool.and_eq_true,
      List.any_eq_true]
    exact ⟨by simp [JsMap.has, hp'], s, hconn, hholds⟩

/-- Where no event vacates, nobody closes a channel that a suspended join holds messages
of. -/
theorem Leaves.keeps_of_close (h : st.Leaves input s session channelId)
    (hclose : ∃ requested ack, input.event = .closeChannel s requested ack)
    {participant : Participant}
    (hpart : (st.channelManager.leave input.now s channelId).1 = some participant)
    (hguard : st.vacates input = false) {s' : SocketId} {payload : RelayPayload V}
    (hheld : payload ∈ st.core.held s') : channelId ≠ payload.id := by
  rintro rfl
  obtain ⟨requested, ack, hevent, hresolve⟩ := h.resolves
  obtain ⟨requested', ack', hclose⟩ := hclose
  have hevent : input.event = .closeChannel s requested ack := by
    rcases hevent with hevent | hevent
    · rw [hevent] at hclose
      cases hclose
    · exact hevent
  have hout := leave_outcome input.now st.channelManager s payload.id
  rw [hpart] at hout
  generalize (st.channelManager.leave input.now s payload.id).2 = m' at hout
  cases hout with
  | left r _ hget hp =>
    have hp' : (st.channelManager.channel r).participants.get? s = some participant := hp
    have hconn : s' ∈ st.sockets.keys := (JsMap.has_iff_mem_keys _ _).1
      (core_connected.1 (Core.connected_of_held hheld))
    have hvacates : st.vacates input = true := by
      simp only [vacates, hevent, hresolve, hget, Option.any_some, Bool.and_eq_true,
        List.any_eq_true]
      exact ⟨by simp [JsMap.has, hp'], s', hconn, holds_of_mem hheld⟩
    rw [hguard] at hvacates
    cases hvacates

end RelayServer

variable [Unknown V] {cfg : Config} {st : RelayServer V} {input : Input V} {k : Core V}

/-! ## Held messages stay confined -/

namespace HeldConfined

variable {s : SocketId} {session : Session V} {request : JoinRequest}

theorem relieve {now : ℕ} (h : HeldConfined k) (hmanaged : Managed cfg k.manager)
    (target : Option SocketId) : HeldConfined (k.relieve now target) := by
  refine h.of_seats (Core.held_relieve _ _ _) (fun s' _ hmem _ _ hseated => ?_) fun e he => ?_
  · exact hseated.relieve hmanaged (Core.connected_of_held hmem)
  · rw [(Core.log_relieve _ _ _).1]
    exact he

theorem drop {now : ℕ} (h : HeldConfined k) (hmanaged : Managed cfg k.manager) (s : SocketId) :
    HeldConfined (k.drop now s) := by
  refine h.of_seats (Core.held_drop _ _ s) (fun s' _ hmem _ _ hseated => ?_) fun e he => ?_
  · exact hseated.drop hmanaged _ (Core.connected_drop (Core.connected_of_held hmem)).1.symm
  · rw [(Core.log_drop _ _ _).1]
    exact he

/-- A switching join holds what it has taken out of the buffer, and the seat it gives up is
another one. -/
theorem switched {messages : List (RelayPayload V)} {key : Option String}
    {roster : List ClientType} {previous : String} {resolves : Bool} (h : HeldConfined st.core)
    (hmanaged : Managed cfg st.channelManager) (helsewhere : Elsewhere st.core)
    (hrecorded : Recorded st.core) (hses : st.sessions.get? s = some session)
    (hentering : Entering session request)
    (hres : (st.joinCall input.now s session request).1 = .success messages key roster false)
    (hswitch : request.switchingChannels = true)
    (hcur : session.currentChannelId = some previous) :
    HeldConfined ({ st.core with
      manager := ((st.joinCall input.now s session request).2.leave input.now s
        previous).2 }.setSession s
        { session with
          joining := some ⟨request, .leavingPrevious messages key roster resolves⟩ }) := by
  obtain ⟨r, c, key, stale, hadmitted⟩ := admitted_of_success hres
  have hsound := (hmanaged.join st.isSocketActive input.now request.channelId s
    request.clientType request.publicKey (some session.clientIp)).mapSound
  intro s' payload hmem
  by_cases hs : s' = s
  · subst hs
    obtain ⟨hid, -, hseated, haccepted⟩ :=
      hadmitted.confined hrecorded
        ((Core.held_switching (Function.update_self _ _ _)).subset hmem)
    refine ⟨r, hseated.leave hsound _ fun _ => ?_, haccepted⟩
    have hne := (hentering.elsewhere (helsewhere s' session hses)).1 hswitch
    rw [hcur, ne_eq, Option.some.injEq] at hne
    rwa [hid]
  · rw [Core.held_setSession_of_ne hs] at hmem
    have hsame : payload ∈ st.core.held s' := hmem
    have hconn : (st.sockets.get? s').isSome = true :=
      core_connected.1 (Core.connected_of_held hsame)
    exact (h s' payload hsame).of_seats (fun _ _ hseated =>
      (hseated.admitted hadmitted hmanaged.mapSound hconn).leave hsound _
        fun hs' => absurd hs'.symm hs) fun _ he => he

/-- A join that is undone holds nothing. -/
theorem undone {now : ℕ} {channelId : String} {joining : Option (PendingJoin V)}
    (h : HeldConfined st.core) (hmanaged : Managed cfg st.channelManager)
    (hses : st.sessions.get? s = some session) (hheld : session.held = [])
    (hsettled : Settled joining) :
    HeldConfined ({ st.core with
      manager := (st.channelManager.leave now s channelId).2 }.setSession s
        { session with joining := joining }) := by
  have hses' : st.core.session s = some session := hses
  have hnone : st.core.held s = [] := by simp [Core.held, hses', hheld]
  have hsub : ∀ s', (({ st.core with
      manager := (st.channelManager.leave now s channelId).2 }.setSession s
        { session with joining := joining }).held s').Sublist (st.core.held s') :=
    Core.held_settled (k := st.core) hses hsettled
  refine h.of_seats hsub (fun s' payload hmem _ _ hseated =>
    hseated.leave hmanaged.mapSound _ ?_) fun _ he => he
  rintro rfl
  have hmem := (hsub s).subset hmem
  rw [hnone] at hmem
  cases hmem

end HeldConfined

theorem heldConfined_turn (hturn : Turn cfg st input k) (hmanaged : Managed cfg st.channelManager)
    (helsewhere : Elsewhere st.core) (hrecorded : Recorded st.core)
    (hguard : st.vacates input = false) (h : HeldConfined st.core) : HeldConfined k := by
  have hconnected : ∀ {s payload}, payload ∈ st.core.held s → (st.sockets.get? s).isSome = true :=
    fun hheld => core_connected.1 (Core.connected_of_held hheld)
  have hsound := hmanaged.mapSound
  cases hturn with
  | idle | drained => exact h
  | upgraded s writable _ hconn =>
    exact h.of_seats (Core.held_upgraded (core_connected.2 hconn) _)
      (fun _ _ _ _ _ hseated => hseated) fun _ he => he
  | opened s clientIp =>
    exact h.of_seats (Core.held_opened st.core s _ clientIp) (fun _ _ _ _ _ hseated => hseated)
      fun _ he => he
  | requested s session request resolves _ hses =>
    exact h.of_seats (Core.held_setSession hses (List.nil_sublist _))
      (fun _ _ _ _ _ hseated => hseated) fun _ he => he
  | dismissed s session joining hses _ hsettled =>
    exact h.of_seats (Core.held_settled hses hsettled) (fun _ _ _ _ _ hseated => hseated)
      fun _ he => he
  | refusedJoin s session request error joining hses _ hres hsettled =>
    have hheld : ∀ s', (({ st.core with
        manager := (st.joinCall input.now s session request).2 }.setSession s
          { session with joining := joining }).held s').Sublist (st.core.held s') :=
      Core.held_settled (k := st.core) hses hsettled
    exact h.of_seats hheld (fun s' _ hmem _ _ hseated =>
      hseated.refusedJoin (refusedJoin_of_failure hres) (hconnected ((hheld s').subset hmem)))
      fun _ he => he
  | entered s session request messages key roster delivered hses _ _ hres =>
    obtain ⟨r, c, key, stale, hadmitted⟩ := admitted_of_success hres
    have hheld : ∀ s', (({ st.core with
        manager := (st.joinCall input.now s session request).2 }.setSession s
          { session with
            currentChannelId := some request.channelId
            joining := none }).held s').Sublist (st.core.held s') :=
      Core.held_setSession (k := st.core) hses (List.nil_sublist _)
    exact h.of_seats hheld (fun s' _ hmem _ _ hseated =>
      hseated.admitted hadmitted hsound (hconnected ((hheld s').subset hmem))) fun _ he => he
  | switched s session request messages key roster previous resolves hses hentering _ hres
      hswitch hcur =>
    exact h.switched hmanaged helsewhere hrecorded hses hentering hres hswitch hcur
  | completed s session request messages key roster delivered hses =>
    exact h.of_seats (Core.held_setSession (k := st.core) hses (List.nil_sublist _))
      (fun _ _ _ _ _ hseated => hseated) fun _ he => he
  | undone s session request messages key roster joining hses hjoin hsettled =>
    exact h.undone hmanaged hses (by simp [Session.held, hjoin]) hsettled
  | refused s session payload error _ hres =>
    have htouched := touched_of_error hres
    have hrouted : HeldConfined { st.core with
        manager := (st.routeCall cfg input s session payload).2
        payloads := st.payloads + 1 } :=
      h.of_seats (fun _ => .refl _) (fun _ _ _ _ _ hseated => hseated.touched htouched)
        fun _ he => he
    exact hrouted.relieve (hmanaged.route _ _ _ _ _ _ _) _
  | buffered s session payload target _ hres =>
    obtain ⟨r, message, hpushed⟩ := pushed_of_buffered hres
    have hrouted : HeldConfined { st.core with
        manager := (st.routeCall cfg input s session payload).2
        payloads := st.payloads + 1
        accepted := st.accepted ++ acceptance st.channelManager payload.id s payload } :=
      h.of_seats (fun _ => .refl _) (fun _ _ _ _ _ hseated =>
        hseated.of_ite hpushed.content rfl rfl hpushed.tables)
        fun _ he => List.mem_append_left _ he
    exact hrouted.relieve (hmanaged.route _ _ _ _ _ _ _) _
  | direct s session payload target transport _ hres =>
    obtain ⟨r, hgranted⟩ := granted_of_direct hres
    exact h.of_seats (fun _ => .refl _) (fun _ _ _ _ _ hseated =>
      hseated.of_ite hgranted.content rfl rfl hgranted.tables)
      fun _ he => List.mem_append_left _ he
  | left s session channelId current hleaves =>
    have hheld : ∀ s', (({ st.core with
        manager := (st.channelManager.leave input.now s channelId).2 }.setSession s
          { session with currentChannelId := current }).held s').Sublist (st.core.held s') :=
      Core.held_setSession (k := st.core) hleaves.found (.refl _)
    refine h.of_seats hheld (fun s' payload hmem _ _ hseated => hseated.leave hsound _ ?_)
      fun _ he => he
    rintro rfl
    exact hleaves.keeps hguard ((hheld s).subset hmem) hseated
  | closed s session channelId participant hclose hleaves hpart =>
    have hheld : ∀ s', (({ st.core with
        manager :=
          ((st.channelManager.leave input.now s channelId).2.close input.now
            channelId).2 }.setSession s (if session.currentChannelId = some channelId then
            { session with currentChannelId := none } else session)).held s').Sublist
          (st.core.held s') := by
      refine Core.held_setSession (k := st.core) hleaves.found ?_
      split <;> exact .refl _
    refine h.of_seats hheld (fun s' payload hmem _ _ hseated => ?_) fun _ he => he
    have hne := hleaves.keeps_of_close hclose hpart hguard ((hheld s').subset hmem)
    exact (hseated.leave hsound _ fun _ => hne).close (hmanaged.leave _ _ _).mapSound _ hne
  | dropped s => exact h.drop hmanaged s
  | promoted s transport payload _ _ hres =>
    obtain ⟨r, p, next, hpromoted⟩ := promoted_of_advance hres
    exact h.of_seats (fun _ => .refl _) (fun _ _ _ _ _ hseated =>
      hseated.of_ite hpromoted.content rfl rfl hpromoted.tables) fun _ he => he
  | released s transport _ _ hres =>
    have hexhausted := exhausted_of_advance hres
    exact h.of_seats (fun _ => .refl _) (fun _ _ _ _ _ hseated =>
      hseated.of_content hexhausted.content hexhausted.tables) fun _ he => he
  | cleaned =>
    exact h.of_seats (fun _ => .refl _) (fun _ _ _ _ _ hseated => hseated.cleanup _) fun _ he => he

/-! ## Hand-overs -/

/-- All that `k'` handed over on top of `k` is confined in `k'`. -/
def HandsConfined (k k' : Core V) : Prop :=
  ∃ out, k'.handed = k.handed ++ out ∧ ∀ e ∈ out, Confined k' e.1 e.2

omit [Unknown V] in
theorem HandsConfined.of_same {k k' : Core V} (h : k'.handed = k.handed) : HandsConfined k k' :=
  ⟨[], by rw [h, List.append_nil], fun _ he => absurd he List.not_mem_nil⟩

omit [Unknown V] in
/-- The messages of one packet. -/
theorem HandsConfined.of_hand {k k' : Core V} {s : SocketId} {messages : List (RelayPayload V)}
    (h : k'.handed = k.handed ++ messages.map (s, ·))
    (hall : ∀ payload ∈ messages, Confined k' s payload) : HandsConfined k k' := by
  refine ⟨_, h, fun e he => ?_⟩
  obtain ⟨payload, hmem, rfl⟩ := List.mem_map.1 he
  exact hall payload hmem

theorem handsConfined_turn (hturn : Turn cfg st input k) (hmanaged : Managed cfg st.channelManager)
    (henrolled : Enrolled st.core) (hrecorded : Recorded st.core) (h : HeldConfined st.core) :
    HandsConfined st.core k := by
  cases hturn with
  | idle | drained | upgraded | opened | requested | dismissed | refusedJoin | switched | undone
  | left | closed | released | cleaned => exact .of_same rfl
  | refused | buffered => exact .of_same (Core.log_relieve _ _ _).2
  | dropped s => exact .of_same (Core.log_drop _ _ _).2
  | entered s session request messages key roster delivered hses _ _ hres =>
    obtain ⟨r, c, key, stale, hadmitted⟩ := admitted_of_success hres
    refine .of_hand rfl fun payload hmem => ?_
    split at hmem
    · obtain ⟨-, -, hseated, haccepted⟩ := hadmitted.confined hrecorded hmem
      exact ⟨r, hseated, haccepted⟩
    · cases hmem
  | completed s session request messages key roster delivered hses hjoin hdelivered =>
    refine .of_hand rfl fun payload hmem => ?_
    split at hmem
    next hdelivered' =>
      obtain ⟨hack, hconn⟩ := hdelivered hdelivered'
      have hheld : st.core.held s = messages := by
        simp [Core.held, core, Session.held, hconn, hses, hjoin, hack]
      exact (h s payload (hheld ▸ hmem)).of_seats (fun _ _ hseated => hseated) fun _ he => he
    next => cases hmem
  | direct s session payload target transport _ hres =>
    obtain ⟨r, hgranted⟩ := granted_of_direct hres
    refine .of_hand rfl fun payload' hmem => ?_
    obtain rfl := List.mem_singleton.1 hmem
    obtain ⟨sender, hsender, hsenderType⟩ := hgranted.sender
    obtain ⟨-, q, hq⟩ := counterparty_some hgranted.target_eq
    have hrole := (hmanaged.roleExclusive r).counterparty_clientType hsender hgranted.target_eq hq
    have hseated : Seated st.channelManager target payload'.id r payload'.clientType.other :=
      ⟨hgranted.get, hgranted.live, q, hq, by rw [hrole, hsenderType]⟩
    refine ⟨r, hseated.of_ite hgranted.content rfl rfl hgranted.tables, ?_⟩
    dsimp only [Core.hand]
    rw [acceptance_eq hgranted.get hgranted.sender]
    exact List.mem_append_right _ (List.mem_singleton_self _)
  | promoted s transport payload _ _ hres =>
    obtain ⟨r, p, next, hpromoted⟩ := promoted_of_advance hres
    refine .of_hand rfl fun payload' hmem => ?_
    obtain rfl := List.mem_singleton.1 hmem
    obtain ⟨channelId, hget⟩ := henrolled.mapped hmanaged hpromoted.participant
    have hbuffered := List.mem_of_find?_eq_some hpromoted.oldest
    have htype : next.targetClientType = p.clientType := by
      simpa using List.find?_some hpromoted.oldest
    obtain ⟨hother, haccepted⟩ := hrecorded.buffered r next hbuffered
    have hid := hrecorded.id_eq hget hbuffered
    rw [hpromoted.data] at hother haccepted hid
    have hseated : Seated st.channelManager s payload'.id r payload'.clientType.other :=
      ⟨hid ▸ hget, hpromoted.live, p, hpromoted.participant, htype.symm.trans hother⟩
    exact ⟨r, hseated.of_ite hpromoted.content rfl rfl hpromoted.tables, haccepted⟩

variable (cfg)

theorem heldConfined_after {inputs : List (Input V)}
    (hguard : Runs.Guarded (step cfg) (fun st i => st.vacates i = false) (create cfg) inputs) :
    HeldConfined (RelayServer.after cfg inputs).core :=
  Runs.Guarded.run_reached (I := fun st : RelayServer V => HeldConfined st.core)
    (fun _ _ hmem => by cases hmem)
    (fun inputs input h hok => heldConfined_turn (turn_of_step cfg _ input)
      (managed_after cfg inputs) (elsewhere_after cfg inputs) (recorded_after cfg inputs) hok h)
    hguard

/-- In a run in which no event takes the seat of a socket whose suspended join holds messages,
every message is handed to a socket that takes part in its channel, in the role it is for. -/
theorem handed_confined {inputs : List (Input V)} {input : Input V}
    (hguard : Runs.Guarded (step cfg) (fun st i => st.vacates i = false) (create cfg)
      (inputs ++ [input])) :
    HandsConfined (RelayServer.after cfg inputs).core
      (RelayServer.after cfg (inputs ++ [input])).core := by
  have hafter : RelayServer.after cfg (inputs ++ [input]) =
      step cfg (RelayServer.after cfg inputs) input := Runs.run_snoc _ _ _
  rw [hafter]
  exact handsConfined_turn (turn_of_step cfg _ input) (managed_after cfg inputs)
    (enrolled_after cfg inputs) (recorded_after cfg inputs)
    (heldConfined_after cfg hguard.of_append)

/-- A wallet switches to a channel where a message waits for it. Its join waits to leave the
old room. -/
def heldInJoin : List (Input String) :=
  [⟨0, .connection 2 "b" 2⟩, ⟨0, .connection 3 "c" 3⟩,
    ⟨0, .joinChannel 2 ⟨.string "d", .string "dapp", .undefined⟩ true true⟩,
    ⟨0, .resumeJoin 2 true⟩,
    ⟨0, .joinChannel 3 ⟨.string "c", .string "wallet", .undefined⟩ true true⟩,
    ⟨0, .resumeJoin 3 true⟩,
    ⟨1, .message 2 ⟨.string "d", "first", .string "dapp", .undefined, .text "first"⟩ true 1⟩,
    ⟨2, .joinChannel 3 ⟨.string "d", .string "wallet", .undefined⟩ true true⟩,
    ⟨2, .resumeJoin 3 true⟩]

/-- The dapp closes the channel before the ack of the join. -/
def closedInJoin : List (Input String) := heldInJoin ++ [⟨3, .closeChannel 2 (.string "d") true⟩]

/-- The ack of the join hands over a message of a closed channel. -/
theorem message_escapes :
    ¬HandsConfined (RelayServer.after .unset closedInJoin).core
      (RelayServer.after .unset (closedInJoin ++ [⟨4, .resumeJoin 3 true⟩])).core := by
  rintro ⟨out, hhanded, hall⟩
  have hids := congrArg (List.map fun e => (e.1, e.2.id)) hhanded
  have hbefore : (RelayServer.after .unset closedInJoin).core.handed.map
      (fun e => (e.1, e.2.id)) = [] := by decide
  have hafter : (RelayServer.after .unset
      (closedInJoin ++ [⟨4, .resumeJoin 3 true⟩])).core.handed.map
        (fun e => (e.1, e.2.id)) = [(3, "d")] := by decide
  rw [List.map_append, hbefore, hafter, List.nil_append] at hids
  obtain ⟨e, he, heq⟩ := List.mem_map.1 (hids ▸ List.mem_singleton_self (3, "d"))
  obtain ⟨-, hid⟩ := Prod.mk.inj heq
  obtain ⟨r, hseated, -⟩ := hall e he
  rw [hid] at hseated
  have hentry : (RelayServer.after .unset
      (closedInJoin ++ [⟨4, .resumeJoin 3 true⟩])).core.manager.channels.get? "d" = some 0 := by
    decide
  obtain rfl : 0 = r := Option.some.inj (hentry.symm.trans hseated.entry)
  exact absurd hseated.live (by decide)

/-- In an open channel the ack of the join hands over what waited there. -/
theorem handed_confined_in_join :
    HandsConfined (RelayServer.after .unset heldInJoin).core
      (RelayServer.after .unset (heldInJoin ++ [⟨4, .resumeJoin 3 true⟩])).core :=
  handed_confined .unset (by decide)

end QrlBackend
