import QrlBackend.JoinTurns

/-!
# Atomic switching

A `join_channel` request that its ack reports as failed, or as made to a closed channel, has
left its socket where it was (`Atomic`). Other events can run while its handler waits, so
this is about each turn of the handler : such a turn leaves the participations of the
socket, its current channel, its rooms but the requested one and all buffers as they are and
tells nobody of a change (`Undisturbed`), and at the end the socket is in the requested room
only if it was before.

Two rejected calls of the adapter break this. A switching join gives up the previous channel
before the `socket.leave` that can reject, and the `catch` block does not take that back
(`undoesSwitch`). It can also fail to leave the requested room (`keepsRoom`). And a socket
is in the room of its own id without having joined it, which a refused join of the channel
of that id leaves (`quitsOwnRoom`). In runs without them joins are atomic (`joins_atomic`).
-/

set_option autoImplicit false

namespace QrlBackend

variable {V : Type}

open ChannelManager RelayServer

/-! ## Requests -/

namespace RelayServer

variable [Unknown V]

/-- The events `es` and `last` carry a request of the socket from its event to its ack : its
handler is suspended after each of `es`, and the turn of `last` ends it. -/
structure Serves (cfg : Config) (st : RelayServer V) (s : SocketId) (payload : JoinPayload)
    (es : List (Input V)) (last : Input V) (response : Response V) : Prop where
  first : ∃ now resolves, (es ++ [last]).head? = some ⟨now, .joinChannel s payload true resolves⟩
  free : es ≠ [] → st.joinInProgress s = false
  suspended : Runs.Guarded (step cfg) (fun st i => (step cfg st i).joinInProgress s = true) st es
  ended : es ≠ [] → (Runs.run (step cfg) st (es ++ [last])).joinInProgress s = false
  answered : (Runs.run (step cfg) st es).Answers (Runs.run (step cfg) st (es ++ [last])) s response

/-- The events leave the socket as it was, as far as they are turns of its handler. -/
structure Atomic (cfg : Config) (st : RelayServer V) (s : SocketId) (requested : Option String)
    (es : List (Input V)) : Prop where
  turns : Runs.Guarded (step cfg) (fun st i => i.event.joins s = true →
    Undisturbed s requested st.scene (step cfg st i).scene) st es
  participants : ∀ r p,
    ((Runs.run (step cfg) st es).channelManager.content r).participants.get? s = some p →
    (st.channelManager.content r).participants.get? s = some p
  outside : ∀ room, requested = some room →
    (Runs.run (step cfg) st es).lobby.seats room s = true → st.lobby.seats room s = true
  inside : ∀ room, requested = some room → st.lobby.seats room s = true →
    Runs.Guarded (step cfg) (fun st i => i.event.joins s = true →
      (step cfg st i).lobby.seats room s = st.lobby.seats room s) st es
  /-- If nothing else happens in between, all is as before. -/
  alone : (∀ input ∈ es, input.event.joins s = true) →
    Undisturbed s none st.scene (Runs.run (step cfg) st es).scene

/-- Every request of the run that failed or was made to a closed channel has left its socket
as it was. -/
def AtomicJoins (cfg : Config) (inputs : List (Input V)) : Prop :=
  ∀ before es last s payload response, before ++ (es ++ [last]) <+: inputs →
    Serves cfg (after cfg before) s payload es last response → response.fails = true →
    Atomic cfg (after cfg before) s (isValidChannelId payload.channelId) (es ++ [last])

omit [Unknown V] in
/-- The event resumes a join with an ack after the `socket.leave` of its previous room has
rejected. -/
def undoesSwitch (st : RelayServer V) (input : Input V) : Bool :=
  match input.event with
  | .resumeJoin s _ => (st.sessions.get? s).any fun session =>
    match session.joining with
    | some ⟨request, .leavingPrevious _ _ _ false⟩ => request.ack
    | _ => false
  | _ => false

omit [Unknown V] in
/-- The event resumes a join with an ack after the `socket.join` of the socket's own room, and
the manager refuses the connected socket or reports a tombstone. -/
def quitsOwnRoom (st : RelayServer V) (input : Input V) : Bool :=
  match input.event with
  | .resumeJoin s _ => st.sockets.has s && (st.sessions.get? s).any fun session =>
    match session.joining with
    | some ⟨request, .joiningRoom true⟩ =>
      request.ack && request.channelId = ownRoom s &&
        (match (st.joinCall input.now s session request).1 with
        | .success _ _ _ terminated => terminated
        | .failure _ => true)
    | _ => false
  | _ => false

end RelayServer

/-! ## A request and its answer -/

namespace RelayServer

/-- The socket is not in the channel, and its handler asks for it while it waits. -/
def Aside (s : SocketId) (channelId : String) (st : RelayServer V) : Prop :=
  ∃ session, st.sessions.get? s = some session ∧ session.currentChannelId ≠ some channelId ∧
    ∀ pending, session.joining = some pending → Asking channelId pending

variable [Unknown V]

/-- What the rest of a request leaves of the socket, when it asked for a channel the socket is
not in. -/
structure Followed (cfg : Config) (s : SocketId) (channelId : String) (st : RelayServer V)
    (es : List (Input V)) : Prop where
  turns : Runs.Guarded (step cfg) (fun st i => i.event.joins s = true →
    Undisturbed s (some channelId) st.scene (step cfg st i).scene) st es
  participants : ∀ r p,
    ((Runs.run (step cfg) st es).channelManager.content r).participants.get? s = some p →
    (st.channelManager.content r).participants.get? s = some p
  aside : Aside s channelId (Runs.run (step cfg) st es)
  alone : (∀ input ∈ es, input.event.joins s = true) →
    Undisturbed s (some channelId) st.scene (Runs.run (step cfg) st es).scene

end RelayServer

section Requests

variable [Unknown V] {cfg : Config} {st : RelayServer V} {input : Input V} {s : SocketId}
  {channelId : String}

omit [Unknown V] in
theorem joinInProgress_eq {session : Session V} (hses : st.sessions.get? s = some session) :
    st.joinInProgress s = session.joining.isSome := by
  simp [joinInProgress, hses]

omit [Unknown V] in
theorem exists_joining (h : st.joinInProgress s = true) : ∃ session pending,
    st.sessions.get? s = some session ∧ session.joining = some pending := by
  obtain ⟨session, hses, hjoin⟩ := (Option.any_eq_true _ _).1 h
  obtain ⟨pending, hjoin⟩ := Option.isSome_iff_exists.1 hjoin
  exact ⟨session, pending, hses, hjoin⟩

/-- A join request of a socket whose handler waits is refused at once. -/
theorem step_joinChannel_busy (hbusy : st.joinInProgress s = true) {payload : JoinPayload}
    {ack resolves : Bool} (hevent : input.event = .joinChannel s payload ack resolves) :
    (step cfg st input).scene = st.scene := by
  obtain ⟨session, pending, hses, hjoin⟩ := exists_joining hbusy
  unfold step
  rw [hevent]
  dsimp only
  rw [hses]
  split
  next hsome =>
    cases hsome
    rw [onJoinChannel, if_pos (by rw [hjoin]; rfl)]
    exact scene_respond _ _ _ ⟨rfl, rfl⟩
  next => rfl

theorem step_resumeJoin {session : Session V} {pending : PendingJoin V} {resolves : Bool}
    (hses : st.sessions.get? s = some session) (hjoin : session.joining = some pending)
    (hevent : input.event = .resumeJoin s resolves) :
    step cfg st input = st.onResume input.now s session pending resolves := by
  unfold step
  rw [hevent]
  dsimp only
  rw [hses]
  dsimp only
  rw [hjoin]

omit [Unknown V] in
/-- A turn of the handler that keeps everything keeps the socket out of the channel. -/
theorem Undisturbed.aside {requested : Option String} {st' : RelayServer V}
    (h : Undisturbed s requested st.scene st'.scene) {session : Session V}
    (hses : st.sessions.get? s = some session) (hcur : session.currentChannelId ≠ some channelId)
    (hpending : ∃ session, st'.sessions.get? s = some session ∧ ∀ pending,
      session.joining = some pending → Asking channelId pending ∧ requested = some channelId) :
    Aside s channelId st' := by
  obtain ⟨session', hses', hasking⟩ := hpending
  refine ⟨session', hses', ?_, fun pending hjoin => (hasking pending hjoin).1⟩
  have hcurrent := h.current
  change (st'.sessions.get? s).bind _ = (st.sessions.get? s).bind _ at hcurrent
  rw [hses, hses'] at hcurrent
  exact fun hsame => hcur (hcurrent.symm.trans hsame)

/-- A turn of the waiting handler leaves the socket as it was, or reports no failure and is the
last one or a switch. -/
theorem RelayServer.Aside.own_turn (h : Aside s channelId st) (hbusy : st.joinInProgress s = true)
    (hnodup : st.lobby.RoomsNodup) (hjoins : input.event.joins s = true) :
    (Undisturbed s (some channelId) st.scene (step cfg st input).scene ∧
      Aside s channelId (step cfg st input)) ∨
    NoFailure st (step cfg st input) s ∧
      ((step cfg st input).joinInProgress s = false ∨ Switches s (step cfg st input)) := by
  obtain ⟨session, hses, hcur, hasking⟩ := h
  obtain ⟨session', pending, hses', hjoin⟩ := exists_joining hbusy
  cases hses.symm.trans hses'
  unfold Event.joins at hjoins
  split at hjoins
  next s' payload ack resolves hevent =>
    obtain rfl : s' = s := by simpa using hjoins
    have hscene := @step_joinChannel_busy V _ cfg st input s' hbusy _ _ _ hevent
    refine .inl ⟨hscene ▸ .refl .., session, ?_, hcur, hasking⟩
    change (RelayServer.scene _).session s' = _
    rw [hscene]
    exact hses
  next s' resolves hevent =>
    obtain rfl : s' = s := by simpa using hjoins
    rw [step_resumeJoin hses hjoin hevent]
    cases ownTurn_onResume hnodup hses (hasking pending hjoin) with
    | kept hsame hpending => exact .inl ⟨hsame, hsame.aside hses hcur hpending⟩
    | finished hnone hend => exact .inr ⟨hnone, .inl hend⟩
    | switched hnone hswitches => exact .inr ⟨hnone, .inr hswitches⟩
  next => cases hjoins

/-- Other events leave the socket aside, and give it no seat. -/
theorem RelayServer.Aside.other_event (h : Aside s channelId st)
    (hact : Act cfg st input (step cfg st input).scene) (hnodup : st.lobby.RoomsNodup)
    (hnot : input.event.joins s = false) :
    Aside s channelId (step cfg st input) ∧ ∀ r p,
      ((step cfg st input).channelManager.content r).participants.get? s = some p →
      (st.channelManager.content r).participants.get? s = some p := by
  obtain ⟨session, hses, hcur, hasking⟩ := h
  have hother := hact.bystander hnodup hnot hses
  obtain ⟨session', hses', hjoin, hcurrent⟩ := hother.session
  refine ⟨⟨session', hses', ?_, hjoin ▸ hasking⟩, hother.participants⟩
  rcases hcurrent with hsame | hnone
  · rwa [hsame]
  · rw [hnone]
    exact nofun

/-- A handler that has switched stays so until it ends with a success. -/
theorem RelayServer.Switches.turn (h : Switches s st)
    (hact : Act cfg st input (step cfg st input).scene) (hnodup : st.lobby.RoomsNodup)
    (hguard : st.undoesSwitch input = false) :
    Switches s (step cfg st input) ∨
      NoFailure st (step cfg st input) s ∧ (step cfg st input).joinInProgress s = false := by
  obtain ⟨session, request, messages, key, roster, settled, hses, hjoin, hack⟩ := h
  have hbusy : st.joinInProgress s = true := by rw [joinInProgress_eq hses, hjoin]; rfl
  by_cases hjoins : input.event.joins s = true
  · unfold Event.joins at hjoins
    split at hjoins
    next s' payload ack resolves hevent =>
      obtain rfl : s' = s := by simpa using hjoins
      have hscene := @step_joinChannel_busy V _ cfg st input s' hbusy _ _ _ hevent
      refine .inl ⟨session, request, messages, key, roster, settled, ?_, hjoin, hack⟩
      change (RelayServer.scene _).session s' = _
      rw [hscene]
      exact hses
    next s' resolves hevent =>
      obtain rfl : s' = s := by simpa using hjoins
      rw [step_resumeJoin hses hjoin hevent]
      cases settled with
      | true => exact .inr (finishJoin_ends rfl hses request messages key roster)
      | false =>
        unfold undoesSwitch at hguard
        simp [hevent, hses, hjoin, hack] at hguard
    next => cases hjoins
  · have hother := hact.bystander hnodup (by simpa using hjoins) hses
    obtain ⟨session', hses', hjoin', -⟩ := hother.session
    exact .inl ⟨session', request, messages, key, roster, settled, hses', hjoin'.trans hjoin, hack⟩

/-- Every event after a run is an act, and the run leaves no socket in a room twice. -/
theorem act_of_reached (hreach : ∃ before, RelayServer.after cfg before = st) (input : Input V) :
    Act cfg st input (step cfg st input).scene ∧ st.lobby.RoomsNodup ∧
      ∃ before, RelayServer.after cfg before = step cfg st input := by
  obtain ⟨before, rfl⟩ := hreach
  exact ⟨act_of_step cfg (managed_after cfg before) input, roomsNodup_after cfg before,
    before ++ [input], by rw [RelayServer.after, Runs.run_snoc]; rfl⟩

/-- A request whose handler has switched gets no failure for an answer. -/
theorem RelayServer.Switches.not_answers {last : Input V} {response : Response V}
    (hfails : response.fails = true) (es : List (Input V)) : ∀ {st : RelayServer V},
      (∃ before, RelayServer.after cfg before = st) → Switches s st →
      Runs.Guarded (RelayServer.step cfg) (fun st i => st.undoesSwitch i = false) st
        (es ++ [last]) →
      Runs.Guarded (RelayServer.step cfg)
        (fun st i => (RelayServer.step cfg st i).joinInProgress s = true) st es →
      (Runs.run (RelayServer.step cfg) st (es ++ [last])).joinInProgress s = false →
      ¬(Runs.run (RelayServer.step cfg) st es).Answers
        (Runs.run (RelayServer.step cfg) st (es ++ [last])) s response := by
  induction es with
  | nil =>
    intro st hreach h hguard _ hend
    obtain ⟨hact, hnodup, -⟩ := act_of_reached hreach last
    rcases h.turn hact hnodup hguard.1 with hswitches | ⟨hnone, -⟩
    · obtain ⟨session, request, messages, key, roster, settled, hses, hjoin, -⟩ := hswitches
      change (RelayServer.step cfg st last).joinInProgress s = false at hend
      rw [joinInProgress_eq hses, hjoin] at hend
      cases hend
    · exact hnone.not_answers hfails
  | cons input es ih =>
    intro st hreach h hguard hsuspended hend
    obtain ⟨hact, hnodup, hreach⟩ := act_of_reached hreach input
    rcases h.turn hact hnodup hguard.1 with hswitches | ⟨-, hdone⟩
    · exact ih hreach hswitches hguard.2 hsuspended.2 hend
    · exact absurd (hsuspended.1.symm.trans hdone) (by simp)

namespace RelayServer.Followed

theorem nil (h : Aside s channelId st) : Followed cfg s channelId st [] :=
  ⟨trivial, fun _ _ => id, h, fun _ => .refl ..⟩

theorem own {es : List (Input V)}
    (h : Undisturbed s (some channelId) st.scene (step cfg st input).scene)
    (hrest : Followed cfg s channelId (step cfg st input) es) :
    Followed cfg s channelId st (input :: es) where
  turns := ⟨fun _ => h, hrest.turns⟩
  participants r p hp := h.participants r ▸ hrest.participants r p hp
  aside := hrest.aside
  alone hall := h.trans (hrest.alone fun input' hmem => hall input' (List.mem_cons_of_mem _ hmem))

theorem other {es : List (Input V)} (hnot : input.event.joins s = false)
    (h : ∀ r p, ((step cfg st input).channelManager.content r).participants.get? s = some p →
      (st.channelManager.content r).participants.get? s = some p)
    (hrest : Followed cfg s channelId (step cfg st input) es) :
    Followed cfg s channelId st (input :: es) where
  turns := ⟨fun hjoins => absurd (hjoins.symm.trans hnot) (by simp), hrest.turns⟩
  participants r p hp := h r p (hrest.participants r p hp)
  aside := hrest.aside
  alone hall := by
    have hjoins := hall input List.mem_cons_self
    rw [hnot] at hjoins
    cases hjoins

end RelayServer.Followed

/-- The rest of a request for a channel the socket is not in leaves the socket as it was, if
the answer is a failure. -/
theorem RelayServer.Aside.followed {last : Input V} {response : Response V}
    (hfails : response.fails = true) (es : List (Input V)) :
    ∀ {st : RelayServer V}, (∃ before, RelayServer.after cfg before = st) →
      Aside s channelId st → st.joinInProgress s = true →
      Runs.Guarded (step cfg) (fun st i => st.undoesSwitch i = false) st (es ++ [last]) →
      Runs.Guarded (step cfg) (fun st i => (step cfg st i).joinInProgress s = true) st es →
      (Runs.run (step cfg) st (es ++ [last])).joinInProgress s = false →
      (Runs.run (step cfg) st es).Answers (Runs.run (step cfg) st (es ++ [last])) s response →
      Followed cfg s channelId st (es ++ [last]) := by
  induction es with
  | nil =>
    intro st hreach h hbusy hguard _ hend hanswer
    obtain ⟨hact, hnodup, -⟩ := act_of_reached hreach last
    by_cases hjoins : last.event.joins s = true
    · rcases h.own_turn hbusy hnodup hjoins with ⟨hsame, haside⟩ | ⟨hnone, -⟩
      · exact .own hsame (.nil haside)
      · exact absurd hanswer (hnone.not_answers hfails)
    · have hnot : last.event.joins s = false := by simpa using hjoins
      obtain ⟨haside, hparts⟩ := h.other_event hact hnodup hnot
      exact .other hnot hparts (.nil haside)
  | cons input es ih =>
    intro st hreach h hbusy hguard hsuspended hend hanswer
    obtain ⟨hact, hnodup, hreach⟩ := act_of_reached hreach input
    obtain ⟨hbusy', hsuspended⟩ := hsuspended
    have hrest := fun haside => ih hreach haside hbusy' hguard.2 hsuspended hend hanswer
    by_cases hjoins : input.event.joins s = true
    · rcases h.own_turn hbusy hnodup hjoins with ⟨hsame, haside⟩ | ⟨-, hdone | hswitches⟩
      · exact .own hsame (hrest haside)
      · rw [hbusy'] at hdone
        cases hdone
      · exact absurd hanswer (hswitches.not_answers hfails es hreach hguard.2 hsuspended hend)
    · have hnot : input.event.joins s = false := by simpa using hjoins
      obtain ⟨haside, hparts⟩ := h.other_event hact hnodup hnot
      exact .other hnot hparts (hrest haside)

/-- The first turn of a request with an ack. -/
theorem joinChannel_turn (hnodup : st.lobby.RoomsNodup) {payload : JoinPayload} {resolves : Bool}
    (hevent : input.event = .joinChannel s payload true resolves) :
    (step cfg st input).scene = st.scene ∨ ∃ session channelId, st.sessions.get? s = some session ∧
      (st.lobby.rooms s).isSome = true ∧ isValidChannelId payload.channelId = some channelId ∧
      (OwnTurn s channelId none st (step cfg st input) ∨
        NoFailure st (step cfg st input) s ∧
          Asked s session channelId resolves st (step cfg st input) ∧
            OwnTurn s channelId (some channelId) st (step cfg st input)) := by
  unfold step
  rw [hevent]
  dsimp only
  split
  next session hsock hses =>
    rcases ownTurn_onJoinChannel hnodup hses cfg payload with hsame | ⟨channelId, hvalid, hown⟩
    · exact .inl hsame
    · exact .inr ⟨session, channelId, hses, by simp [lobby, hsock], hvalid, hown⟩
  next => exact .inl rfl

omit [Unknown V] in
theorem Undisturbed.of_none {k k' : Scene V} (h : Undisturbed s none k k')
    (requested : Option String) : Undisturbed s requested k k' :=
  ⟨h.participants, h.buffers, h.current, fun room _ => h.rooms room nofun, h.updates⟩

/-- A request answered in its first turn. -/
theorem Undisturbed.atomic (h : Undisturbed s none st.scene (step cfg st input).scene)
    (requested : Option String) : Atomic cfg st s requested [input] where
  turns := ⟨fun _ => h.of_none requested, trivial⟩
  participants r _ hp := h.participants r ▸ hp
  outside room _ hseat := (h.rooms room nofun).symm.trans hseat
  inside room _ _ := ⟨fun _ => h.rooms room nofun, trivial⟩
  alone _ := h

/-! ### The room of the socket's own id -/

namespace RelayServer

omit [Unknown V] in
/-- The handler waits for the room of the socket's own id. -/
def AwaitsOwnRoom (s : SocketId) (settled : Bool) (st : RelayServer V) : Prop :=
  ∃ session request, st.sessions.get? s = some session ∧
    session.joining = some ⟨request, .joiningRoom settled⟩ ∧
    request.channelId = ownRoom s ∧ request.ack = true ∧ request.joinedRoom = false

/-- The turns of the socket's handler keep its place in its own room, or its absence. -/
structure KeepsOwnRoom (cfg : Config) (s : SocketId) (st : RelayServer V) (es : List (Input V)) :
    Prop where
  turns : Runs.Guarded (step cfg) (fun st i => i.event.joins s = true →
    (step cfg st i).lobby.seats (ownRoom s) s = st.lobby.seats (ownRoom s) s) st es
  outside : (Runs.run (step cfg) st es).lobby.seats (ownRoom s) s = true →
    st.lobby.seats (ownRoom s) s = true
  alone : (∀ input ∈ es, input.event.joins s = true) →
    (Runs.run (step cfg) st es).lobby.seats (ownRoom s) s = st.lobby.seats (ownRoom s) s

namespace KeepsOwnRoom

theorem nil : KeepsOwnRoom cfg s st [] := ⟨trivial, id, fun _ => rfl⟩

theorem cons {es : List (Input V)} (hown : input.event.joins s = true →
      (step cfg st input).lobby.seats (ownRoom s) s = st.lobby.seats (ownRoom s) s)
    (hback : (step cfg st input).lobby.seats (ownRoom s) s = true →
      st.lobby.seats (ownRoom s) s = true)
    (hrest : KeepsOwnRoom cfg s (step cfg st input) es) :
    KeepsOwnRoom cfg s st (input :: es) where
  turns := ⟨hown, hrest.turns⟩
  outside hseat := hback (hrest.outside hseat)
  alone hall := (hrest.alone fun input' hmem => hall input' (List.mem_cons_of_mem _ hmem)).trans
    (hown (hall input List.mem_cons_self))

theorem own {es : List (Input V)}
    (h : (step cfg st input).lobby.seats (ownRoom s) s = st.lobby.seats (ownRoom s) s)
    (hrest : KeepsOwnRoom cfg s (step cfg st input) es) :
    KeepsOwnRoom cfg s st (input :: es) :=
  .cons (fun _ => h) (fun hseat => h.symm.trans hseat) hrest

end KeepsOwnRoom

/-- A socket that is gone is in no room, and stays so. -/
theorem keepsOwnRoom_of_gone (es : List (Input V)) : ∀ {st : RelayServer V},
    (∃ before, RelayServer.after cfg before = st) → (st.sessions.get? s).isSome = true →
      st.lobby.rooms s = none →
      KeepsOwnRoom cfg s st es ∧ (Runs.run (step cfg) st es).lobby.rooms s = none := by
  induction es with
  | nil => exact fun _ _ hgone => ⟨.nil, hgone⟩
  | cons input es ih =>
    intro st hreach hses hgone
    obtain ⟨hact, hnodup, hreach⟩ := act_of_reached hreach input
    have hgone' : (step cfg st input).lobby.rooms s = none := hact.rooms_none hses hgone
    obtain ⟨hrest, hend⟩ := ih hreach (hact.isSome_session hses) hgone'
    refine ⟨.own ?_ hrest, hend⟩
    rw [Lobby.seats, Lobby.seats, hgone, hgone']

/-- The turn in which the room of the socket's own id was joined, or could not be joined. -/
theorem AwaitsOwnRoom.resume {settled resolves : Bool} (h : AwaitsOwnRoom s settled st)
    (hevent : input.event = .resumeJoin s resolves) (hguard : st.quitsOwnRoom input = false) :
    (settled = false ∧ (step cfg st input).joinInProgress s = false ∧
      (step cfg st input).lobby.seats (ownRoom s) s = st.lobby.seats (ownRoom s) s) ∨
    settled = true ∧ (st.lobby.rooms s = none ∨ NoFailure st (step cfg st input) s ∧
      ((step cfg st input).joinInProgress s = false ∨ Switches s (step cfg st input))) := by
  obtain ⟨session, request, hses, hjoin, hroom, hack, hjoined⟩ := h
  rw [step_resumeJoin hses hjoin hevent]
  cases settled with
  | false =>
    have hscene := @scene_endJoin V st s request (.failed "Unable to join channel") session hses
      ⟨rfl, rfl⟩
    have hend : st.onResume input.now s session ⟨request, .joiningRoom false⟩ resolves =
        st.endJoin s request (.failed "Unable to join channel") := by
      unfold onResume
      dsimp only
      unfold abortJoin
      rw [if_neg Bool.false_ne_true, if_neg (by simp [hjoined])]
    have hsession : (st.endJoin s request (.failed "Unable to join channel")).scene.session s =
        some { session with joining := none } := by
      rw [hscene]
      exact Function.update_self ..
    rw [hend]
    refine .inl ⟨rfl, ?_, ?_⟩
    · rw [joinInProgress_of_scene hsession]
      rfl
    · exact Lobby.seats_congr (congrArg (fun k : Scene V => k.lobby.rooms s) hscene) _
  | true =>
    refine .inr ⟨rfl, ?_⟩
    cases hsock : st.sockets.get? s with
    | none => exact .inl (by simp [lobby, hsock])
    | some socket =>
      have hadmitted : ∃ messages key roster,
          (st.joinCall input.now s session request).1 = .success messages key roster false := by
        have hhas : st.sockets.has s = true := by simp [JsMap.has, hsock]
        unfold quitsOwnRoom at hguard
        rw [hevent] at hguard
        dsimp only at hguard
        rw [hhas, hses, Option.any_some, hjoin] at hguard
        simp only [hack, hroom, decide_true, Bool.true_and] at hguard
        cases hres : (st.joinCall input.now s session request).1 with
        | failure error =>
          rw [hres] at hguard
          cases hguard
        | success messages key roster terminated =>
          rw [hres] at hguard
          exact ⟨messages, key, roster, by simpa using hguard⟩
      obtain ⟨messages, key, roster, hres⟩ := hadmitted
      exact .inr (@enterChannel_admitted V st input.now s session
        { request with joinedRoom := true } resolves hses hack messages key roster hres
        st.rateLimits)

/-- One event while the handler waits for the room of the socket's own id : it waits on, it
ends, or the socket is gone or gets no failure. -/
theorem AwaitsOwnRoom.turn {settled : Bool} (h : AwaitsOwnRoom s settled st)
    (hact : Act cfg st input (step cfg st input).scene) (hnodup : st.lobby.RoomsNodup)
    (hguard : st.quitsOwnRoom input = false) :
    (AwaitsOwnRoom s settled (step cfg st input) ∧
      (input.event.joins s = true →
        (step cfg st input).lobby.seats (ownRoom s) s = st.lobby.seats (ownRoom s) s) ∧
      ((step cfg st input).lobby.seats (ownRoom s) s = true →
        st.lobby.seats (ownRoom s) s = true)) ∨
    (settled = false ∧ (step cfg st input).joinInProgress s = false ∧
      (step cfg st input).lobby.seats (ownRoom s) s = st.lobby.seats (ownRoom s) s) ∨
    settled = true ∧ (st.lobby.rooms s = none ∨ NoFailure st (step cfg st input) s ∧
      ((step cfg st input).joinInProgress s = false ∨ Switches s (step cfg st input))) := by
  have ⟨session, request, hses, hjoin, hroom⟩ := h
  by_cases hjoins : input.event.joins s = true
  · unfold Event.joins at hjoins
    split at hjoins
    next s' payload ack resolves hevent =>
      obtain rfl : s' = s := by simpa using hjoins
      have hbusy : st.joinInProgress s' = true := by rw [joinInProgress_eq hses, hjoin]; rfl
      have hscene := @step_joinChannel_busy V _ cfg st input s' hbusy _ _ _ hevent
      have hseats : (step cfg st input).lobby.seats (ownRoom s') s' =
          st.lobby.seats (ownRoom s') s' :=
        Lobby.seats_congr (congrArg (fun k : Scene V => k.lobby.rooms s') hscene) _
      refine .inl ⟨⟨session, request, ?_, hjoin, hroom⟩, fun _ => hseats,
        fun hseat => hseats.symm.trans hseat⟩
      change (RelayServer.scene _).session s' = _
      rw [hscene]
      exact hses
    next s' resolves hevent =>
      obtain rfl : s' = s := by simpa using hjoins
      exact .inr (h.resume hevent hguard)
    next => cases hjoins
  · have hnot : input.event.joins s = false := by simpa using hjoins
    have hother := hact.bystander hnodup hnot hses
    obtain ⟨session', hses', hjoin', -⟩ := hother.session
    exact .inl ⟨⟨session', request, hses', hjoin'.trans hjoin, hroom⟩,
      fun hyes => absurd hyes hjoins, hother.rooms _⟩

/-- A request for the channel of the socket's own id that gets a failure for an answer keeps
the socket's place in that room, and the socket is gone if the room was joined. -/
theorem AwaitsOwnRoom.followed {settled : Bool} {last : Input V} {response : Response V}
    (hfails : response.fails = true) (es : List (Input V)) :
    ∀ {st : RelayServer V}, (∃ before, RelayServer.after cfg before = st) →
      AwaitsOwnRoom s settled st →
      Runs.Guarded (step cfg) (fun st i => st.undoesSwitch i = false ∧
        st.quitsOwnRoom i = false) st (es ++ [last]) →
      Runs.Guarded (step cfg) (fun st i => (step cfg st i).joinInProgress s = true) st es →
      (Runs.run (step cfg) st (es ++ [last])).joinInProgress s = false →
      (Runs.run (step cfg) st es).Answers (Runs.run (step cfg) st (es ++ [last])) s response →
      KeepsOwnRoom cfg s st (es ++ [last]) ∧ (settled = true →
        (Runs.run (step cfg) st (es ++ [last])).lobby.rooms s = none) := by
  induction es with
  | nil =>
    intro st hreach h hguard _ hend hanswer
    obtain ⟨hact, hnodup, -⟩ := act_of_reached hreach last
    have hses : (st.sessions.get? s).isSome = true := by
      obtain ⟨session, -, hses, -⟩ := h
      rw [hses]
      rfl
    rcases h.turn hact hnodup hguard.1.2 with
      ⟨hwaits, -⟩ | ⟨rfl, -, hseats⟩ | ⟨rfl, hgone | ⟨hnone, -⟩⟩
    · obtain ⟨session, request, hses, hjoin, -⟩ := hwaits
      change (step cfg st last).joinInProgress s = false at hend
      rw [joinInProgress_eq hses, hjoin] at hend
      cases hend
    · exact ⟨.own hseats .nil, fun h => by cases h⟩
    · exact (keepsOwnRoom_of_gone [last] hreach hses hgone).imp_right fun hgone _ => hgone
    · exact absurd hanswer (hnone.not_answers hfails)
  | cons input es ih =>
    intro st hreach h hguard hsuspended hend hanswer
    obtain ⟨hact, hnodup, hreach'⟩ := act_of_reached hreach input
    have hses : (st.sessions.get? s).isSome = true := by
      obtain ⟨session, -, hses, -⟩ := h
      rw [hses]
      rfl
    rcases h.turn hact hnodup hguard.1.2 with
      ⟨hwaits, hown, hback⟩ | ⟨-, hdone, -⟩ | ⟨rfl, hgone | ⟨hnone, hdone | hswitches⟩⟩
    · obtain ⟨hrest, hgone⟩ := ih hreach' hwaits hguard.2 hsuspended.2 hend hanswer
      exact ⟨.cons hown hback hrest, hgone⟩
    · exact absurd (hsuspended.1.symm.trans hdone) (by simp)
    · exact (keepsOwnRoom_of_gone _ hreach hses hgone).imp_right fun hgone _ => hgone
    · exact absurd (hsuspended.1.symm.trans hdone) (by simp)
    · exact absurd hanswer (hswitches.not_answers hfails es hreach'
        (hguard.2.mono fun _ _ hok => hok.1) hsuspended.2 hend)

namespace Asked

variable {session : Session V} {resolves : Bool} {es : List (Input V)}

omit [Unknown V] in
/-- The first turn of a request for the room of the socket's own id. -/
theorem seats_own {st' : RelayServer V} (h : Asked s session (ownRoom s) resolves st st') :
    st'.lobby.seats (ownRoom s) s =
      if resolves then (st.lobby.rooms s).isSome else st.lobby.seats (ownRoom s) s := by
  rw [h.lobby]
  split
  · rw [Lobby.seats_enter, if_pos ⟨rfl, rfl⟩]
  · rfl

theorem outside_own (h : Asked s session (ownRoom s) resolves st (step cfg st input))
    (hkeeps : KeepsOwnRoom cfg s (step cfg st input) es)
    (hgone : resolves = true → (Runs.run (step cfg) (step cfg st input) es).lobby.rooms s = none)
    (hseat : (Runs.run (step cfg) st (input :: es)).lobby.seats (ownRoom s) s = true) :
    st.lobby.seats (ownRoom s) s = true := by
  cases resolves with
  | true =>
    change (Runs.run (step cfg) (step cfg st input) es).lobby.seats (ownRoom s) s = true at hseat
    rw [Lobby.seats, hgone rfl] at hseat
    cases hseat
  | false => exact h.seats_own.symm.trans (hkeeps.outside hseat)

theorem inside_own (h : Asked s session (ownRoom s) resolves st (step cfg st input))
    (hconn : (st.lobby.rooms s).isSome = true)
    (hkeeps : KeepsOwnRoom cfg s (step cfg st input) es)
    (hseat : st.lobby.seats (ownRoom s) s = true) :
    Runs.Guarded (step cfg) (fun st i => i.event.joins s = true →
      (step cfg st i).lobby.seats (ownRoom s) s = st.lobby.seats (ownRoom s) s) st
        (input :: es) := by
  refine ⟨fun _ => ?_, hkeeps.turns⟩
  rw [h.seats_own, hconn, hseat, ite_self]

theorem alone_own (h : Asked s session (ownRoom s) resolves st (step cfg st input))
    (hconn : (st.lobby.rooms s).isSome = true)
    (hkeeps : KeepsOwnRoom cfg s (step cfg st input) es)
    (hgone : resolves = true → (Runs.run (step cfg) (step cfg st input) es).lobby.rooms s = none)
    (hall : ∀ input' ∈ es, input'.event.joins s = true) :
    (Runs.run (step cfg) st (input :: es)).lobby.seats (ownRoom s) s =
      st.lobby.seats (ownRoom s) s := by
  have halone := hkeeps.alone hall
  rw [h.seats_own] at halone
  cases resolves with
  | true =>
    -- nobody disconnected the socket, so the manager did not refuse it
    rw [if_pos rfl, hconn, Lobby.seats, hgone rfl] at halone
    cases halone
  | false => exact halone

end Asked

end RelayServer

/-! ### Failed requests -/

/-- A failed request for a channel the socket was not in, once the handler's first turn and
the rest of the request kept its place in the requested room. -/
theorem RelayServer.Followed.atomic {es : List (Input V)}
    (hsame : Undisturbed s (some channelId) st.scene (step cfg st input).scene)
    (h : Followed cfg s channelId (step cfg st input) es)
    (houtside : (Runs.run (step cfg) st (input :: es)).lobby.seats channelId s = true →
      st.lobby.seats channelId s = true)
    (hinside : st.lobby.seats channelId s = true → Runs.Guarded (step cfg) (fun st i =>
      i.event.joins s = true → (step cfg st i).lobby.seats channelId s =
        st.lobby.seats channelId s) st (input :: es))
    (halone : (∀ input' ∈ es, input'.event.joins s = true) →
      (Runs.run (step cfg) st (input :: es)).lobby.seats channelId s =
        st.lobby.seats channelId s) :
    Atomic cfg st s (some channelId) (input :: es) where
  turns := ⟨fun _ => hsame, h.turns⟩
  participants r p hp := hsame.participants r ▸ h.participants r p hp
  outside := by
    rintro room ⟨⟩ hseat
    exact houtside hseat
  inside := by
    rintro room ⟨⟩ hseat
    exact hinside hseat
  alone hall := by
    have hall' : ∀ input' ∈ es, input'.event.joins s = true :=
      fun input' hmem => hall input' (List.mem_cons_of_mem _ hmem)
    have hrun := hsame.trans (h.alone hall')
    refine ⟨hrun.participants, hrun.buffers, hrun.current, fun room _ => ?_, hrun.updates⟩
    by_cases hroom : room = channelId
    · rw [hroom]
      exact halone hall'
    · exact hrun.rooms room fun hsome => hroom (Option.some.inj hsome).symm

/-- A failed request has left its socket as it was. -/
theorem RelayServer.Serves.atomic {before : List (Input V)} {payload : JoinPayload}
    {es : List (Input V)} {last : Input V} {response : Response V}
    (h : Serves cfg (RelayServer.after cfg before) s payload es last response)
    (hfails : response.fails = true)
    (hguard : Runs.Guarded (step cfg) (fun st i => st.undoesSwitch i = false ∧
      st.keepsRoom i = false ∧ st.quitsOwnRoom i = false) (create cfg)
        (before ++ (es ++ [last]))) :
    Atomic cfg (RelayServer.after cfg before) s (isValidChannelId payload.channelId)
      (es ++ [last]) := by
  have hreach : ∃ before', RelayServer.after cfg before' = RelayServer.after cfg before :=
    ⟨before, rfl⟩
  have hlodged := lodged_after (hguard.of_append.mono fun _ _ hok => hok.2.1)
  have hlodged' := lodged_after (hguard.mono fun _ _ hok => hok.2.1)
  have hnodup := roomsNodup_after cfg before
  have hguard := (Runs.guarded_append.1 hguard).2
  rw [RelayServer.after, Runs.run_append] at hlodged'
  change Lodged (Runs.run (step cfg) (RelayServer.after cfg before)
    (es ++ [last])).scene at hlodged'
  change Runs.Guarded _ _ (RelayServer.after cfg before) _ at hguard
  generalize RelayServer.after cfg before = st at *
  obtain ⟨now, resolves, hfirst⟩ := h.first
  cases es with
  | nil =>
    have hevent : last.event = .joinChannel s payload true resolves :=
      congrArg Input.event (Option.some.inj hfirst)
    have hanswer : st.Answers (step cfg st last) s response := h.answered
    rcases joinChannel_turn hnodup hevent with
      hsame | ⟨session, channelId, hses, hconn, hvalid, hown | hown⟩
    · exact Undisturbed.atomic (hsame ▸ .refl ..) _
    · cases hown with
      | kept hsame => exact hsame.atomic _
      | finished hnone | switched hnone => exact absurd hanswer (hnone.not_answers hfails)
    · exact absurd hanswer (hown.1.not_answers hfails)
  | cons input es =>
    have hevent : input.event = .joinChannel s payload true resolves :=
      congrArg Input.event (Option.some.inj hfirst)
    have hfree : st.joinInProgress s = false := h.free (by simp)
    have hend : (Runs.run (step cfg) (step cfg st input) (es ++ [last])).joinInProgress s = false :=
      h.ended (by simp)
    have hanswer := h.answered
    obtain ⟨hbusy, hsuspended⟩ := h.suspended
    obtain ⟨-, -, hreach⟩ := act_of_reached hreach input
    have hguard' := hguard.2.mono fun _ _ hok => hok.1
    have hswitched : ¬Switches s (step cfg st input) := fun hswitches =>
      hswitches.not_answers hfails es hreach hguard' hsuspended hend hanswer
    rcases joinChannel_turn hnodup hevent with
      hsame | ⟨session, channelId, hses, hconn, hvalid, hown | ⟨-, hasked, hown⟩⟩
    · obtain ⟨session, pending, hses, hjoin⟩ := exists_joining hbusy
      have hses : st.sessions.get? s = some session := by
        change st.scene.session s = _
        rw [← hsame]
        exact hses
      rw [joinInProgress_eq hses, hjoin] at hfree
      cases hfree
    · cases hown with
      | kept _ hpending =>
        obtain ⟨session', hses', hasking⟩ := hpending
        obtain ⟨session'', pending, hses'', hjoin⟩ := exists_joining hbusy
        cases hses'.symm.trans hses''
        cases (hasking pending hjoin).2
      | finished _ hdone => exact absurd (hbusy.symm.trans hdone) (by simp)
      | switched _ hswitches => exact absurd hswitches hswitched
    · cases hown with
      | finished _ hdone => exact absurd (hbusy.symm.trans hdone) (by simp)
      | switched _ hswitches => exact absurd hswitches hswitched
      | kept hsame hpending =>
        have haside := hsame.aside hses hasked.current hpending
        have hfollowed := haside.followed hfails es hreach hbusy hguard' hsuspended hend
          hanswer
        rw [hvalid]
        by_cases hown : channelId = ownRoom s
        · -- the socket may be in the requested room already
          subst hown
          have hguard'' : Runs.Guarded (step cfg) (fun st i => st.undoesSwitch i = false ∧
              st.quitsOwnRoom i = false) (step cfg st input) (es ++ [last]) :=
            hguard.2.mono fun _ _ hok => ⟨hok.1, hok.2.2⟩
          obtain ⟨request, hroom, hack, hjoined, hwaits⟩ := hasked.waits
          obtain ⟨hkeeps, hgone⟩ := AwaitsOwnRoom.followed hfails es hreach
            ⟨_, request, hwaits, rfl, hroom, hack, hjoined⟩ hguard'' hsuspended hend hanswer
          exact hfollowed.atomic hsame (hasked.outside_own hkeeps hgone)
            (hasked.inside_own hconn hkeeps) (hasked.alone_own hconn hkeeps hgone)
        · have hbefore : st.lobby.seats channelId s = false := by
            by_contra hseat
            have hlodges := hlodged.rooms s session channelId hses (eq_true_of_ne_false hseat) hown
            exact hasked.current ((Session.lodges_of_free hasked.free channelId).1 hlodges)
          have hafter : (Runs.run (step cfg) (step cfg st input)
              (es ++ [last])).lobby.seats channelId s = false := by
            obtain ⟨session', hses', hcur', -⟩ := hfollowed.aside
            rw [joinInProgress_eq hses'] at hend
            by_contra hseat
            have hlodges := hlodged'.rooms s session' channelId hses'
              (eq_true_of_ne_false hseat) hown
            exact hcur' ((Session.lodges_of_free (by simpa using hend) channelId).1 hlodges)
          exact hfollowed.atomic hsame (fun hseat => absurd (hafter.symm.trans hseat) (by simp))
            (fun hseat => absurd (hbefore.symm.trans hseat) (by simp))
            fun _ => hafter.trans hbefore.symm

/-- In a run in which no awaited `socket.leave` rejects at the wrong place and no socket quits
the room of its own id, a failed join leaves its socket as it was. -/
theorem joins_atomic (cfg : Config) (inputs : List (Input V))
    (hguard : Runs.Guarded (step cfg) (fun st i => st.undoesSwitch i = false ∧
      st.keepsRoom i = false ∧ st.quitsOwnRoom i = false) (create cfg) inputs) :
    AtomicJoins cfg inputs := by
  intro before es last s payload response hrun hserves hfails
  obtain ⟨rest, rfl⟩ := hrun
  exact hserves.atomic hfails hguard.of_append

/-- A dapp that asks for a channel another dapp is in stays where it is. -/
theorem joins_atomic_refused : AtomicJoins (V := String) .unset
    [⟨0, .connection 1 "a" 1⟩, ⟨0, .connection 2 "b" 2⟩,
      ⟨0, .joinChannel 1 ⟨.string "c", .string "dapp", .undefined⟩ true true⟩,
      ⟨0, .resumeJoin 1 true⟩,
      ⟨0, .joinChannel 2 ⟨.string "d", .string "dapp", .undefined⟩ true true⟩,
      ⟨0, .resumeJoin 2 true⟩,
      ⟨1, .joinChannel 1 ⟨.string "d", .string "dapp", .undefined⟩ true true⟩,
      ⟨1, .resumeJoin 1 true⟩, ⟨1, .resumeJoin 1 true⟩] :=
  joins_atomic .unset _ (by decide)

end Requests

/-- A dapp takes its seat in "c". -/
def dappIn : List (Input String) :=
  [⟨0, .connection 1 "a" 1⟩,
    ⟨0, .joinChannel 1 ⟨.string "c", .string "dapp", .undefined⟩ true true⟩,
    ⟨0, .resumeJoin 1 true⟩]

/-- It asks for "d", and the `socket.leave` of "c" rejects. -/
def switchUndone : List (Input String) :=
  [⟨1, .joinChannel 1 ⟨.string "d", .string "dapp", .undefined⟩ true true⟩,
    ⟨1, .resumeJoin 1 false⟩, ⟨1, .resumeJoin 1 true⟩]

/-- The request is acked as failed, and the dapp has lost its seat in "c". -/
theorem join_not_atomic :
    ¬AtomicJoins .unset (dappIn ++ (switchUndone ++ [⟨1, .resumeJoin 1 true⟩])) := by
  intro hatomic
  have hserves : Serves .unset (RelayServer.after .unset dappIn) 1
      ⟨.string "d", .string "dapp", .undefined⟩ switchUndone ⟨1, .resumeJoin 1 true⟩
      (.failed "Unable to join channel") :=
    ⟨⟨1, true, rfl⟩, by decide, by decide, by decide, [], by rfl⟩
  have halone := (hatomic dappIn switchUndone _ 1 _ _ List.prefix_rfl hserves rfl).alone (by decide)
  have hseat : ((RelayServer.after .unset dappIn).channelManager.content 0).participants.has 1 =
      true := by decide
  have hgone : ((Runs.run (step .unset) (RelayServer.after .unset dappIn) (switchUndone ++
      [⟨1, .resumeJoin 1 true⟩])).channelManager.content 0).participants.has 1 = false := by decide
  have hparts := congrArg Option.isSome (halone.participants 0)
  exact absurd (hseat.symm.trans (hparts.symm.trans hgone)) (by decide)

end QrlBackend
