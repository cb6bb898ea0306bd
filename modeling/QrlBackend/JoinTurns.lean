import QrlBackend.Closing
import QrlBackend.Lodging
import QrlBackend.Membership

/-!
# Turns of a join handler

What the turns of a socket's own `join_channel` handler do to the socket (`OwnTurn`), and what
the turns of all other handlers leave of it (`Bystander`).

A turn of its own leaves the participations of the socket, its current channel, its rooms but
the requested one and all buffers as they are and tells nobody of a change (`Undisturbed`),
or it reports no failure. Another event takes seats and rooms away from the socket at most,
and its handler waits as before.
-/

set_option autoImplicit false

namespace QrlBackend

variable {V : Type}

open ChannelManager RelayServer

/-! ## What a failed join leaves as it was -/

/-- A turn of the socket's `join_channel` handler. -/
def Event.joins (s : SocketId) : Event V → Bool
  | .joinChannel s' _ _ _ | .resumeJoin s' _ => s' = s
  | _ => false

/-- The packets that announce others. -/
def Packet.isUpdate : Packet V → Bool
  | .participantsChanged _ _ => true
  | _ => false

/-- The `participants_changed` packets a socket was sent. -/
def Lobby.updates (l : Lobby V) (x : SocketId) : List (Packet V) :=
  (l.presence x).filter Packet.isUpdate

/-- The join failed, or its channel was closed. -/
def Response.fails : Response V → Bool
  | .failed _ => true
  | .joined _ _ _ terminated => terminated
  | _ => false

/-- The socket's situation is the same, but for its place in the requested room. Buffers are
the same, and nobody was told of a change. -/
structure Undisturbed (s : SocketId) (requested : Option String) (k k' : Scene V) : Prop where
  participants : ∀ r, (k'.manager.content r).participants.get? s =
    (k.manager.content r).participants.get? s
  buffers : ∀ r, (k'.manager.content r).messageBuffer = (k.manager.content r).messageBuffer
  current : (k'.session s).bind (·.currentChannelId) = (k.session s).bind (·.currentChannelId)
  rooms : ∀ room, requested ≠ some room → k'.lobby.seats room s = k.lobby.seats room s
  updates : ∀ x, k'.lobby.updates x = k.lobby.updates x

namespace Undisturbed

theorem refl (s : SocketId) (requested : Option String) (k : Scene V) :
    Undisturbed s requested k k :=
  ⟨fun _ => rfl, fun _ => rfl, rfl, fun _ _ => rfl, fun _ => rfl⟩

theorem trans {s : SocketId} {requested : Option String} {k k' k'' : Scene V}
    (h : Undisturbed s requested k k') (h' : Undisturbed s requested k' k'') :
    Undisturbed s requested k k'' where
  participants r := (h'.participants r).trans (h.participants r)
  buffers r := (h'.buffers r).trans (h.buffers r)
  current := h'.current.trans h.current
  rooms room hne := (h'.rooms room hne).trans (h.rooms room hne)
  updates x := (h'.updates x).trans (h.updates x)

end Undisturbed

/-! ## Other events -/

/-- Nobody else takes a seat in a join. -/
theorem joinCall_participants {st : RelayServer V} {now : ℕ} {s x : SocketId} {session : Session V}
    {request : JoinRequest} (hx : x ≠ s) (r : ChannelRef) (p : Participant)
    (hp : ((st.joinCall now s session request).2.content r).participants.get? x = some p) :
    (st.channelManager.content r).participants.get? x = some p := by
  have hout := joinCall_outcome st now s session request
  generalize st.joinCall now s session request = out at hout hp
  obtain ⟨result, m⟩ := out
  dsimp only at hout hp
  cases hout with
  | refused | tombstone => exact hp
  | refusedAfterStale error r' e =>
    rw [content_dropStale] at hp
    split at hp
    next hr =>
      subst hr
      rw [Content.without, JsMap.get?_delete] at hp
      split at hp
      · cases hp
      · exact hp
    next => exact hp
  | admitted r' c key stale hslot _ _ _ _ _ _ hcontent =>
    rw [hcontent] at hp
    split at hp
    next hr =>
      subst hr
      have hold : c.participants.get? x = some p := by
        rw [Content.joined, JsMap.get?_set_of_ne _ _ hx] at hp
        rcases stale with _ | e
        · exact hp
        · rw [Option.elim_some, Content.without, JsMap.get?_delete] at hp
          split at hp
          · cases hp
          · exact hp
      cases hslot with
      | existing => exact hold
      | created => cases hold
    next => exact hp

/-- Who takes part after a disconnection did before. -/
theorem Scene.drop_participants {k : Scene V} {now : ℕ} {s x : SocketId} {r : ChannelRef}
    {p : Participant} (hp : ((k.drop now s).manager.content r).participants.get? x = some p) :
    (k.manager.content r).participants.get? x = some p := by
  unfold Scene.drop at hp
  split at hp
  · dsimp only at hp
    have hrelease := Shrinks.release k.manager s
    split at hp
    · exact hrelease.participants r x p hp
    · exact hrelease.participants r x p ((Shrinks.leave _ _ _ _).participants r x p hp)
  · exact hp

/-- A disconnection leaves joins and current channels as they are. -/
theorem Scene.drop_session {k : Scene V} {now : ℕ} {s x : SocketId} {session : Session V}
    (hses : k.session x = some session) : ∃ session', (k.drop now s).session x = some session' ∧
      session'.joining = session.joining ∧
      session'.currentChannelId = session.currentChannelId := by
  have hupdated : ∃ session', Function.update k.session s ((k.session s).map fun session =>
        { session with releasedSocketCounter := true }) x = some session' ∧
      session'.joining = session.joining ∧
      session'.currentChannelId = session.currentChannelId := by
    rw [Function.update_apply]
    split
    next hx =>
      subst hx
      rw [hses]
      exact ⟨_, rfl, rfl, rfl⟩
    next => exact ⟨session, hses, rfl, rfl⟩
  unfold Scene.drop
  split
  · dsimp only
    split <;> exact hupdated
  · exact ⟨session, hses, rfl, rfl⟩

/-- It takes nobody into a room. -/
theorem Scene.drop_seats {k : Scene V} {now : ℕ} {s x : SocketId} {room : String}
    (hseat : (k.drop now s).lobby.seats room x = true) : k.lobby.seats room x = true := by
  unfold Scene.drop at hseat
  split at hseat
  · dsimp only at hseat
    split at hseat
    · rw [Lobby.seats_vanish] at hseat
      split at hseat
      · cases hseat
      · exact hseat
    · rw [Lobby.seats_announceLeft, Lobby.seats_vanish] at hseat
      split at hseat
      · cases hseat
      · exact hseat
  · exact hseat

/-- What an event that is no turn of a socket's join handler leaves of the socket : its join
waits as before, and it has its seats and rooms from before. -/
structure Bystander (s : SocketId) (session : Session V) (k k' : Scene V) : Prop where
  session : ∃ session', k'.session s = some session' ∧ session'.joining = session.joining ∧
    (session'.currentChannelId = session.currentChannelId ∨ session'.currentChannelId = none)
  rooms : ∀ room, k'.lobby.seats room s = true → k.lobby.seats room s = true
  participants : ∀ r p, (k'.manager.content r).participants.get? s = some p →
    (k.manager.content r).participants.get? s = some p

namespace Bystander

variable {s : SocketId} {session : Session V} {k : Scene V}

/-- Another session is replaced. -/
theorem of_other (hses : k.session s = some session) {s' : SocketId} (hs : s ≠ s')
    {session' : Option (Session V)} {m : ChannelManager V} {l : Lobby V}
    (hrooms : ∀ room, l.seats room s = true → k.lobby.seats room s = true)
    (hparts : ∀ r p, (m.content r).participants.get? s = some p →
      (k.manager.content r).participants.get? s = some p) :
    Bystander s session k ⟨m, Function.update k.session s' session', l⟩ where
  session := ⟨session, (Function.update_of_ne hs _ _).trans hses, rfl, .inl rfl⟩
  rooms := hrooms
  participants := hparts

/-- Another disconnection is nothing to a bystander. -/
theorem drop (hses : k.session s = some session) (now : ℕ) (s' : SocketId) :
    Bystander s session k (k.drop now s') where
  session := by
    obtain ⟨session', hses', hjoin, hcur⟩ := Scene.drop_session hses
    exact ⟨session', hses', hjoin, .inl hcur⟩
  rooms _ := Scene.drop_seats
  participants _ _ := Scene.drop_participants

theorem relieve (hses : k.session s = some session) (now : ℕ) (target : Option SocketId) :
    Bystander s session k (k.relieve now target) := by
  have hrefl : Bystander s session k k := ⟨⟨session, hses, rfl, .inl rfl⟩, fun _ => id,
    fun _ _ => id⟩
  unfold Scene.relieve
  split
  · exact hrefl
  · split
    · exact hrefl
    · exact .drop hses now _

/-- The channel is given up by a socket, which is the one or another. -/
theorem leaves {st : RelayServer V} (hses : st.sessions.get? s = some session)
    (hnodup : st.lobby.RoomsNodup) {s' : SocketId} {session' : Session V}
    (hses' : st.sessions.get? s' = some session') (channelId : String) {m : ChannelManager V}
    (hshrinks : Shrinks st.channelManager m) {l : Lobby V}
    (hseats : ∀ room x, l.seats room x = (st.lobby.exit s' channelId).seats room x) :
    Bystander s session st.scene ⟨m, Function.update st.scene.session s'
      (some (if session'.currentChannelId = some channelId then
        { session' with currentChannelId := none } else session')), l⟩ where
  session := by
    by_cases hs : s = s'
    · subst hs
      cases hses.symm.trans hses'
      refine ⟨_, Function.update_self _ _ _, ?_, ?_⟩
      · split <;> rfl
      · split
        · exact .inr rfl
        · exact .inl rfl
    · exact ⟨session, (Function.update_of_ne hs _ _).trans hses, rfl, .inl rfl⟩
  rooms room hseat := (seats_exit_of hnodup (hseats room s ▸ hseat)).1
  participants r p := hshrinks.participants r s p

end Bystander

section Bystanders

variable [Unknown V] {cfg : Config} {st : RelayServer V} {input : Input V} {k : Scene V}
  {s : SocketId} {session : Session V}

omit [Unknown V] in
theorem Asks.joins {request : JoinRequest} {resolves : Bool}
    (h : st.Asks cfg input s session request resolves) : input.event.joins s = true := by
  obtain ⟨payload, hevent, -⟩ := h.event
  simp [hevent, Event.joins]

omit [Unknown V] in
theorem Enters.joins {request : JoinRequest} {resolves : Bool}
    (h : st.Enters cfg input s session request resolves) : input.event.joins s = true := by
  rcases h with ⟨hasks, -⟩ | ⟨hevent, -, -⟩
  · exact Asks.joins hasks
  · simp [hevent, Event.joins]

/-- Nor is any act of another socket. -/
theorem Act.bystander (hact : Act cfg st input k) (hnodup : st.lobby.RoomsNodup)
    (hnot : input.event.joins s = false) (hses : st.sessions.get? s = some session) :
    Bystander s session st.scene k := by
  have hne : ∀ s', input.event.joins s' = true → s ≠ s' := by
    rintro s' hjoins rfl
    rw [hnot] at hjoins
    cases hjoins
  have hresume : ∀ {s' resolves}, input.event = .resumeJoin s' resolves → s ≠ s' :=
    fun hevent => hne _ (by simp [hevent, Event.joins])
  have hexit : ∀ {s' channelId room}, (st.lobby.exit s' channelId).seats room s = true →
      st.lobby.seats room s = true := fun hseat => (seats_exit_of hnodup hseat).1
  have hwithdrawn : ∀ {s' request resolves room},
      (st.withdrawn s' request resolves).seats room s = true → st.lobby.seats room s = true := by
    intro s' request resolves room hseat
    unfold withdrawn at hseat
    split at hseat
    · exact hexit hseat
    · exact hseat
  cases hact with
  | idle => exact ⟨⟨session, hses, rfl, .inl rfl⟩, fun _ => id, fun _ _ => id⟩
  | turned m hquiet =>
    exact ⟨⟨session, hses, rfl, .inl rfl⟩, fun _ => id, fun r p hp => hquiet.participants r ▸ hp⟩
  | opened s' clientIp hnew =>
    have hs : s ≠ s' := by
      rintro rfl
      rw [hses] at hnew
      cases hnew
    refine .of_other hses hs (fun room hseat => ?_) fun _ _ => id
    dsimp only [Lobby.seats] at hseat
    rwa [Function.update_of_ne hs] at hseat
  | requested s' session' request resolves hasks =>
    have hs := hne s' (Asks.joins hasks)
    refine .of_other hses hs (fun room hseat => ?_) fun _ _ => id
    split at hseat
    · rwa [Lobby.seats_enter, if_neg fun hall => hs hall.1] at hseat
    · exact hseat
  | refusedJoin s' session' request resolves error henters =>
    have hs := hne s' (Enters.joins henters)
    exact .of_other hses hs (fun room => hwithdrawn) fun r p => joinCall_participants hs r p
  | tombstone s' session' request resolves henters =>
    have hs := hne s' (Enters.joins henters)
    refine .of_other hses hs (fun room hseat => ?_) fun _ _ => id
    split at hseat
    · exact hwithdrawn hseat
    · split at hseat <;> exact hseat
  | entered s' session' request resolves messages key roster henters =>
    have hs := hne s' (Enters.joins henters)
    refine .of_other hses hs (fun room hseat => ?_) fun r p => joinCall_participants hs r p
    rwa [Lobby.seats_finish] at hseat
  | switched s' session' request resolves messages key roster previous henters =>
    have hs := hne s' (Enters.joins henters)
    refine .of_other hses hs (fun room hseat => ?_) fun r p hp =>
      joinCall_participants hs r p ((Shrinks.leave _ _ _ _).participants r s p hp)
    split at hseat
    · rw [Lobby.seats_exit (hnodup.announceLeft _ _ _ _), if_neg fun hall => hs hall.1,
        Lobby.seats_announceLeft] at hseat
      exact hseat
    · rwa [Lobby.seats_announceLeft] at hseat
  | completed s' session' request resolves messages key roster hevent =>
    refine .of_other hses (hresume hevent) (fun room hseat => ?_) fun _ _ => id
    rwa [Lobby.seats_finish] at hseat
  | ended s' session' request stage resolves hevent =>
    exact .of_other hses (hresume hevent) (fun _ => id) fun _ _ => id
  | reported s' session' request resolves hevent =>
    refine .of_other hses (hresume hevent) (fun room hseat => ?_) fun _ _ => id
    split at hseat <;> exact hseat
  | aborted s' session' request stage resolves hevent =>
    exact .of_other hses (hresume hevent) (fun _ => hwithdrawn) fun _ _ => id
  | undone s' session' request resolves messages key roster hevent =>
    exact .of_other hses (hresume hevent) (fun _ => hwithdrawn) fun r p =>
      (Shrinks.leave _ _ _ _).participants r s p
  | messaged s' session' payload =>
    have hquiet := Quiet.routeCall cfg st input s' session' payload
    have hrelieved := @Bystander.relieve V s session { st.scene with
      manager := (st.routeCall cfg input s' session' payload).2 } hses input.now
      (st.routeCall cfg input s' session' payload).1.backpressuredSocketId
    exact ⟨hrelieved.session, hrelieved.rooms, fun r p hp =>
      hquiet.participants r ▸ hrelieved.participants r p hp⟩
  | left s' session' channelId hevent hleaves =>
    exact .leaves hses hnodup hleaves.found channelId (Shrinks.leave _ _ _ _)
      fun room x => Lobby.seats_announceLeft ..
  | closed s' session' channelId participant hevent hleaves =>
    exact .leaves hses hnodup hleaves.found channelId
      ((Shrinks.leave _ _ _ _).trans (Shrinks.close _ _ _)) fun room x => Lobby.seats_announce ..
  | dropped s' => exact .drop hses _ s'

end Bystanders

/-! ## Sockets that are gone -/

theorem Lobby.rooms_enter_none {l : Lobby V} {s : SocketId} (h : l.rooms s = none) (x : SocketId)
    (room : String) : (l.enter x room).rooms s = none := by
  dsimp only [Lobby.enter]
  rw [Function.update_apply]
  split
  next hx => rw [← hx, h, Option.map_none]
  next => exact h

theorem Lobby.rooms_exit_none {l : Lobby V} {s : SocketId} (h : l.rooms s = none) (x : SocketId)
    (room : String) : (l.exit x room).rooms s = none := by
  dsimp only [Lobby.exit]
  rw [Function.update_apply]
  split
  next hx => rw [← hx, h, Option.map_none]
  next => exact h

theorem Scene.rooms_drop_none {k : Scene V} {s : SocketId} (h : k.lobby.rooms s = none) (now : ℕ)
    (x : SocketId) : (k.drop now x).lobby.rooms s = none := by
  have hvanish : (k.lobby.vanish x).rooms s = none := by
    dsimp only [Lobby.vanish]
    rw [Function.update_apply]
    split
    · rfl
    · exact h
  unfold Scene.drop
  split
  · dsimp only
    split
    · exact hvanish
    · rw [Lobby.rooms_announceLeft]
      exact hvanish
  · exact h

theorem Scene.rooms_relieve_none {k : Scene V} {s : SocketId} (h : k.lobby.rooms s = none)
    (now : ℕ) (target : Option SocketId) : (k.relieve now target).lobby.rooms s = none := by
  unfold Scene.relieve
  split
  · exact h
  · split
    · exact h
    · exact Scene.rooms_drop_none h now _

theorem rooms_withdrawn_none {st : RelayServer V} {s : SocketId} (h : st.lobby.rooms s = none)
    (x : SocketId) (request : JoinRequest) (resolves : Bool) :
    (st.withdrawn x request resolves).rooms s = none := by
  unfold withdrawn
  split
  · exact Lobby.rooms_exit_none h x _
  · exact h

/-- Sessions outlive their sockets. -/
theorem Act.isSome_session [Unknown V] {cfg : Config} {st : RelayServer V} {input : Input V}
    {k : Scene V} (hact : Act cfg st input k) {s : SocketId}
    (hses : (st.sessions.get? s).isSome = true) : (k.session s).isSome = true := by
  have hupdate : ∀ x session, (Function.update st.scene.session x (some session) s).isSome =
      true := by
    intro x session
    rw [Function.update_apply]
    split
    · rfl
    · exact hses
  have hdrop : ∀ {k : Scene V} {now x}, (k.session s).isSome = true →
      ((k.drop now x).session s).isSome = true := by
    intro k now x hsome
    obtain ⟨session, hget⟩ := Option.isSome_iff_exists.1 hsome
    obtain ⟨session', hget', -⟩ := @Scene.drop_session V k now x s session hget
    rw [hget']
    rfl
  cases hact with
  | idle | turned => exact hses
  | messaged =>
    unfold Scene.relieve
    split
    · exact hses
    · split
      · exact hses
      · exact hdrop hses
  | dropped => exact hdrop hses
  | opened | requested | refusedJoin | tombstone | entered | switched | completed | ended
  | reported | aborted | undone | left | closed => exact hupdate _ _

/-- A socket that is gone has a session, and does not come back. -/
theorem Act.rooms_none [Unknown V] {cfg : Config} {st : RelayServer V} {input : Input V}
    {k : Scene V} (hact : Act cfg st input k) {s : SocketId}
    (hses : (st.sessions.get? s).isSome = true) (hgone : st.lobby.rooms s = none) :
    k.lobby.rooms s = none := by
  cases hact with
  | idle | turned | ended => exact hgone
  | opened x clientIp hnew =>
    dsimp only
    rw [Function.update_apply]
    split
    next hx =>
      rw [hx, hnew] at hses
      cases hses
    next => exact hgone
  | requested x session request resolves =>
    dsimp only
    split
    · exact Lobby.rooms_enter_none hgone x _
    · exact hgone
  | refusedJoin x session request resolves | aborted x session request stage resolves
  | undone x session request resolves => exact rooms_withdrawn_none hgone x request resolves
  | tombstone x session request resolves =>
    dsimp only
    split
    · exact rooms_withdrawn_none hgone x request resolves
    · split <;> exact hgone
  | entered | completed => exact (congrFun (Lobby.rooms_finish ..) s).trans hgone
  | switched x session request resolves messages key roster previous =>
    have hleft := (congrFun (Lobby.rooms_announceLeft st.lobby x previous .leave
      ((st.joinCall input.now x session request).2.leave input.now x previous).1) s).trans hgone
    dsimp only
    split
    · exact Lobby.rooms_exit_none hleft x _
    · exact hleft
  | reported =>
    dsimp only
    split <;> exact hgone
  | messaged => exact Scene.rooms_relieve_none (by exact hgone) _ _
  | left x session channelId =>
    exact (congrFun (Lobby.rooms_announceLeft ..) s).trans
      (Lobby.rooms_exit_none hgone x channelId)
  | closed x session channelId => exact Lobby.rooms_exit_none hgone x channelId
  | dropped x => exact Scene.rooms_drop_none (by exact hgone) _ x

/-! ## Turns of the handler -/

namespace RelayServer

/-- A suspended handler that has taken no seat, and asks for the channel with an ack. -/
def Asking (channelId : String) (pending : PendingJoin V) : Prop :=
  pending.request.channelId = channelId ∧ pending.request.ack = true ∧
    ∀ messages key roster resolves, pending.stage ≠ .leavingPrevious messages key roster resolves

/-- The packets of a step report no failure to the socket. -/
def NoFailure (st st' : RelayServer V) (s : SocketId) : Prop :=
  ∃ packets, st'.sent = st.sent ++ packets ∧
    ∀ response, (s, .ack response) ∈ packets → response.fails = false

/-- A suspended handler that has switched, and waits for the previous room to be left. -/
def Switches (s : SocketId) (st : RelayServer V) : Prop :=
  ∃ session request messages key roster resolves, st.sessions.get? s = some session ∧
    session.joining = some ⟨request, .leavingPrevious messages key roster resolves⟩ ∧
    request.ack = true

/-- The handler has asked for a channel that is not its current one, and waits for the room. -/
structure Asked (s : SocketId) (session : Session V) (channelId : String) (resolves : Bool)
    (st st' : RelayServer V) : Prop where
  current : session.currentChannelId ≠ some channelId
  free : session.joining = none
  waits : ∃ request : JoinRequest, request.channelId = channelId ∧ request.ack = true ∧
    request.joinedRoom = false ∧ st'.sessions.get? s =
      some { session with joining := some ⟨request, .joiningRoom resolves⟩ }
  lobby : st'.lobby = if resolves then st.lobby.enter s channelId else st.lobby

/-- What a turn of a handler for the channel comes to : nothing, a success, or a seat in the
channel with the previous room still to be left. Of the rooms only the requested one can
have been touched. -/
inductive OwnTurn (s : SocketId) (channelId : String) (requested : Option String)
    (st st' : RelayServer V) : Prop
  | kept (h : Undisturbed s requested st.scene st'.scene)
      (hpending : ∃ session, st'.sessions.get? s = some session ∧ ∀ pending,
        session.joining = some pending → Asking channelId pending ∧ requested = some channelId)
  | finished (h : NoFailure st st' s) (hend : st'.joinInProgress s = false)
  | switched (h : NoFailure st st' s) (hswitches : Switches s st')

end RelayServer

section OwnTurns

variable {st : RelayServer V} {now : ℕ} {s : SocketId} {session : Session V}
  {request : JoinRequest} {resolves : Bool}

/-- Where no failure was sent, the answer is none. -/
theorem RelayServer.NoFailure.not_answers {st st' : RelayServer V} {response : Response V}
    (h : NoFailure st st' s) (hfails : response.fails = true) : ¬st.Answers st' s response := by
  obtain ⟨packets, hsent, hnone⟩ := h
  rintro ⟨packets', hsent'⟩
  rw [hsent, List.append_assoc] at hsent'
  have hmem : (s, Packet.ack response) ∈ packets := by
    rw [List.append_cancel_left hsent']
    simp
  rw [hnone response hmem] at hfails
  cases hfails

/-- Nothing was sent at all. -/
theorem noFailure_of_sent {st st' : RelayServer V} (h : st'.sent = st.sent) :
    NoFailure st st' s :=
  ⟨[], by rw [h, List.append_nil], fun _ hmem => by cases hmem⟩

theorem RelayServer.NoFailure.emit {st st' : RelayServer V} {x : SocketId} {packet : Packet V}
    (hnone : ∀ response, packet = .ack response → response.fails = false)
    (h : NoFailure (st.emit x packet) st' s) : NoFailure st st' s := by
  obtain ⟨packets, hsent, hrest⟩ := h
  unfold RelayServer.emit at hsent
  split at hsent
  · exact ⟨packets, hsent, hrest⟩
  · refine ⟨(x, packet) :: packets, ?_, fun response hmem => ?_⟩
    · rw [hsent]
      exact List.append_assoc ..
    · rcases List.mem_cons.1 hmem with heq | hmem
      · exact hnone response (congrArg Prod.snd heq).symm
      · exact hrest response hmem

/-- A broadcast is no ack. -/
theorem noFailure_broadcast (st : RelayServer V) (s x : SocketId) (room : String)
    (event : PresenceEvent) (clientType : ClientType) :
    NoFailure st (st.broadcast x room (.participantsChanged event clientType)) s := by
  unfold broadcast
  generalize ((st.sockets.entries.filter _).map Prod.fst) = receivers
  dsimp only
  induction receivers generalizing st with
  | nil => exact noFailure_of_sent rfl
  | cons receiver receivers ih =>
    refine RelayServer.NoFailure.emit (fun response h => ?_) (ih (st.emit receiver _))
    cases h

theorem sent_modifySession (st : RelayServer V) (s : SocketId) (f : Session V → Session V) :
    (st.modifySession s f).sent = st.sent := by
  unfold modifySession
  split <;> rfl

/-- The end of a join that got its way. -/
theorem noFailure_finishJoin {st : RelayServer V} (s : SocketId) (request : JoinRequest)
    (messages : List (RelayPayload V)) (key : Option String) (roster : List ClientType) :
    NoFailure st (st.finishJoin s request messages key roster) s := by
  unfold finishJoin endJoin
  dsimp only
  set st₁ := st.modifySession s fun session =>
    { session with currentChannelId := some request.channelId }
  obtain ⟨packets, hsent, hnone⟩ := noFailure_broadcast st₁ s s request.channelId .join
    request.clientType
  rw [sent_modifySession] at hsent
  unfold respond
  split
  · unfold emit
    split
    · exact ⟨packets, by rw [sent_modifySession, hsent], hnone⟩
    · refine ⟨packets ++ [(s, .ack (.joined messages key roster false))], ?_,
        fun response hmem => ?_⟩
      · dsimp only
        rw [sent_modifySession, hsent, List.append_assoc]
      · rcases List.mem_append.1 hmem with hmem | hmem
        · exact hnone response hmem
        · cases List.mem_singleton.1 hmem
          rfl
  · exact ⟨packets, by rw [sent_modifySession, hsent], hnone⟩

/-- The previous channel is told that the participant left, and no ack is sent. -/
theorem noFailure_leavePrevious (st : RelayServer V) (s : SocketId) (previous : String)
    (participant : Option Participant) (resolves : Bool) (request : JoinRequest)
    (stage : Stage V) : NoFailure st (((st.notifyLeft s previous .leave participant).leaveRoom s
      previous resolves).suspend s request stage) s := by
  have hnotify : NoFailure st (st.notifyLeft s previous .leave participant) s := by
    cases participant with
    | none => exact noFailure_of_sent rfl
    | some participant => exact noFailure_broadcast ..
  obtain ⟨packets, hsent, hnone⟩ := hnotify
  refine ⟨packets, ?_, hnone⟩
  rw [← hsent, suspend, sent_modifySession]
  unfold leaveRoom
  split
  · rfl
  · split <;> rfl

theorem joinInProgress_of_scene {st : RelayServer V} {session : Session V}
    (h : st.scene.session s = some session) :
    st.joinInProgress s = session.joining.isSome := by
  have h : st.sessions.get? s = some session := h
  simp [joinInProgress, h]

/-- A join that finishes has no failure to tell. -/
theorem finishJoin_ends {st₀ st : RelayServer V} (hsent : st.sent = st₀.sent)
    (hses : st.sessions.get? s = some session) (request : JoinRequest)
    (messages : List (RelayPayload V)) (key : Option String) (roster : List ClientType) :
    NoFailure st₀ (st.finishJoin s request messages key roster) s ∧
      (st.finishJoin s request messages key roster).joinInProgress s = false := by
  constructor
  · obtain ⟨packets, hpackets, hnone⟩ := @noFailure_finishJoin V st s request messages key roster
    exact ⟨packets, hsent ▸ hpackets, hnone⟩
  · have hscene := @scene_finishJoin V st s request messages key roster session hses
    have hsession : (st.finishJoin s request messages key roster).scene.session s =
        some { session with currentChannelId := some request.channelId, joining := none } := by
      rw [hscene]
      exact Function.update_self ..
    rw [joinInProgress_of_scene hsession]
    rfl

/-- A refused join leaves participants and buffers alone, but for a stale socket. -/
theorem joinCall_refused {result : JoinResult V}
    (hres : (st.joinCall now s session request).1 = result)
    (hnot : ∀ messages key roster, result ≠ .success messages key roster false) (r : ChannelRef) :
    (((st.joinCall now s session request).2.content r).participants.get? s =
      (st.channelManager.content r).participants.get? s) ∧
    ((st.joinCall now s session request).2.content r).messageBuffer =
      (st.channelManager.content r).messageBuffer := by
  have hout := joinCall_outcome st now s session request
  generalize st.joinCall now s session request = out at hout hres ⊢
  obtain ⟨result', m⟩ := out
  dsimp only at hout hres ⊢
  subst hres
  cases hout with
  | refused | tombstone => exact ⟨rfl, rfl⟩
  | refusedAfterStale error r' e _ _ hstale =>
    rw [content_dropStale]
    split
    next hr =>
      rw [hr]
      exact ⟨JsMap.get?_delete_of_ne _ (sameRoleSocket_some hstale).1.symm, rfl⟩
    next => exact ⟨rfl, rfl⟩
  | admitted _ _ _ _ _ _ _ _ _ _ _ _ _ _ hres => exact absurd hres (hnot _ _ _)

theorem Lobby.updates_tell (l : Lobby V) (s : SocketId) (response : Response V) (x : SocketId) :
    (l.tell s (.ack response)).updates x = l.updates x := by
  unfold Lobby.updates Lobby.tell
  dsimp only
  split
  · simp [Packet.isUpdate]
  · rfl

theorem Lobby.updates_congr {l l' : Lobby V} (h : l'.presence = l.presence) (x : SocketId) :
    l'.updates x = l.updates x := by
  rw [Lobby.updates, Lobby.updates, h]

/-- The handler waits or ends, and the socket has left no more than the requested room. -/
theorem undisturbed_update (hses : st.sessions.get? s = some session) {m : ChannelManager V}
    (hmanager : ∀ r, ((m.content r).participants.get? s =
        (st.channelManager.content r).participants.get? s) ∧
      (m.content r).messageBuffer = (st.channelManager.content r).messageBuffer)
    (joining : Option (PendingJoin V)) {requested : Option String} {l : Lobby V}
    (hrooms : ∀ room, requested ≠ some room → l.seats room s = st.lobby.seats room s)
    (hupdates : ∀ x, l.updates x = st.lobby.updates x) :
    Undisturbed s requested st.scene
      ⟨m, Function.update st.scene.session s (some { session with joining }), l⟩ where
  participants r := (hmanager r).1
  buffers r := (hmanager r).2
  current := by
    have hses : st.scene.session s = some session := hses
    dsimp only
    rw [Function.update_self, hses]
    rfl
  rooms := hrooms
  updates := hupdates

/-- Withdrawing leaves one room at most, and tells nobody. -/
theorem withdrawn_rooms (hnodup : st.lobby.RoomsNodup) {requested : Option String}
    (hrequested : request.joinedRoom = true → requested = some request.channelId)
    (resolves : Bool) :
    (∀ room, requested ≠ some room →
      (st.withdrawn s request resolves).seats room s = st.lobby.seats room s) ∧
    ∀ x, (st.withdrawn s request resolves).updates x = st.lobby.updates x := by
  unfold withdrawn
  split
  next hroom =>
    rw [Bool.and_eq_true] at hroom
    refine ⟨fun room hne => ?_, fun x => Lobby.updates_congr rfl x⟩
    rw [Lobby.seats_exit hnodup, if_neg fun hall => hne ?_]
    rw [hrequested hroom.1, hall.2]
  · exact ⟨fun _ _ => rfl, fun _ => rfl⟩

/-- A handler that gives up the requested room again, and waits in a stage or ends. -/
theorem ownTurn_withdraw {st₀ st' : RelayServer V} (hnodup : st₀.lobby.RoomsNodup)
    (hses : st₀.sessions.get? s = some session) {m : ChannelManager V}
    (hmanager : ∀ r, ((m.content r).participants.get? s =
        (st₀.channelManager.content r).participants.get? s) ∧
      (m.content r).messageBuffer = (st₀.channelManager.content r).messageBuffer)
    (hack : request.ack = true) {requested : Option String}
    (hrequested : request.joinedRoom = true → requested = some request.channelId)
    (stage : Stage V) (resolves : Bool)
    (hstage : ∀ messages key roster resolves,
      stage ≠ .leavingPrevious messages key roster resolves)
    (hscene : st'.scene = ⟨m, Function.update st₀.scene.session s
      (some { session with joining := RelayServer.waiting request stage }),
      st₀.withdrawn s request resolves⟩) : OwnTurn s request.channelId requested st₀ st' := by
  obtain ⟨hrooms, hupdates⟩ := @withdrawn_rooms V st₀ s request hnodup requested hrequested resolves
  refine .kept (hscene ▸ undisturbed_update hses hmanager _ hrooms hupdates)
    ⟨{ session with joining := RelayServer.waiting request stage }, ?_, fun pending hjoin => ?_⟩
  · change st'.scene.session s = _
    rw [hscene]
    exact Function.update_self ..
  · dsimp only [RelayServer.waiting] at hjoin
    split at hjoin
    next hroom =>
      cases hjoin
      exact ⟨⟨rfl, hack, hstage⟩, hrequested hroom⟩
    next => cases hjoin

/-- A handler that ends without a change, but for an ack. -/
theorem ownTurn_end {st₀ st' : RelayServer V} (hses : st₀.sessions.get? s = some session)
    {m : ChannelManager V}
    (hmanager : ∀ r, ((m.content r).participants.get? s =
        (st₀.channelManager.content r).participants.get? s) ∧
      (m.content r).messageBuffer = (st₀.channelManager.content r).messageBuffer)
    {l : Lobby V} (hrooms : ∀ room, l.seats room s = st₀.lobby.seats room s)
    (hupdates : ∀ x, l.updates x = st₀.lobby.updates x)
    (hscene : st'.scene = ⟨m, Function.update st₀.scene.session s
      (some { session with joining := none }), l⟩) (channelId : String)
    (requested : Option String) : OwnTurn s channelId requested st₀ st' := by
  refine .kept (hscene ▸ undisturbed_update hses hmanager none (fun room _ => hrooms room)
    hupdates) ⟨{ session with joining := none }, ?_, fun _ h => nomatch h⟩
  change st'.scene.session s = _
  rw [hscene]
  exact Function.update_self ..

/-- The lobby after the ack of a join to a tombstone. -/
theorem lobby_reported (l : Lobby V) (request : JoinRequest) (s : SocketId) :
    (∀ room, (if request.ack then l.tell s (.ack (.joined [] none [] true)) else l).seats room s =
      l.seats room s) ∧
    ∀ x, (if request.ack then l.tell s (.ack (.joined [] none [] true)) else l).updates x =
      l.updates x := by
  constructor
  · intro room
    split <;> simp
  · intro x
    split
    · exact Lobby.updates_tell ..
    · rfl

/-- Once the manager admits the socket, the handler ends with a success or has switched. -/
theorem enterChannel_admitted (hses : st.sessions.get? s = some session)
    (hack : request.ack = true) {messages : List (RelayPayload V)} {key : Option String}
    {roster : List ClientType}
    (hres : (st.joinCall now s session request).1 = .success messages key roster false)
    (limits : JsMap String RateLimitEntry) :
    NoFailure st (({ st with rateLimits := limits } : RelayServer V).enterChannel now s session
        request resolves) s ∧
      ((({ st with rateLimits := limits } : RelayServer V).enterChannel now s session request
          resolves).joinInProgress s = false ∨
        Switches s (({ st with rateLimits := limits } : RelayServer V).enterChannel now s session
          request resolves)) := by
  unfold enterChannel
  have hcall : ({ st with rateLimits := limits } : RelayServer V).channelManager.join
      ({ st with rateLimits := limits } : RelayServer V).isSocketActive now request.channelId s
      request.clientType request.publicKey (some session.clientIp) =
      st.joinCall now s session request := rfl
  rw [hcall]
  generalize st.joinCall now s session request = out at *
  obtain ⟨result, m⟩ := out
  dsimp only at hres
  subst hres
  dsimp only
  rw [if_neg Bool.false_ne_true]
  split
  next =>
    obtain ⟨hnone, hend⟩ := @finishJoin_ends V s session st { st with
      rateLimits := limits, channelManager := m } rfl hses request messages key roster
    exact ⟨hnone, .inl hend⟩
  next previous hprev =>
    refine ⟨?_, .inr ⟨{ session with
      joining := some ⟨request, .leavingPrevious messages key roster resolves⟩ }, request,
      messages, key, roster, resolves, ?_, rfl, hack⟩⟩
    · exact noFailure_leavePrevious { st with rateLimits := limits, channelManager := _ } s
        previous _ resolves request _
    · change (RelayServer.scene _).session s = _
      rw [scene_suspend _ _ (by rw [scene_leaveRoom, scene_notifyLeft]; exact hses)]
      exact Function.update_self ..

/-- The turn that calls `channelManager.join`. -/
theorem ownTurn_enterChannel (hnodup : st.lobby.RoomsNodup)
    (hses : st.sessions.get? s = some session) (hack : request.ack = true)
    {requested : Option String}
    (hrequested : request.joinedRoom = true → requested = some request.channelId)
    (limits : JsMap String RateLimitEntry) :
    OwnTurn s request.channelId requested st (({ st with rateLimits := limits } :
      RelayServer V).enterChannel now s session request resolves) := by
  by_cases hadmitted : ∃ messages key roster,
      (st.joinCall now s session request).1 = .success messages key roster false
  · obtain ⟨messages, key, roster, hres⟩ := hadmitted
    rcases @enterChannel_admitted V st now s session request resolves hses hack messages key roster
      hres limits with ⟨hnone, hend | hswitches⟩
    · exact .finished hnone hend
    · exact .switched hnone hswitches
  unfold enterChannel
  have hcall : ({ st with rateLimits := limits } : RelayServer V).channelManager.join
      ({ st with rateLimits := limits } : RelayServer V).isSocketActive now request.channelId s
      request.clientType request.publicKey (some session.clientIp) =
      st.joinCall now s session request := rfl
  rw [hcall]
  have hrefused := @joinCall_refused V st now s session request
  generalize st.joinCall now s session request = out at *
  obtain ⟨result, m⟩ := out
  cases result with
  | failure error =>
    have hmanager := hrefused rfl (fun _ _ _ => nofun)
    refine ownTurn_withdraw hnodup hses hmanager hack hrequested (.leavingRefused error resolves)
      resolves (fun _ _ _ _ => nofun) ?_
    refine scene_withdraw { st with rateLimits := limits, channelManager := m } hses request
      resolves (.leavingRefused error resolves) (fun hroom => ?_) fun hroom => ?_
    · dsimp only
      rw [if_neg (by simp [hroom]), scene_endJoin _ (by exact hses) ⟨rfl, rfl⟩]
    · dsimp only
      rw [if_pos hroom]
  | success messages key roster terminated =>
    dsimp only at hrefused ⊢
    cases terminated with
    | true =>
      have hmanager := hrefused rfl fun _ _ _ h => by cases h
      rw [if_pos rfl]
      cases hroom : request.joinedRoom with
      | true =>
        rw [if_pos rfl]
        refine ownTurn_withdraw hnodup hses hmanager hack hrequested (.leavingTombstone resolves)
          resolves (fun _ _ _ _ => nofun) ?_
        exact scene_withdraw { st with rateLimits := limits, channelManager := m } hses request
          resolves (.leavingTombstone resolves) (fun hno => by rw [hroom] at hno; cases hno)
          fun _ => rfl
      | false =>
        rw [if_neg Bool.false_ne_true]
        obtain ⟨hrooms, hupdates⟩ := lobby_reported st.lobby request s
        refine ownTurn_end hses hmanager hrooms hupdates ?_ _ _
        exact scene_endJoin_terminated _ (by exact hses)
    | false => exact absurd ⟨messages, key, roster, rfl⟩ hadmitted

/-- A turn after an `await`. -/
theorem ownTurn_onResume (hnodup : st.lobby.RoomsNodup) (hses : st.sessions.get? s = some session)
    {pending : PendingJoin V} {channelId : String} (hasking : Asking channelId pending) :
    OwnTurn s channelId (some channelId) st (st.onResume now s session pending resolves) := by
  obtain ⟨request, stage⟩ := pending
  obtain ⟨rfl, hack, hstage⟩ := hasking
  dsimp only at *
  have hsame : ∀ r, ((st.channelManager.content r).participants.get? s =
      (st.channelManager.content r).participants.get? s) ∧
      (st.channelManager.content r).messageBuffer =
        (st.channelManager.content r).messageBuffer := fun _ => ⟨rfl, rfl⟩
  have habort : OwnTurn s request.channelId (some request.channelId) st
      (st.abortJoin now s request false resolves) := by
    refine ownTurn_withdraw hnodup hses hsame hack (fun _ => rfl) .undoing resolves
      (fun _ _ _ _ => nofun) (scene_withdraw st hses request resolves .undoing (fun hroom => ?_)
        fun hroom => ?_)
    · unfold abortJoin
      rw [if_neg Bool.false_ne_true, if_neg (by simp [hroom]), scene_endJoin _ hses ⟨rfl, rfl⟩]
    · unfold abortJoin
      rw [if_neg Bool.false_ne_true, if_pos hroom]
  have hend : ∀ error, OwnTurn s request.channelId (some request.channelId) st
      (st.endJoin s request (.failed error)) := fun error =>
    ownTurn_end hses hsame (fun _ => rfl) (fun _ => rfl) (scene_endJoin request hses ⟨rfl, rfl⟩) _ _
  unfold onResume
  cases stage with
  | joiningRoom settled =>
    cases settled with
    | true =>
      exact @ownTurn_enterChannel V st now s session { request with joinedRoom := true } resolves
        hnodup hses hack _ (fun _ => rfl) st.rateLimits
    | false => exact habort
  | leavingRefused error settled =>
    cases settled with
    | true => exact hend error
    | false => exact habort
  | leavingTombstone settled =>
    cases settled with
    | true =>
      obtain ⟨hrooms, hupdates⟩ := lobby_reported st.lobby request s
      exact ownTurn_end hses hsame hrooms hupdates (scene_endJoin_terminated request hses) _ _
    | false => exact habort
  | leavingPrevious messages key roster settled =>
    exact absurd rfl (hstage messages key roster settled)
  | undoing => exact hend _

/-- The turn of the request itself : the handler refuses it at once, calls the manager for the
current channel, or waits for the room. -/
theorem ownTurn_onJoinChannel (hnodup : st.lobby.RoomsNodup)
    (hses : st.sessions.get? s = some session) (cfg : Config) (payload : JoinPayload) :
    let st' := st.onJoinChannel cfg now s session payload true resolves
    (st'.scene = st.scene) ∨ ∃ channelId, isValidChannelId payload.channelId = some channelId ∧
      (OwnTurn s channelId none st st' ∨
        (NoFailure st st' s ∧ Asked s session channelId resolves st st' ∧
          OwnTurn s channelId (some channelId) st st')) := by
  unfold onJoinChannel
  split
  · exact .inl (scene_respond _ _ _ ⟨rfl, rfl⟩)
  next hbusy =>
  dsimp only
  split
  · exact .inl (scene_respond _ _ _ ⟨rfl, rfl⟩)
  split
  · exact .inl (scene_respond _ _ _ ⟨rfl, rfl⟩)
  next channelId hvalid =>
  split
  · exact .inl (scene_respond _ _ _ ⟨rfl, rfl⟩)
  split
  · exact .inl (scene_respond _ _ _ ⟨rfl, rfl⟩)
  · exact .inl (scene_respond _ _ _ ⟨rfl, rfl⟩)
  next clientType publicKey _ _ =>
  refine .inr ⟨channelId, hvalid, ?_⟩
  set request : JoinRequest := ⟨channelId, clientType, publicKey,
    session.currentChannelId.any (· ≠ channelId), false, true⟩
  split
  next hcur =>
    have hwaits : ∀ limits, (suspend (joinRoom ({ st with rateLimits := limits } : RelayServer V) s
        channelId resolves) s request (.joiningRoom resolves)).sessions.get? s =
          some { session with joining := some ⟨request, .joiningRoom resolves⟩ } := by
      intro limits
      change (RelayServer.scene _).session s = _
      rw [scene_suspend _ _ (by rw [scene_joinRoom]; exact hses)]
      exact Function.update_self ..
    refine .inr ⟨noFailure_of_sent ?_, ⟨hcur, by simpa using hbusy,
      ⟨request, rfl, rfl, rfl, hwaits _⟩, ?_⟩, .kept ?_
      ⟨{ session with joining := some ⟨request, .joiningRoom resolves⟩ }, hwaits _, ?_⟩⟩
    · rw [suspend, sent_modifySession]
      unfold joinRoom
      split
      · rfl
      · split <;> rfl
    · change (RelayServer.scene _).lobby = _
      rw [scene_suspend _ _ (by rw [scene_joinRoom]; exact hses), scene_joinRoom]
      rfl
    · rw [scene_suspend _ _ (by rw [scene_joinRoom]; exact hses), scene_joinRoom]
      refine undisturbed_update hses (fun _ => ⟨rfl, rfl⟩) _ (fun room hne => ?_) fun x => ?_
      · dsimp only
        split
        · rw [Lobby.seats_enter, if_neg fun hall => hne (congrArg some hall.2.symm)]
          rfl
        · rfl
      · dsimp only
        split <;> rfl
    · rintro pending ⟨⟩
      exact ⟨⟨rfl, rfl, fun _ _ _ _ => nofun⟩, rfl⟩
  next hcur =>
    exact .inl (@ownTurn_enterChannel V st now s session request resolves hnodup hses rfl none
      (fun h => by cases h) _)

end OwnTurns

end QrlBackend
