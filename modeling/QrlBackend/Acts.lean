import QrlBackend.Scenes
import QrlBackend.TurnCalls

/-!
# What one event does to the scene

`Act` has a constructor for each way an event can change the scene of the relay, with the
checks the handler made on the way, and `act_of_step` says that every event is one of them.
A membership that changes is beside what the room is told of it : an admission announces
itself at the end of the handler, a switching join in the next turn but one, and a join that
is undone not at all.
-/

set_option autoImplicit false

namespace QrlBackend

variable {V : Type}

open ChannelManager RelayServer

/-! ## Calls that move nobody -/

/-- Nobody came or went and no channel was opened or closed. Only tombstones and empty
channels lost their entries. -/
structure Quiet (m m' : ChannelManager V) : Prop where
  participants : ∀ r, (m'.content r).participants = (m.content r).participants
  terminated : ∀ r, (m'.content r).terminated = (m.content r).terminated
  creatorIp : ∀ r, (m'.content r).creatorIp = (m.content r).creatorIp
  entries : ∀ id r, m'.channels.get? id = some r → m.channels.get? id = some r
  kept : ∀ id r, m.channels.get? id = some r → (m.content r).terminated = false →
    (m.content r).participants.size ≠ 0 → m'.channels.get? id = some r

namespace Quiet

theorem of_content {m m' : ChannelManager V} (h : ∀ r, m'.content r = m.content r)
    (htables : m'.tables = m.tables) : Quiet m m' where
  participants r := by rw [h]
  terminated r := by rw [h]
  creatorIp r := by rw [h]
  entries _ _ hget := (tables_eq_iff.1 htables).1 ▸ hget
  kept _ _ hget _ _ := (tables_eq_iff.1 htables).1 ▸ hget

/-- A change of one channel that moves nobody. -/
theorem of_ite {m m' : ChannelManager V} {r : ChannelRef} {c : Content V}
    (h : ∀ r', m'.content r' = if r' = r then c else m.content r')
    (hparts : c.participants = (m.content r).participants)
    (hterm : c.terminated = (m.content r).terminated)
    (hip : c.creatorIp = (m.content r).creatorIp) (htables : m'.tables = m.tables) :
    Quiet m m' where
  participants r' := by
    rw [h]
    split
    next hr => rw [hr, hparts]
    next => rfl
  terminated r' := by
    rw [h]
    split
    next hr => rw [hr, hterm]
    next => rfl
  creatorIp r' := by
    rw [h]
    split
    next hr => rw [hr, hip]
    next => rfl
  entries _ _ hget := (tables_eq_iff.1 htables).1 ▸ hget
  kept _ _ hget _ _ := (tables_eq_iff.1 htables).1 ▸ hget

theorem refl (m : ChannelManager V) : Quiet m m := of_content (fun _ => rfl) rfl

/-- A reservation that ends moves nobody. -/
theorem release (m : ChannelManager V) (s : SocketId) : Quiet m (m.releaseDirectDelivery s) :=
  of_content (m.content_releaseDirectDelivery s) (m.tables_releaseDirectDelivery s)

theorem trans {m m' m'' : ChannelManager V} (h : Quiet m m') (h' : Quiet m' m'') : Quiet m m'' where
  participants r := (h'.participants r).trans (h.participants r)
  terminated r := (h'.terminated r).trans (h.terminated r)
  creatorIp r := (h'.creatorIp r).trans (h.creatorIp r)
  entries id r hget := h.entries id r (h'.entries id r hget)
  kept id r hget hlive hsize :=
    h'.kept id r (h.kept id r hget hlive hsize) (h.terminated r ▸ hlive)
      (h.participants r ▸ hsize)

/-- A promotion moves nobody. -/
theorem advance (m : ChannelManager V) (s : SocketId) : Quiet m (m.advanceDirectDelivery s).2 := by
  have hout := advance_outcome m s
  generalize m.advanceDirectDelivery s = out at hout ⊢
  obtain ⟨result, m'⟩ := out
  cases hout with
  | idle => exact refl _
  | released _ _ _ hcontent htables => exact of_content hcontent htables
  | promoted _ _ _ _ _ _ _ hcontent htables => exact of_ite hcontent rfl rfl rfl htables

/-- A cleanup takes only tombstones and empty channels out of the map. -/
theorem cleanup (now : ℕ) (m : ChannelManager V) : Quiet m (m.cleanup now) where
  participants r := by
    rw [(cleanup_spec now m).1]
    split <;> rfl
  terminated r := by
    rw [(cleanup_spec now m).1]
    split <;> rfl
  creatorIp r := by
    rw [(cleanup_spec now m).1]
    split <;> rfl
  entries id r hget := by
    rw [(cleanup_spec now m).2.1] at hget
    exact (Option.filter_eq_some_iff.1 hget).1
  kept id r hget hlive hsize := by
    rw [(cleanup_spec now m).2.1, hget, Option.filter_eq_some_iff]
    refine ⟨rfl, ?_⟩
    simp [Content.expired, hlive, hsize]

/-- A message moves nobody. -/
theorem route [Unknown V] (cfg : Config) (canReceive : SocketId → Bool) (now bufferedAt : ℕ)
    (m : ChannelManager V) (channelId : String) (s : SocketId) (payload : RelayPayload V)
    (sourceIp : String) :
    Quiet m (m.routeMessage cfg canReceive now bufferedAt channelId s payload sourceIp).2 := by
  have hout := routeMessage_outcome cfg canReceive now bufferedAt m channelId s payload sourceIp
  generalize m.routeMessage cfg canReceive now bufferedAt channelId s payload sourceIp = out
    at hout ⊢
  obtain ⟨result, m'⟩ := out
  cases hout with
  | refused => exact refl _
  | refusedLate _ _ _ _ _ _ _ hcontent htables => exact of_ite hcontent rfl rfl rfl htables
  | direct _ _ _ _ _ _ _ _ _ _ _ _ _ _ hcontent htables =>
    exact of_ite hcontent rfl rfl rfl htables
  | buffered _ _ _ _ _ _ _ _ _ _ hcontent htables => exact of_ite hcontent rfl rfl rfl htables

theorem routeCall [Unknown V] (cfg : Config) (st : RelayServer V) (input : Input V)
    (s : SocketId) (session : Session V) (payload : RelayPayload V) :
    Quiet st.channelManager (st.routeCall cfg input s session payload).2 :=
  route cfg st.canSocketReceive input.now input.bufferedAt st.channelManager payload.id s payload
    session.clientIp

end Quiet

/-! ## The acts -/

namespace RelayServer

/-- A `join_channel` event that passes the handler's own checks. -/
structure Asks (cfg : Config) (st : RelayServer V) (input : Input V) (s : SocketId)
    (session : Session V) (request : JoinRequest) (resolves : Bool) : Prop where
  event : ∃ payload, input.event = .joinChannel s payload request.ack resolves ∧
    isValidChannelId payload.channelId = some request.channelId
  connected : (st.sockets.get? s).isSome = true
  found : st.sessions.get? s = some session
  free : session.joining = none
  capacity : st.channelManager.channels.has request.channelId = true ∨
    st.channelManager.getActiveChannelCount < cfg.relayMaxActiveChannels
  outside : request.joinedRoom = false
  switching : request.switchingChannels = session.currentChannelId.any (· ≠ request.channelId)
  allowed : (st.checkRateLimit input.now session.clientIp .join rateLimitMaxJoins).1 = true
  parsed : ∀ payload ack resolves, input.event = .joinChannel s payload ack resolves →
    isClientType payload.clientType = some request.clientType ∧
      parsePublicKey payload.publicKey = some request.publicKey

/-- A handler that calls `channelManager.join` : at once for the current channel, otherwise
after it joined the room. `resolves` is about the call it awaits next. -/
inductive Enters (cfg : Config) (st : RelayServer V) (input : Input V) (s : SocketId)
    (session : Session V) : JoinRequest → Bool → Prop
  | rejoin {request : JoinRequest} {resolves : Bool}
      (hasks : st.Asks cfg input s session request resolves)
      (hcur : session.currentChannelId = some request.channelId) :
      Enters cfg st input s session request resolves
  | roomJoined {request : JoinRequest} {resolves : Bool}
      (hevent : input.event = .resumeJoin s resolves) (hses : st.sessions.get? s = some session)
      (hjoin : session.joining = some ⟨request, .joiningRoom true⟩) :
      Enters cfg st input s session { request with joinedRoom := true } resolves

/-- The lobby after a handler left the room of the requested channel, if it had joined it. -/
def withdrawn (st : RelayServer V) (s : SocketId) (request : JoinRequest) (resolves : Bool) :
    Lobby V :=
  if request.joinedRoom && resolves then st.lobby.exit s request.channelId else st.lobby

/-- A handler that waits in a stage if it has a room to leave, and has ended otherwise. -/
def waiting (request : JoinRequest) (stage : Stage V) : Option (PendingJoin V) :=
  if request.joinedRoom then some ⟨request, stage⟩ else none

end RelayServer

/-- What one event can make of the scene. -/
inductive Act [Unknown V] (cfg : Config) (st : RelayServer V) (input : Input V) : Scene V → Prop
  | idle : Act cfg st input st.scene
  | turned (m : ChannelManager V) (hquiet : Quiet st.channelManager m) :
      Act cfg st input { st.scene with manager := m }
  | opened (s : SocketId) (clientIp : String) (hnew : st.sessions.get? s = none) :
      Act cfg st input ⟨st.channelManager,
        Function.update st.scene.session s (some ⟨clientIp, none, false, none⟩),
        { st.lobby with rooms := Function.update st.lobby.rooms s (some [ownRoom s]) }⟩
  | requested (s : SocketId) (session : Session V) (request : JoinRequest) (resolves : Bool)
      (hasks : st.Asks cfg input s session request resolves)
      (hcur : session.currentChannelId ≠ some request.channelId) :
      Act cfg st input { st.scene.setSession s
        { session with joining := some ⟨request, .joiningRoom resolves⟩ } with
          lobby := if resolves then st.lobby.enter s request.channelId else st.lobby }
  | refusedJoin (s : SocketId) (session : Session V) (request : JoinRequest) (resolves : Bool)
      (error : String) (henters : st.Enters cfg input s session request resolves)
      (hres : (st.joinCall input.now s session request).1 = .failure error) :
      Act cfg st input ⟨(st.joinCall input.now s session request).2,
        Function.update st.scene.session s
          (some { session with joining := waiting request (.leavingRefused error resolves) }),
        st.withdrawn s request resolves⟩
  | tombstone (s : SocketId) (session : Session V) (request : JoinRequest) (resolves : Bool)
      (henters : st.Enters cfg input s session request resolves)
      (hres : (st.joinCall input.now s session request).1 = .success [] none [] true) :
      Act cfg st input ⟨st.channelManager, Function.update st.scene.session s
        (some { session with joining := waiting request (.leavingTombstone resolves) }),
        if request.joinedRoom then st.withdrawn s request resolves
        else if request.ack then st.lobby.tell s (.ack (.joined [] none [] true)) else st.lobby⟩
  | entered (s : SocketId) (session : Session V) (request : JoinRequest) (resolves : Bool)
      (bufferedMessages : List (RelayPayload V)) (key : Option String)
      (roster : List ClientType) (henters : st.Enters cfg input s session request resolves)
      (hres : (st.joinCall input.now s session request).1 =
        .success bufferedMessages key roster false)
      (hstay : request.switchingChannels = false ∨ session.currentChannelId = none) :
      Act cfg st input ⟨(st.joinCall input.now s session request).2,
        Function.update st.scene.session s (some { session with
          currentChannelId := some request.channelId, joining := none }),
        st.lobby.finish s request bufferedMessages key roster⟩
  | switched (s : SocketId) (session : Session V) (request : JoinRequest) (resolves : Bool)
      (bufferedMessages : List (RelayPayload V)) (key : Option String)
      (roster : List ClientType) (previousChannelId : String)
      (henters : st.Enters cfg input s session request resolves)
      (hres : (st.joinCall input.now s session request).1 =
        .success bufferedMessages key roster false)
      (hswitch : request.switchingChannels = true)
      (hcur : session.currentChannelId = some previousChannelId) :
      Act cfg st input
        ⟨((st.joinCall input.now s session request).2.leave input.now s previousChannelId).2,
        Function.update st.scene.session s (some { session with
          joining := some ⟨request, .leavingPrevious bufferedMessages key roster resolves⟩ }),
        let l := st.lobby.announceLeft s previousChannelId .leave
          ((st.joinCall input.now s session request).2.leave input.now s previousChannelId).1
        if resolves then l.exit s previousChannelId else l⟩
  | completed (s : SocketId) (session : Session V) (request : JoinRequest) (resolves : Bool)
      (bufferedMessages : List (RelayPayload V)) (key : Option String)
      (roster : List ClientType) (hevent : input.event = .resumeJoin s resolves)
      (hses : st.sessions.get? s = some session)
      (hjoin : session.joining =
        some ⟨request, .leavingPrevious bufferedMessages key roster true⟩) :
      Act cfg st input ⟨st.channelManager, Function.update st.scene.session s (some { session with
          currentChannelId := some request.channelId, joining := none }),
        st.lobby.finish s request bufferedMessages key roster⟩
  | ended (s : SocketId) (session : Session V) (request : JoinRequest) (stage : Stage V)
      (resolves : Bool) (hevent : input.event = .resumeJoin s resolves)
      (hses : st.sessions.get? s = some session) (hjoin : session.joining = some ⟨request, stage⟩)
      (hstage : (∃ error, stage = .leavingRefused error true) ∨ stage = .undoing) :
      Act cfg st input (st.scene.setSession s { session with joining := none })
  | reported (s : SocketId) (session : Session V) (request : JoinRequest) (resolves : Bool)
      (hevent : input.event = .resumeJoin s resolves) (hses : st.sessions.get? s = some session)
      (hjoin : session.joining = some ⟨request, .leavingTombstone true⟩) :
      Act cfg st input { st.scene.setSession s { session with joining := none } with
        lobby := if request.ack then st.lobby.tell s (.ack (.joined [] none [] true))
          else st.lobby }
  | aborted (s : SocketId) (session : Session V) (request : JoinRequest) (stage : Stage V)
      (resolves : Bool) (hevent : input.event = .resumeJoin s resolves)
      (hses : st.sessions.get? s = some session) (hjoin : session.joining = some ⟨request, stage⟩)
      (hstage : stage = .joiningRoom false ∨ (∃ error, stage = .leavingRefused error false) ∨
        stage = .leavingTombstone false) :
      Act cfg st input ⟨st.channelManager, Function.update st.scene.session s
        (some { session with joining := waiting request .undoing }),
        st.withdrawn s request resolves⟩
  | undone (s : SocketId) (session : Session V) (request : JoinRequest) (resolves : Bool)
      (bufferedMessages : List (RelayPayload V)) (key : Option String)
      (roster : List ClientType) (hevent : input.event = .resumeJoin s resolves)
      (hses : st.sessions.get? s = some session)
      (hjoin : session.joining =
        some ⟨request, .leavingPrevious bufferedMessages key roster false⟩) :
      Act cfg st input ⟨(st.channelManager.leave input.now s request.channelId).2,
        Function.update st.scene.session s
          (some { session with joining := waiting request .undoing }),
        st.withdrawn s request resolves⟩
  | messaged (s : SocketId) (session : Session V) (payload : RelayPayload V)
      (hroutes : st.Routes input s session payload) :
      Act cfg st input (Scene.relieve input.now
        { st.scene with manager := (st.routeCall cfg input s session payload).2 }
        (st.routeCall cfg input s session payload).1.backpressuredSocketId)
  | left (s : SocketId) (session : Session V) (channelId : String)
      (hevent : ∃ requested ack, input.event = .leaveChannel s requested ack)
      (hleaves : st.Leaves input s session channelId) :
      Act cfg st input ⟨(st.channelManager.leave input.now s channelId).2,
        Function.update st.scene.session s (some (if session.currentChannelId = some channelId then
          { session with currentChannelId := none } else session)),
        (st.lobby.exit s channelId).announceLeft s channelId .leave
          (st.channelManager.leave input.now s channelId).1⟩
  | closed (s : SocketId) (session : Session V) (channelId : String) (participant : Participant)
      (hevent : ∃ requested ack, input.event = .closeChannel s requested ack)
      (hleaves : st.Leaves input s session channelId)
      (hpart : (st.channelManager.leave input.now s channelId).1 = some participant)
      (hclosed : ((st.channelManager.leave input.now s channelId).2.close input.now channelId).1 =
        true) :
      Act cfg st input ⟨((st.channelManager.leave input.now s channelId).2.close input.now
          channelId).2,
        Function.update st.scene.session s (some (if session.currentChannelId = some channelId then
          { session with currentChannelId := none } else session)),
        (st.lobby.exit s channelId).announce s channelId
          (.participantsChanged .close participant.clientType)⟩
  | dropped (s : SocketId) (hevent : input.event = .disconnect s) :
      Act cfg st input (st.scene.drop input.now s)

/-! ## Every event is an act -/

namespace RelayServer

section Joining

variable {cfg : Config} {st : RelayServer V} {input : Input V} {s : SocketId}
  {session : Session V} {request : JoinRequest} {resolves : Bool}

/-- A handler that calls the manager has its session. -/
theorem Enters.found (h : st.Enters cfg input s session request resolves) :
    st.sessions.get? s = some session := by
  cases h with
  | rejoin hasks => exact hasks.found
  | roomJoined _ hses => exact hses

/-- The checks of the handler are those of a turn that enters. -/
theorem Enters.entering (h : st.Enters cfg input s session request resolves) :
    Entering session request := by
  cases h with
  | rejoin hasks hcur =>
    refine .rejoin hasks.free hcur ?_
    rw [hasks.switching, hcur]
    simp
  | roomJoined _ _ hjoin => exact .roomJoined hjoin

/-- Leaving the requested room again, or ending at once. -/
theorem scene_withdraw (st : RelayServer V) {s : SocketId} {session : Session V}
    (hses : st.scene.session s = some session) (request : JoinRequest) (resolves : Bool)
    (stage : Stage V) {st' : RelayServer V}
    (hend : request.joinedRoom = false →
      st'.scene = st.scene.setSession s { session with joining := none })
    (hwait : request.joinedRoom = true →
      st' = (st.leaveRoom s request.channelId resolves).suspend s request stage) :
    st'.scene = ⟨st.channelManager, Function.update st.scene.session s
      (some { session with joining := waiting request stage }),
      st.withdrawn s request resolves⟩ := by
  cases hroom : request.joinedRoom with
  | false =>
    rw [hend hroom]
    simp [Scene.setSession, withdrawn, waiting, hroom, scene]
  | true =>
    rw [hwait hroom, scene_suspend _ _ (by rw [scene_leaveRoom]; exact hses), scene_leaveRoom]
    simp [Scene.setSession, withdrawn, waiting, hroom, scene]

/-- The call of the manager refuses, finds a tombstone, or admits. -/
theorem act_enterChannel [Unknown V] (henters : st.Enters cfg input s session request resolves)
    (limits : JsMap String RateLimitEntry) :
    Act cfg st input
      (({ st with rateLimits := limits } : RelayServer V).enterChannel input.now s session request
        resolves).scene := by
  have hses : st.scene.session s = some session := henters.found
  unfold enterChannel
  have hcall : ({ st with rateLimits := limits } : RelayServer V).channelManager.join
      ({ st with rateLimits := limits } : RelayServer V).isSocketActive input.now
      request.channelId s request.clientType request.publicKey (some session.clientIp) =
      st.joinCall input.now s session request := rfl
  rw [hcall]
  have hrefused := @Act.refusedJoin V _ cfg st input s session request resolves
  have htombstone := @Act.tombstone V _ cfg st input s session request resolves
  have hentered := @Act.entered V _ cfg st input s session request resolves
  have hswitched := @Act.switched V _ cfg st input s session request resolves
  have htomb : ∀ messages key roster, (st.joinCall input.now s session request).1 =
      .success messages key roster true → messages = [] ∧ key = none ∧ roster = [] ∧
      (st.joinCall input.now s session request).2 = st.channelManager := by
    intro messages key roster hres
    have hsame := tombstone_of_success hres
    have hout := joinCall_outcome st input.now s session request
    generalize st.joinCall input.now s session request = out at hres hout hsame ⊢
    obtain ⟨res, m⟩ := out
    dsimp only at hres hout hsame ⊢
    subst hres
    cases hout with
    | tombstone => exact ⟨rfl, rfl, rfl, hsame⟩
    | admitted _ _ _ _ _ _ _ _ _ _ _ _ _ _ hres => cases hres
  generalize st.joinCall input.now s session request = out at *
  obtain ⟨res, m⟩ := out
  cases res with
  | failure error =>
    dsimp only
    rw [scene_withdraw { st with rateLimits := limits, channelManager := m } hses request resolves
      (.leavingRefused error resolves) (fun hroom => ?_) fun hroom => ?_]
    · exact hrefused error henters rfl
    · rw [if_neg (by simp [hroom]), scene_endJoin _ (by exact hses) ⟨rfl, rfl⟩]
    · rw [if_pos hroom]
  | success messages key roster terminated =>
    dsimp only
    cases terminated with
    | true =>
      obtain ⟨rfl, rfl, rfl, hm⟩ := htomb messages key roster rfl
      dsimp only at hm
      subst hm
      rw [if_pos rfl]
      have h := htombstone henters rfl
      cases hroom : request.joinedRoom with
      | true =>
        rw [if_pos rfl]
        rw [scene_withdraw { st with rateLimits := limits } hses request resolves
          (.leavingTombstone resolves) (fun hno => by rw [hroom] at hno; cases hno) fun _ => rfl]
        rw [hroom, if_pos rfl] at h
        exact h
      | false =>
        rw [if_neg Bool.false_ne_true, scene_endJoin_terminated _ (by exact hses)]
        rw [waiting, hroom, if_neg Bool.false_ne_true, if_neg Bool.false_ne_true] at h
        exact h
    | false =>
      rw [if_neg Bool.false_ne_true]
      split
      next hstay =>
        rw [scene_finishJoin _ _ _ _ (by exact hses)]
        refine hentered messages key roster henters rfl ?_
        by_cases hswitch : request.switchingChannels = true
        · exact .inr (by simpa [hswitch] using hstay)
        · exact .inl (by simpa using hswitch)
      next previous hprev =>
        have hswitch : request.switchingChannels = true := by
          by_contra h
          simp [h] at hprev
        rw [if_pos hswitch] at hprev
        rw [scene_suspend _ _ (by rw [scene_leaveRoom, scene_notifyLeft]; exact hses),
          scene_leaveRoom, scene_notifyLeft, lobby_notifyLeft]
        exact hswitched messages key roster previous henters rfl hswitch hprev

/-- A `join_channel` event answers at once, or asks for a room. -/
theorem act_onJoinChannel [Unknown V] (hconn : (st.sockets.get? s).isSome = true)
    (hses : st.sessions.get? s = some session) (payload : JoinPayload) (ack : Bool)
    (hevent : input.event = .joinChannel s payload ack resolves) :
    Act cfg st input (st.onJoinChannel cfg input.now s session payload ack resolves).scene := by
  unfold onJoinChannel
  split
  · rw [scene_respond _ _ _ ⟨rfl, rfl⟩]
    exact .idle
  next hbusy =>
  have hfree : session.joining = none := by simpa using hbusy
  dsimp only
  split
  · rw [scene_respond _ _ _ ⟨rfl, rfl⟩]
    exact .idle
  next hallowed =>
  split
  · rw [scene_respond _ _ _ ⟨rfl, rfl⟩]
    exact .idle
  next channelId hvalid =>
  split
  · rw [scene_respond _ _ _ ⟨rfl, rfl⟩]
    exact .idle
  next hroom =>
  have hroom : st.channelManager.channels.has channelId = true ∨
      st.channelManager.getActiveChannelCount < cfg.relayMaxActiveChannels := by
    have hsame : (st.checkRateLimit input.now session.clientIp .join
      rateLimitMaxJoins).2.channelManager = st.channelManager := rfl
    rw [hsame] at hroom
    by_cases hhas : st.channelManager.channels.has channelId = true
    · exact .inl hhas
    · exact .inr (by simpa [hhas] using hroom)
  split
  · rw [scene_respond _ _ _ ⟨rfl, rfl⟩]
    exact .idle
  · rw [scene_respond _ _ _ ⟨rfl, rfl⟩]
    exact .idle
  next clientType publicKey htype hkey =>
  have hasks : st.Asks cfg input s session ⟨channelId, clientType, publicKey,
      session.currentChannelId.any (· ≠ channelId), false, ack⟩ resolves :=
    ⟨⟨payload, hevent, hvalid⟩, hconn, hses, hfree, hroom, rfl, rfl, by simpa using hallowed,
      fun _ _ _ hevent' => by cases hevent.symm.trans hevent'; exact ⟨htype, hkey⟩⟩
  split
  next hcur =>
    rw [scene_suspend _ _ (by rw [scene_joinRoom]; exact hses), scene_joinRoom]
    exact .requested s session _ resolves hasks hcur
  next hcur => exact act_enterChannel (.rejoin hasks (not_not.1 hcur)) _

/-- A suspended join goes on to its next stage. -/
theorem act_onResume [Unknown V] {pending : PendingJoin V}
    (hevent : input.event = .resumeJoin s resolves) (hses : st.sessions.get? s = some session)
    (hjoin : session.joining = some pending) :
    Act cfg st input (st.onResume input.now s session pending resolves).scene := by
  obtain ⟨request, stage⟩ := pending
  have habort : stage = .joiningRoom false ∨ (∃ error, stage = .leavingRefused error false) ∨
      stage = .leavingTombstone false →
      Act cfg st input (st.abortJoin input.now s request false resolves).scene := by
    intro hstage
    rw [scene_withdraw st hses request resolves .undoing (fun hroom => ?_) fun hroom => ?_]
    · exact .aborted s session request stage resolves hevent hses hjoin hstage
    · unfold abortJoin
      rw [if_neg Bool.false_ne_true, if_neg (by simp [hroom]), scene_endJoin _ hses ⟨rfl, rfl⟩]
    · unfold abortJoin
      rw [if_neg Bool.false_ne_true, if_pos hroom]
  unfold onResume
  cases stage with
  | joiningRoom settled =>
    cases settled with
    | true => exact act_enterChannel (.roomJoined hevent hses hjoin) st.rateLimits
    | false => exact habort (.inl rfl)
  | leavingRefused error settled =>
    cases settled with
    | true =>
      dsimp only
      rw [scene_endJoin _ hses ⟨rfl, rfl⟩]
      exact .ended s session request _ resolves hevent hses hjoin (.inl ⟨error, rfl⟩)
    | false => exact habort (.inr (.inl ⟨error, rfl⟩))
  | leavingTombstone settled =>
    cases settled with
    | true =>
      dsimp only
      rw [scene_endJoin_terminated _ hses]
      exact .reported s session request resolves hevent hses hjoin
    | false => exact habort (.inr (.inr rfl))
  | undoing =>
    dsimp only
    rw [scene_endJoin _ hses ⟨rfl, rfl⟩]
    exact .ended s session request _ resolves hevent hses hjoin (.inr rfl)
  | leavingPrevious messages key roster settled =>
    cases settled with
    | true =>
      dsimp only
      rw [scene_finishJoin _ _ _ _ hses]
      exact .completed s session request resolves messages key roster hevent hses hjoin
    | false =>
      have hundone := @Act.undone V _ cfg st input s session request resolves messages key roster
        hevent hses hjoin
      dsimp only
      rw [scene_withdraw { st with
        channelManager := (st.channelManager.leave input.now s request.channelId).2 } hses request
          resolves .undoing (fun hroom => ?_) fun hroom => ?_]
      · exact hundone
      · unfold abortJoin
        rw [if_pos rfl, if_neg (by simp [hroom]), scene_endJoin _ (by exact hses) ⟨rfl, rfl⟩]
      · unfold abortJoin
        rw [if_pos rfl, if_pos hroom]

end Joining

/-! ### Messages, leaving, closing and the transport -/

variable [Unknown V] (cfg : Config) {st : RelayServer V} {input : Input V} {s : SocketId}
  {session : Session V}

theorem act_relayMessage {payload : RelayPayload V} (hroutes : st.Routes input s session payload)
    (limits : JsMap String RateLimitEntry) (ack : Bool) :
    Act cfg st input
      (({ st with rateLimits := limits, payloads := st.payloads + 1 } : RelayServer V).relayMessage
        cfg input.now input.bufferedAt s session payload ack).scene := by
  set st₁ : RelayServer V := { st with rateLimits := limits, payloads := st.payloads + 1 } with hst₁
  unfold relayMessage
  have hcall : st₁.channelManager.routeMessage cfg st₁.canSocketReceive input.now input.bufferedAt
      payload.id s payload session.clientIp = st.routeCall cfg input s session payload := rfl
  rw [hcall]
  have hmessaged := @Act.messaged V _ cfg st input s session payload hroutes
  have hout := routeMessage_outcome cfg st.canSocketReceive input.now input.bufferedAt
    st.channelManager payload.id s payload session.clientIp
  change RouteOutcome _ _ _ _ _ _ _ _ _ (st.routeCall cfg input s session payload).1
    (st.routeCall cfg input s session payload).2 at hout
  generalize st.routeCall cfg input s session payload = out at *
  obtain ⟨result, m⟩ := out
  dsimp only at *
  set st₂ := ({ st₁ with channelManager := m } : RelayServer V).disconnectSlow input.now
    result.backpressuredSocketId with hst₂
  have hscene : st₂.scene = Scene.relieve input.now { st.scene with manager := m }
      result.backpressuredSocketId := by
    rw [hst₂, scene_disconnectSlow]
    rfl
  rw [← hscene] at hmessaged
  cases hout with
  | refused error =>
    change Act cfg st input (st₂.respond s ack (.failed error)).scene
    rw [scene_respond _ _ _ ⟨rfl, rfl⟩]
    exact hmessaged
  | refusedLate error target =>
    dsimp only
    rw [scene_respond _ _ _ ⟨rfl, rfl⟩]
    exact hmessaged
  | buffered =>
    dsimp only
    rw [scene_respond _ _ _ ⟨rfl, rfl⟩]
    exact hmessaged
  | direct r sender target size _ _ _ _ _ _ _ hreceive =>
    dsimp only
    simp only [canSocketReceive, Bool.and_eq_true, Bool.not_eq_true', Option.any_eq_true]
      at hreceive
    obtain ⟨⟨socket, hsock, hwritable⟩, hidle⟩ := hreceive
    have hst₂' : st₂ = { st₁ with channelManager := m } := rfl
    obtain ⟨harmed, harm⟩ := @core_armDirectDelivery V st₂ target socket hsock hwritable hidle
    generalize st₂.armDirectDelivery target = armed at harmed harm
    obtain ⟨ok, st₃⟩ := armed
    dsimp only at harmed harm
    subst harmed
    dsimp only
    rw [scene_respond _ _ _ ⟨rfl, rfl⟩]
    have hscene₄ : (st₃.emitVolatile target (.message payload)).scene = st₂.scene := by
      have hsock₃ : st₃.sockets.get? target = some socket := by rw [harm]; exact hsock
      have hcore₄ := core_emitVolatile hsock₃ hwritable (.message payload)
      have hlobby₄ : (st₃.emitVolatile target (.message payload)).lobby = st₃.lobby :=
        lobby_emitVolatile st₃ target rfl
      refine (scene_eq hcore₄ hlobby₄).trans ?_
      rw [harm]
      rfl
    change Act cfg st input (st₃.emitVolatile target (.message payload)).scene
    rw [hscene₄]
    exact hmessaged

/-- A message moves nobody, but may disconnect its target. -/
theorem act_onMessage (hconn : (st.sockets.get? s).isSome = true)
    (hses : st.sessions.get? s = some session) {payload : MessagePayload V} {ack : Bool}
    (hevent : input.event = .message s payload ack input.bufferedAt) :
    Act cfg st input (st.onMessage cfg input.now input.bufferedAt s session payload ack).scene := by
  unfold onMessage
  dsimp only
  split
  · rw [scene_respond _ _ _ ⟨rfl, rfl⟩]
    exact .idle
  next hallowed =>
  split
  · rw [scene_respond _ _ _ ⟨rfl, rfl⟩]
    exact .idle
  next canonicalPayload hparse =>
    have hroutes : st.Routes input s session canonicalPayload :=
      ⟨⟨payload, ack, hevent, hparse⟩, hconn, hses, by simpa using hallowed⟩
    exact act_relayMessage cfg hroutes _ ack

/-- A `leave_channel` event leaves the channel it resolves to. -/
theorem act_onLeaveChannel (hconn : (st.sockets.get? s).isSome = true)
    (hses : st.sessions.get? s = some session) {requested : Narrowed} {ack : Bool}
    (hevent : input.event = .leaveChannel s requested ack) :
    Act cfg st input (st.onLeaveChannel input.now s session requested ack).scene := by
  unfold onLeaveChannel
  dsimp only
  split
  · rw [scene_respond _ _ _ ⟨rfl, rfl⟩]
    exact .idle
  next hallowed =>
  rw [scene_respond _ _ _ ⟨rfl, rfl⟩]
  split
  · exact .idle
  next channelId hresolve =>
    have hleaves : st.Leaves input s session channelId :=
      ⟨⟨requested, ack, .inl hevent, hresolve⟩, hconn, hses, by simpa using hallowed⟩
    have hleft := @Act.left V _ cfg st input s session channelId ⟨requested, ack, hevent⟩ hleaves
    set st₁ := (st.checkRateLimit input.now session.clientIp .control rateLimitMaxControlEvents).2
    have hlobby : (st₁.leaveRoom s channelId true).lobby = st.lobby.exit s channelId :=
      lobby_leaveRoom st₁ s channelId true
    rw [scene_modifySession _ (by
      rw [scene_notifyLeft, scene_setManager, scene_leaveRoom]; exact hses), scene_notifyLeft,
      scene_setManager, scene_leaveRoom]
    change Act cfg st input ⟨_, _, (st₁.leaveRoom s channelId true).lobby.announceLeft s channelId
      .leave _⟩
    rw [hlobby]
    exact hleft

/-- A channel somebody left is live, so it can be closed. -/
theorem close_after_leave {m : ChannelManager V} (hmanaged : Managed cfg m) (now : ℕ)
    {s : SocketId} {channelId : String} {participant : Participant}
    (hpart : (m.leave now s channelId).1 = some participant) :
    ((m.leave now s channelId).2.close now channelId).1 = true := by
  have hleave := leave_outcome now m s channelId
  generalize m.leave now s channelId = out at hleave hpart ⊢
  obtain ⟨result, m₁⟩ := out
  dsimp only at hleave hpart ⊢
  subst hpart
  cases hleave with
  | left r p hget hp hcontent htables =>
    have hlive : (m₁.content r).terminated = false := by
      rw [hcontent, if_pos rfl]
      by_contra hterm
      have hempty := (hmanaged.cleanTombstone r).participants
        (by simpa [Content.without] using hterm)
      rw [hempty, JsMap.get?_empty] at hp
      cases hp
    have hget₁ : m₁.channels.get? channelId = some r := by rw [(tables_eq_iff.1 htables).1, hget]
    have hclose := close_outcome now m₁ channelId
    generalize m₁.close now channelId = out at hclose ⊢
    obtain ⟨confirmed, m₂⟩ := out
    cases hclose with
    | refused hnot =>
      rw [hnot r hget₁] at hlive
      cases hlive
    | closed => rfl

/-- A `close_channel` event closes a channel its socket takes part in. -/
theorem act_onCloseChannel (hmanaged : Managed cfg st.channelManager)
    (hconn : (st.sockets.get? s).isSome = true) (hses : st.sessions.get? s = some session)
    {requested : Narrowed} {ack : Bool} (hevent : input.event = .closeChannel s requested ack) :
    Act cfg st input (st.onCloseChannel input.now s session requested ack).scene := by
  unfold onCloseChannel
  dsimp only
  split
  · rw [scene_respond _ _ _ ⟨rfl, rfl⟩]
    exact .idle
  next hallowed =>
  split
  · rw [scene_respond _ _ _ ⟨rfl, rfl⟩]
    exact .idle
  next channelId hresolve =>
  have hleaves : st.Leaves input s session channelId := by
    obtain ⟨channelId', hresolve, hvalid⟩ := Option.bind_eq_some_iff.1 hresolve
    have hsame : channelId' = channelId := eq_of_isValidChannelId hvalid
    exact ⟨⟨requested, ack, .inr hevent, hsame ▸ hresolve⟩, hconn, hses, by simpa using hallowed⟩
  have hcall : (st.checkRateLimit input.now session.clientIp .control
    rateLimitMaxControlEvents).2.channelManager = st.channelManager := rfl
  rw [hcall]
  have hclosed := @Act.closed V _ cfg st input s session channelId
  have hlive := @close_after_leave V _ cfg st.channelManager hmanaged input.now s channelId
  have hleave := leave_outcome input.now st.channelManager s channelId
  generalize st.channelManager.leave input.now s channelId = out at *
  obtain ⟨participant, m⟩ := out
  cases hleave with
  | absent =>
    dsimp only
    rw [scene_respond _ _ _ ⟨rfl, rfl⟩]
    exact .idle
  | left r participant =>
    have hlive := hlive rfl
    dsimp only at *
    generalize m.close input.now channelId = out at *
    obtain ⟨confirmed, m'⟩ := out
    dsimp only at hlive
    subst hlive
    dsimp only
    rw [scene_respond _ _ _ ⟨rfl, rfl⟩]
    set st₁ := (st.checkRateLimit input.now session.clientIp .control rateLimitMaxControlEvents).2
    have hleft : ({ st₁ with channelManager := m' }.leaveRoom s channelId true).scene =
        ⟨m', st.scene.session, st.lobby.exit s channelId⟩ :=
      scene_leaveRoom { st₁ with channelManager := m' } s channelId true
    have htold : (({ st₁ with channelManager := m' }.leaveRoom s channelId true).broadcast s
        channelId (.participantsChanged .close participant.clientType)).scene =
        ⟨m', st.scene.session, (st.lobby.exit s channelId).announce s channelId
          (.participantsChanged .close participant.clientType)⟩ := by
      refine (scene_notifyLeft _ s channelId .close (some participant)).trans ?_
      have hlobby := congrArg Scene.lobby hleft
      change RelayServer.lobby _ = _ at hlobby
      rw [hleft, hlobby]
      rfl
    rw [scene_modifySession _ (by rw [htold]; exact hses), htold]
    exact hclosed participant ⟨requested, ack, hevent⟩ hleaves rfl rfl

/-- A ready listener moves nobody. -/
theorem act_onReady {socket : Socket} {st₁ : RelayServer V} (hscene : st₁.scene = st.scene)
    (hsock₁ : st₁.sockets.get? s = some socket) :
    Act cfg st input (st₁.onReady input.now s).scene := by
  have hm : st₁.channelManager = st.channelManager := congrArg Scene.manager hscene
  have hidle : Act cfg st input st₁.scene := hscene ▸ .idle
  unfold onReady
  set st₂ : RelayServer V := { st₁ with
    directTransportListeners := st₁.directTransportListeners.delete s } with hst₂
  dsimp only
  rw [show st₂.sockets.get? s = some socket from hsock₁]
  dsimp only
  split
  · exact hidle
  next hwritable =>
  have hwritable : socket.writable = true := by simpa using hwritable
  have hidle₂ : st₂.directTransportListeners.has s = false := by
    rw [hst₂, JsMap.has, JsMap.get?_delete_self]
    rfl
  obtain ⟨harmed, harm⟩ := @core_armDirectDelivery V st₂ s socket hsock₁ hwritable hidle₂
  generalize st₂.armDirectDelivery s = armed at harmed harm
  obtain ⟨ok, st₃⟩ := armed
  dsimp only at harmed harm
  subst harmed
  dsimp only
  have hm₃ : st₃.channelManager = st.channelManager := by rw [harm]; exact hm
  have hquiet := Quiet.advance st₃.channelManager s
  rw [hm₃] at hquiet ⊢
  generalize st.channelManager.advanceDirectDelivery s = out at hquiet ⊢
  obtain ⟨payload, m⟩ := out
  have hscene₃ : st₃.scene = st.scene := by
    rw [harm]
    exact hscene
  cases payload with
  | none =>
    have hturned := @Act.turned V _ cfg st input (m.releaseDirectDelivery s)
      (hquiet.trans (.release m s))
    rw [← hscene₃] at hturned
    exact hturned
  | some payload =>
    have hturned := @Act.turned V _ cfg st input m hquiet
    rw [← hscene₃] at hturned
    have hsock₃ : ({ st₃ with channelManager := m } : RelayServer V).sockets.get? s =
        some socket := by
      rw [harm]
      exact hsock₁
    refine (scene_eq (core_emitVolatile hsock₃ hwritable (.message payload))
      (lobby_emitVolatile _ _ rfl)) ▸ hturned

theorem act_onConnection {s : SocketId} (hnew : st.sessions.get? s = none) (clientIp : String)
    (clientsCount : ℕ) :
    Act cfg st input (st.onConnection cfg input.now s clientIp clientsCount).scene := by
  unfold onConnection
  dsimp only
  split
  · exact .idle
  split
  · exact .idle
  have hscene : ∀ (limits : JsMap String RateLimitEntry) (active : JsMap String ℕ),
      ({ st with
        rateLimits := limits, activeSocketsByIp := active
        sockets := st.sockets.set s ⟨[ownRoom s], st.transports, false⟩
        sessions := st.sessions.set s ⟨clientIp, none, false, none⟩
        transports := st.transports + 1 } : RelayServer V).scene = ⟨st.channelManager,
          Function.update st.scene.session s (some ⟨clientIp, none, false, none⟩),
          { st.lobby with rooms := Function.update st.lobby.rooms s (some [ownRoom s]) }⟩ := by
    intro limits active
    simp only [scene, lobby, Scene.mk.injEq, Lobby.mk.injEq, and_true, true_and]
    constructor
    · funext s'
      rw [JsMap.get?_set, Function.update_apply]
    · funext s'
      rw [JsMap.get?_set, Function.update_apply]
      split <;> rfl
  exact hscene _ _ ▸ .opened s clientIp hnew

omit [Unknown V] in
theorem scene_onPing (now : ℕ) (st : RelayServer V) (s : SocketId) (session : Session V)
    (ack : Bool) : (st.onPing now s session ack).scene = st.scene := by
  unfold onPing
  dsimp only
  split <;> exact scene_respond _ _ _ ⟨rfl, rfl⟩

omit [Unknown V] in
/-- Whether a transport takes more is not part of the scene. -/
theorem scene_setWritable (st : RelayServer V) (s : SocketId) (writable : Bool) :
    (st.modifySocket s fun socket => { socket with writable := writable }).scene = st.scene := by
  refine scene_eq (core_modifySocket st s ?_) (lobby_modifySocket st s ?_)
  · exact fun _ => rfl
  · exact fun _ => rfl

omit [Unknown V] in
/-- Nor is the transport itself. -/
theorem scene_upgrade (st : RelayServer V) (s : SocketId) (writable : Bool) :
    (st.upgrade s writable).scene = st.scene := by
  have hlobby : (st.upgrade s writable).lobby = st.lobby := lobby_modifySocket st s fun _ => rfl
  have hm : (st.upgrade s writable).channelManager = st.channelManager ∧
      (st.upgrade s writable).sessions = st.sessions := by
    unfold upgrade modifySocket
    split <;> exact ⟨rfl, rfl⟩
  simp only [scene, hlobby, hm.1, hm.2]

/-- Every event changes the scene by an act. -/
theorem act_of_step (hmanaged : Managed cfg st.channelManager) (input : Input V) :
    Act cfg st input (step cfg st input).scene := by
  have hdispatch := @dispatched V (fun k => Act cfg st input k.scene) st .idle
  unfold step
  dsimp only
  split
  next s clientIp clientsCount hevent =>
    split
    · exact .idle
    next hnew =>
      exact act_onConnection cfg (by simpa [JsMap.has] using hnew) clientIp clientsCount
  next s payload ack resolves hevent =>
    exact hdispatch s _ fun session hconn hses =>
      act_onJoinChannel hconn hses payload ack hevent
  next s resolves hevent =>
    split
    · exact .idle
    next session hses =>
    split
    · exact .idle
    next pending hjoin => exact act_onResume hevent hses hjoin
  next s payload ack bufferedAt hevent =>
    have hreading : input.bufferedAt = bufferedAt := by rw [Input.bufferedAt, hevent]
    rw [← hreading] at hevent ⊢
    exact hdispatch s _ fun session hconn hses => act_onMessage cfg hconn hses hevent
  next s requested ack hevent =>
    exact hdispatch s _ fun session hconn hses => act_onLeaveChannel cfg hconn hses hevent
  next s requested ack hevent =>
    exact hdispatch s _ fun session hconn hses =>
      act_onCloseChannel cfg hmanaged hconn hses hevent
  next s ack hevent =>
    exact hdispatch s _ fun session _ _ => scene_onPing input.now st s session ack ▸ .idle
  next s hevent =>
    rw [scene_disconnect]
    exact .dropped s hevent
  next s hevent =>
    unfold fire
    split
    · exact .idle
    split
    · exact .idle
    · exact .idle
  next s consumed hevent =>
    unfold fire
    split
    · exact scene_setWritable st s _ ▸ .idle
    next socket₁ hsock₁ =>
    split
    · exact act_onReady cfg (scene_setWritable st s _) hsock₁
    · exact scene_setWritable st s _ ▸ .idle
  next s hevent => exact scene_setWritable st s false ▸ .idle
  next s writable hevent => exact scene_upgrade st s writable ▸ .idle
  next hevent => exact .turned _ (.cleanup input.now st.channelManager)
  next hevent => exact .idle

end RelayServer

end QrlBackend
