import QrlBackend.Attendance

/-!
# Views of the counterparty

What a client knows of its counterparty comes from the participants of its latest successful
join ack and the `participants_changed` events after it (`Lobby.view`). With it the relay is
a state of `Presence` (`Scene.attendance`), and a step after which a view can be wrong is
one that `misleads`.

A switching join draws up the participants of its ack with its seat, but sends the ack after
the previous room is left. Whoever enters or leaves the requested channel in between is
missed. A join that is undone, and a refused one that dropped a stale participant, change
the membership and tell nobody. A socket that waits in a room hears of a channel it is not
in, and one that left the room hears nothing of the channel it then joins. The ack of a join
to a closed channel lists nobody, while the socket may keep its seat in another one.
-/

set_option autoImplicit false

namespace QrlBackend

variable {V : Type}

open ChannelManager RelayServer

/-! ## What a client is shown -/

/-- What a packet does to the view of a counterparty in the role. The ack of a join to a
closed channel counts : it is a success and lists nobody. -/
def Packet.shows (t : ClientType) (seen : Bool) : Packet V → Bool
  | .participantsChanged event _ => event = .join
  | .ack (.joined _ _ participants _) => participants.contains t
  | _ => seen

/-- Whether a socket sees a counterparty in the role. -/
def Lobby.view (l : Lobby V) (s : SocketId) (t : ClientType) : Bool :=
  (l.presence s).foldl (Packet.shows t) false

namespace Lobby

variable (l : Lobby V) (s : SocketId) (room : String) (x : SocketId) (t : ClientType)

/-- A packet changes the view of the socket it is sent to. -/
theorem view_tell (packet : Packet V) : (l.tell s packet).view x t =
    if x = s ∧ (l.rooms s).isSome = true then packet.shows t (l.view x t) else l.view x t := by
  unfold view tell
  dsimp only
  split
  · rw [List.foldl_append]
    rfl
  · rfl

/-- An announcement changes the views of the others in the room. -/
theorem view_announce (packet : Packet V) : (l.announce s room packet).view x t =
    if x ≠ s ∧ l.seats room x = true then packet.shows t (l.view x t) else l.view x t := by
  unfold view announce
  dsimp only
  split
  · rw [List.foldl_append]
    rfl
  · rfl

@[simp] theorem view_enter : (l.enter s room).view x t = l.view x t := rfl

@[simp] theorem view_exit : (l.exit s room).view x t = l.view x t := rfl

@[simp] theorem view_vanish : (l.vanish s).view x t = l.view x t := rfl

theorem view_announceLeft {event : PresenceEvent} (hevent : event ≠ .join)
    (participant : Option Participant) : (l.announceLeft s room event participant).view x t =
      if participant.isSome = true ∧ x ≠ s ∧ l.seats room x = true then false
      else l.view x t := by
  cases participant with
  | none => simp [announceLeft]
  | some participant =>
    rw [announceLeft, view_announce]
    simp [Packet.shows, hevent]

/-- The end of a join : the others are shown the socket, and the ack shows it the others. -/
theorem view_finish (request : JoinRequest) (messages : List (RelayPayload V))
    (key : Option String) (roster : List ClientType) :
    (l.finish s request messages key roster).view x t =
      if x = s then
        if request.ack = true ∧ (l.rooms s).isSome = true then roster.contains t else l.view x t
      else if l.seats request.channelId x = true then true else l.view x t := by
  have htold : ((l.announce s request.channelId
      (.participantsChanged .join request.clientType)).view x t) =
      if x ≠ s ∧ l.seats request.channelId x = true then true else l.view x t := by
    rw [view_announce]
    simp [Packet.shows]
  unfold finish
  dsimp only
  cases request.ack with
  | false =>
    rw [if_neg Bool.false_ne_true, htold]
    by_cases hx : x = s <;> simp [hx]
  | true =>
    rw [if_pos rfl, view_tell, rooms_announce, htold]
    by_cases hx : x = s
    · simp [hx, Packet.shows]
    · simp [hx]

end Lobby

/-! ## The relay as a state of presence -/

/-- The participants a switching join will report, and whether it will. -/
def Session.switch (session : Session V) : Option (List ClientType × Bool) :=
  match session.joining with
  | some ⟨_, .leavingPrevious _ _ participants resolves⟩ => some (participants, resolves)
  | _ => none

/-- Sockets in a role are the members. -/
def Scene.attendance (k : Scene V) : Presence.State String (SocketId × ClientType) where
  sits id x := Sits k.manager id x.1 x.2
  online x := (k.lobby.rooms x.1).isSome = true
  hears id x := k.lobby.seats id x.1 = true
  pending x := ((k.session x.1).bind Session.switch).map fun (roster, resolves) =>
    ⟨roster.contains x.2.other, resolves⟩
  view x := k.lobby.view x.1 x.2.other

namespace Scene

variable (k : Scene V) (id : String) (x : SocketId × ClientType)

theorem attendance_online : k.attendance.online x ↔ (k.lobby.rooms x.1).isSome = true := Iff.rfl

theorem attendance_hears : k.attendance.hears id x ↔ k.lobby.seats id x.1 = true := Iff.rfl

theorem attendance_view : k.attendance.view x = k.lobby.view x.1 x.2.other := rfl

end Scene

/-- Who takes part in the channel under the id, and in which role. -/
def ChannelManager.attendees (m : ChannelManager V) (id : String) : List (SocketId × ClientType) :=
  match m.channels.get? id with
  | none => []
  | some r => (m.channel r).participants.entries.map fun e => (e.1, e.2.clientType)

/-- The roster lists who sits in the channel. -/
theorem mem_attendees [Unknown V] {cfg : Config} {m : ChannelManager V} (hmanaged : Managed cfg m)
    {id : String} {x : SocketId × ClientType} : x ∈ m.attendees id ↔ Sits m id x.1 x.2 := by
  unfold ChannelManager.attendees
  constructor
  · intro hmem
    split at hmem
    · cases hmem
    next r hget =>
      obtain ⟨⟨s, p⟩, hentry, rfl⟩ := List.mem_map.1 hmem
      exact .of_participant hmanaged hget (JsMap.mem_entries.1 hentry)
  · rintro ⟨r, hget, -, p, hp, hrole⟩
    rw [hget]
    exact List.mem_map.2 ⟨(x.1, p), JsMap.mem_entries.2 hp, by rw [hrole]⟩

/-! ## The steps that mislead -/

namespace RelayServer

/-- The participants the suspended switching join of a socket will report, and whether it
will. -/
def switchOf (st : RelayServer V) (s : SocketId) : Option (List ClientType × Bool) :=
  (st.sessions.get? s).bind Session.switch

/-- A connected participant of another channel is in the room, and hears what it is told. -/
def overheard (st : RelayServer V) (s : SocketId) (room : String) : Bool :=
  st.sockets.entries.any fun (x, socket) =>
    x ≠ s && socket.rooms.contains room && (st.switchOf x).isNone &&
      ((st.sessions.get? x).bind (·.currentChannelId)).any fun id =>
        id ≠ room && (st.channelManager.attendees id).any (·.1 = x)

/-- Another connected participant of the channel will report a roster of a kind. -/
def reporting (st : RelayServer V) (s : SocketId) (id : String)
    (outdated : List ClientType → Bool) : Bool :=
  (st.channelManager.attendees id).any fun (x, _) =>
    x ≠ s && st.sockets.has x && (st.switchOf x).any fun (roster, resolves) =>
      resolves && outdated roster

/-- A participant of the other role has a join that will be undone. -/
def doubtful (st : RelayServer V) (t : ClientType) (id : String) : Bool :=
  (st.channelManager.attendees id).any fun (x, u) => u ≠ t && (st.switchOf x).any (!·.2)

/-- The join drops a stale participant of a channel somebody connected is in. -/
def displaces (st : RelayServer V) (now : ℕ) (s : SocketId) (session : Session V)
    (request : JoinRequest) : Bool :=
  (st.channelManager.attendees request.channelId).any (fun (x, _) => st.sockets.has x) &&
    (st.channelManager.attendees request.channelId).any fun (e, _) =>
      !((st.joinCall now s session request).2.attendees request.channelId).any (·.1 = e)

def takesPart (st : RelayServer V) (s : SocketId) (id : String) : Bool :=
  (st.channelManager.attendees id).any (·.1 = s)

/-- The socket leaves a channel, and a connected participant of another one hears it, or a
participant of this one still reports it. -/
def departureMisleads (st : RelayServer V) (s : SocketId) (id : String) : Bool :=
  st.takesPart s id && (st.overheard s id || st.reporting s id fun _ => true)

/-- The call of `channelManager.join` is outside the room or behind somebody's back, or it is
refused or will be undone and drops a stale participant. -/
def joinMisleads (st : RelayServer V) (now : ℕ) (s : SocketId) (session : Session V)
    (request : JoinRequest) (resolves : Bool) : Bool :=
  match (st.joinCall now s session request).1 with
  | .failure _ => st.displaces now s session request
  | .success _ _ _ true => false
  | .success _ _ _ false =>
    (st.sockets.has s && !st.lobby.seats request.channelId s) ||
    st.reporting s request.channelId (fun roster => !roster.contains request.clientType) ||
    match (if request.switchingChannels then session.currentChannelId else none) with
    | none =>
      (st.sockets.has s && (!request.ack || st.doubtful request.clientType request.channelId)) ||
      st.overheard s request.channelId
    | some previousChannelId =>
      (if resolves then st.sockets.has s && st.doubtful request.clientType request.channelId
        else st.displaces now s session request) ||
      st.departureMisleads s previousChannelId

/-- The end of a switching join without an ack, or of one whose socket takes no part in the
channel any more, while a connected participant there has no counterparty that stays. -/
def finishMisleads (st : RelayServer V) (s : SocketId) (id : String) (ack : Bool) : Bool :=
  st.overheard s id ||
  if st.takesPart s id then st.sockets.has s && !ack
  else (st.channelManager.attendees id).any fun (x, _) =>
    st.sockets.has x && (st.switchOf x).isNone &&
      !(st.channelManager.attendees id).any fun (y, _) => y ≠ x && (st.switchOf y).all (·.2)

/-- The ack of a join to a closed channel shows a participant of another one, who has company
there, that it is alone. -/
def reportMisleads (st : RelayServer V) (s : SocketId) (ack : Bool) : Bool :=
  ack && st.sockets.has s && ((st.sessions.get? s).bind (·.currentChannelId)).any fun id =>
    st.takesPart s id && (st.channelManager.attendees id).any (·.1 ≠ s)

variable [Unknown V] (cfg : Config)

/-- The call of `channelManager.join` that an event makes. `resolves` is about the call
awaited next. -/
def entering (st : RelayServer V) (input : Input V) :
    Option (SocketId × Session V × JoinRequest × Bool) :=
  match input.event with
  | .joinChannel s payload ack resolves =>
    match st.sockets.get? s, st.sessions.get? s, isValidChannelId payload.channelId,
        isClientType payload.clientType, parsePublicKey payload.publicKey with
    | some _, some session, some channelId, some clientType, some publicKey =>
      if session.joining.isNone && (st.checkRateLimit input.now session.clientIp .join
          rateLimitMaxJoins).1 && (st.channelManager.channels.has channelId ||
          st.channelManager.getActiveChannelCount < cfg.relayMaxActiveChannels) &&
          session.currentChannelId = some channelId then
        some (s, session, ⟨channelId, clientType, publicKey, false, false, ack⟩, resolves)
      else none
    | _, _, _, _, _ => none
  | .resumeJoin s resolves => (st.sessions.get? s).bind fun session =>
    match session.joining with
    | some ⟨request, .joiningRoom true⟩ =>
      some (s, session, { request with joinedRoom := true }, resolves)
    | _ => none
  | _ => none

/-- The channel a `leave_channel` or `close_channel` of the socket is about. -/
def leaving (st : RelayServer V) (now : ℕ) (s : SocketId) (requested : Narrowed) : Option String :=
  match st.sockets.get? s, st.sessions.get? s with
  | some _, some session =>
    if (st.checkRateLimit now session.clientIp .control rateLimitMaxControlEvents).1 then
      resolveChannelId requested session.currentChannelId
    else none
  | _, _ => none

/-- After the event a view can be wrong. -/
def misleads (st : RelayServer V) (input : Input V) : Bool :=
  ((st.entering cfg input).any fun (s, session, request, resolves) =>
    st.joinMisleads input.now s session request resolves) ||
  match input.event with
  | .resumeJoin s _ => (st.sessions.get? s).any fun session =>
    match session.joining with
    | some ⟨request, .leavingPrevious _ _ _ true⟩ =>
      st.finishMisleads s request.channelId request.ack
    | some ⟨request, .leavingTombstone true⟩ => st.reportMisleads s request.ack
    | _ => false
  | .leaveChannel s requested _ => (st.leaving input.now s requested).any (st.departureMisleads s)
  | .closeChannel s requested _ => (st.leaving input.now s requested).any fun id =>
    st.takesPart s id && st.overheard s id
  | _ => (st.disconnects cfg input).any fun s =>
    st.sockets.has s &&
      ((st.sessions.get? s).bind (·.currentChannelId)).any (st.departureMisleads s)

end RelayServer

/-! ## Events as moves -/

section Attendance

variable {k k' : Scene V} {x : SocketId × ClientType}

/-- Nobody is pending without a switching join. -/
theorem pending_eq_none : k.attendance.pending x = none ↔
    (k.session x.1).bind Session.switch = none :=
  Option.map_eq_none_iff

theorem pending_congr (h : (k'.session x.1).bind Session.switch =
    (k.session x.1).bind Session.switch) : k'.attendance.pending x = k.attendance.pending x := by
  simp only [Scene.attendance, h]

/-- A handler that waits for its room has not switched. -/
theorem switch_waiting (session : Session V) (request : JoinRequest) {stage : Stage V}
    (hstage : ∀ messages key roster resolves,
      stage ≠ .leavingPrevious messages key roster resolves) :
    ({ session with joining := RelayServer.waiting request stage } : Session V).switch = none := by
  unfold Session.switch RelayServer.waiting
  dsimp only
  split
  next heq =>
    split at heq
    · cases heq
      exact absurd rfl (hstage _ _ _ _)
    · cases heq
  next => rfl

theorem switch_of_joining {session : Session V} {request : JoinRequest} {stage : Stage V}
    (hjoin : session.joining = some ⟨request, stage⟩)
    (hstage : ∀ messages key roster resolves,
      stage ≠ .leavingPrevious messages key roster resolves) : session.switch = none := by
  unfold Session.switch
  rw [hjoin]
  split
  next heq =>
    cases heq
    exact absurd rfl (hstage _ _ _ _)
  next => rfl

theorem switch_of_free {session : Session V} (hfree : session.joining = none) :
    session.switch = none := by
  unfold Session.switch
  rw [hfree]

end Attendance

section Moves

variable [Unknown V] {cfg : Config} {st : RelayServer V} {s : SocketId}

/-- An event that nobody overhears is confined to its channel. -/
theorem confined_of_overheard (hmanaged : Managed cfg st.channelManager)
    (hplaced : Placed st.scene) {room : String} (hguard : st.overheard s room = false)
    (hself : ∀ id t, Sits st.channelManager id s t → id = room) (t : ClientType) :
    Presence.Confined st.scene.attendance (s, t) room := by
  rintro id ⟨x, u⟩ - hhears hsits honline hpending
  by_cases hx : x = s
  · subst hx
    exact hself id u hsits
  by_contra hid
  obtain ⟨session, hses, hplace⟩ := hplaced id x u hsits
  have hswitch : session.switch = none := by
    have hnone := pending_eq_none.1 hpending
    dsimp only at hnone
    rwa [hses] at hnone
  have hses' : st.sessions.get? x = some session := hses
  have hcur : session.currentChannelId = some id := by
    unfold Session.place at hplace
    split at hplace
    next hjoin => simp [Session.switch, hjoin] at hswitch
    next => exact hplace
  have hhears : st.lobby.seats room x = true := hhears
  unfold Lobby.seats lobby at hhears
  dsimp only at hhears
  rw [Option.any_map, Option.any_eq_true] at hhears
  obtain ⟨socket, hsock, hroom⟩ := hhears
  have htrue : st.overheard s room = true := by
    refine List.any_eq_true.2 ⟨(x, socket), JsMap.mem_entries.2 hsock, ?_⟩
    have hmem : (st.channelManager.attendees id).any (·.1 = x) = true :=
      List.any_eq_true.2 ⟨(x, u), (mem_attendees hmanaged).2 hsits, by simp⟩
    simp [hx, switchOf, hses', hswitch, hcur, hid, hmem]
    simpa using hroom
  rw [hguard] at htrue
  cases htrue

/-- No other participant that will report counts on the socket. -/
theorem settles_of_reporting (hmanaged : Managed cfg st.channelManager) {id : String}
    {outdated : List ClientType → Bool} (hguard : st.reporting s id outdated = false)
    {x : SocketId × ClientType} (hx : x.1 ≠ s) (hsits : Sits st.channelManager id x.1 x.2)
    (honline : (st.lobby.rooms x.1).isSome = true) {roster : List ClientType}
    (hswitch : st.switchOf x.1 = some (roster, true)) : outdated roster = false := by
  by_contra houtdated
  have hconn : st.sockets.has x.1 = true := by simpa [lobby, JsMap.has] using honline
  have htrue : st.reporting s id outdated = true := by
    refine List.any_eq_true.2 ⟨x, (mem_attendees hmanaged).2 hsits, ?_⟩
    simpa [hx, hconn, hswitch] using houtdated
  rw [hguard] at htrue
  cases htrue

omit [Unknown V] in
/-- A socket sits in one channel at most. -/
theorem Placed.channel_eq {k : Scene V} (h : Placed k) {id id' : String} {t t' : ClientType}
    (hsits : Sits k.manager id s t) (hsits' : Sits k.manager id' s t') : id = id' := by
  obtain ⟨session, hses, hplace⟩ := h id s t hsits
  exact Option.some.inj (hplace.symm.trans (h.place_eq hses hsits'))

/-- A socket leaves a channel, and if it took part in it the room is told. -/
theorem move_of_departure (hmanaged : Managed cfg st.channelManager) (hplaced : Placed st.scene)
    {left : String} (hguard : st.departureMisleads s left = false) {k : Scene V}
    (hsits : ∀ id x t, Sits k.manager id x t ↔
      Sits st.channelManager id x t ∧ ¬(id = left ∧ x = s))
    (honline : ∀ id x t, Sits k.manager id x t → (k.lobby.rooms x).isSome = true →
      (st.lobby.rooms x).isSome = true)
    (hseats : ∀ id x t, Sits k.manager id x t → (k.lobby.rooms x).isSome = true →
      st.lobby.seats id x = true → k.lobby.seats id x = true)
    (hswitch : ∀ id x t, Sits k.manager id x t → (k.session x).bind Session.switch = st.switchOf x)
    {participant : Option Participant}
    (htold : participant.isSome = true ↔ ∃ t, Sits st.channelManager left s t)
    (hview : ∀ id x t u, Sits k.manager id x t → (k.lobby.rooms x).isSome = true →
      k.lobby.view x u = if participant.isSome = true ∧ x ≠ s ∧ st.lobby.seats left x = true
        then false else st.lobby.view x u) :
    Presence.Move st.scene.attendance k.attendance := by
  by_cases hseat : ∃ t, Sits st.channelManager left s t
  · obtain ⟨t, hseat⟩ := hseat
    have htakes : st.takesPart s left = true :=
      List.any_eq_true.2 ⟨(s, t), (mem_attendees hmanaged).2 hseat, by simp⟩
    unfold departureMisleads at hguard
    rw [htakes, Bool.true_and, Bool.or_eq_false_iff] at hguard
    have hself : ∀ id t, Sits st.channelManager id s t → id = left := fun id t hs =>
      hplaced.channel_eq hs hseat
    have hne : ∀ {x : SocketId × ClientType}, Sits st.channelManager left x.1 x.2 → x ≠ (s, t) →
        x.1 ≠ s := by
      rintro ⟨x, u⟩ hx hne rfl
      exact hne (Prod.ext rfl (hx.role_eq hseat))
    have hgone : ∀ {id x u}, Sits k.manager id x u → x ≠ s := by
      rintro id x u hx rfl
      obtain ⟨hx, hnot⟩ := (hsits id x u).1 hx
      exact hnot ⟨hself id u hx, rfl⟩
    refine .leaves (s := (s, t)) (c := left) ⟨fun id x => ?_, hseat, fun x y hx hy hxs hys => ?_,
      fun id x hx => honline id x.1 x.2 hx, fun id x hx => hseats id x.1 x.2 hx,
      fun id x hx => pending_congr (hswitch id x.1 x.2 hx), fun id x hx hon hxs hhears => ?_,
      fun id x hx hon hnot => ?_, confined_of_overheard hmanaged hplaced hguard.1 hself t,
      fun x p hxs hx hon hpending => ?_⟩
    · refine (hsits id x.1 x.2).trans (and_congr_right fun hx => not_congr ?_)
      refine and_congr_right fun hid => ⟨fun hxs => ?_, fun hxs => congrArg Prod.fst hxs⟩
      subst hid
      by_contra hne'
      exact hne hx hne' hxs
    · have hother : ∀ {x : SocketId × ClientType}, Sits st.channelManager left x.1 x.2 →
          x ≠ (s, t) → x.2 = t.other := fun {x} hx hxs =>
        ClientType.eq_other_of_ne fun hrole => hne hx hxs ((hrole ▸ hx).socket_eq hmanaged hseat)
      have hrole := (hother hx hxs).trans (hother hy hys).symm
      exact Prod.ext (Sits.socket_eq hmanaged hx (hrole ▸ hy)) hrole
    · rw [Scene.attendance_view, hview id x.1 x.2 _ hx hon,
        if_pos ⟨htold.2 ⟨t, hseat⟩, hgone hx, hhears⟩]
    · rw [Scene.attendance_view, hview id x.1 x.2 _ hx hon,
        if_neg fun hall => hnot ⟨fun hxs => ?_, hall.2.2⟩]
      · rfl
      exact hall.2.1 (congrArg Prod.fst hxs)
    · obtain ⟨⟨roster, resolves⟩, hswitch', rfl⟩ := Option.map_eq_some_iff.1 hpending
      dsimp only
      by_contra hresolves
      cases eq_true_of_ne_false hresolves
      cases settles_of_reporting hmanaged hguard.2 (hne hx hxs) hx hon hswitch'
  · refine .fades ⟨fun id x hx => ((hsits id x.1 x.2).1 hx).1, fun id x hx => honline id x.1 x.2 hx,
      fun id x hx => hseats id x.1 x.2 hx, fun id x hx => pending_congr (hswitch id x.1 x.2 hx),
      fun id x hx hon _ => ?_, fun id x y _ _ _ hy _ => ?_⟩
    · rw [Scene.attendance_view, hview id x.1 x.2 _ hx hon,
        if_neg fun hall => hseat (htold.1 hall.1)]
      exact .inl rfl
    · refine (hsits id y.1 y.2).2 ⟨hy, fun hall => hseat ⟨y.2, ?_⟩⟩
      rw [← hall.1, ← hall.2]
      exact hy

/-- Who is taken out of a channel sat in it. -/
theorem isSome_leave {m : ChannelManager V} (hmanaged : Managed cfg m) (now : ℕ) (id : String) :
    (m.leave now s id).1.isSome = true ↔ ∃ t, Sits m id s t := by
  have hout := leave_outcome now m s id
  generalize m.leave now s id = out at hout ⊢
  obtain ⟨participant, m'⟩ := out
  cases hout with
  | absent hnot =>
    refine ⟨nofun, ?_⟩
    rintro ⟨t, r, hget, -, p, hp, -⟩
    rw [hnot r hget] at hp
    cases hp
  | left r p hget hp => exact ⟨fun _ => ⟨_, .of_participant hmanaged hget hp⟩, fun _ => rfl⟩

omit [Unknown V] in
/-- Nobody takes or loses a seat, and nothing is shown. -/
theorem move_of_same {k : Scene V}
    (hsits : ∀ id x t, Sits k.manager id x t ↔ Sits st.channelManager id x t)
    (honline : ∀ id x t, Sits st.channelManager id x t → (k.lobby.rooms x).isSome = true →
      (st.lobby.rooms x).isSome = true)
    (hseats : ∀ id x t, Sits st.channelManager id x t → (k.lobby.rooms x).isSome = true →
      st.lobby.seats id x = true → k.lobby.seats id x = true)
    (hswitch : ∀ id x t, Sits st.channelManager id x t →
      (k.session x).bind Session.switch = st.switchOf x)
    (hview : ∀ x u, k.lobby.view x u = st.lobby.view x u) :
    Presence.Move st.scene.attendance k.attendance :=
  .fades ⟨fun id x => (hsits id x.1 x.2).1,
    fun id x hx => honline id x.1 x.2 ((hsits id x.1 x.2).1 hx),
    fun id x hx => hseats id x.1 x.2 ((hsits id x.1 x.2).1 hx),
    fun id x hx => pending_congr (hswitch id x.1 x.2 ((hsits id x.1 x.2).1 hx)),
    fun _ x _ _ _ => .inl (hview x.1 x.2.other), fun id _ y _ _ _ hy _ => (hsits id y.1 y.2).2 hy⟩

omit [Unknown V] in
/-- One session is replaced by another that switches as it did. -/
theorem switch_update {session session' : Session V} (hses : st.sessions.get? s = some session)
    (hswitch : session'.switch = session.switch) (x : SocketId) :
    (Function.update st.scene.session s (some session') x).bind Session.switch = st.switchOf x := by
  rw [Function.update_apply]
  split
  next hx =>
    rw [hx, switchOf, hses]
    exact hswitch
  next => rfl

omit [Unknown V] in
theorem switch_drop (x : SocketId) : (Function.update st.scene.session s ((st.scene.session s).map
    fun session => { session with releasedSocketCounter := true }) x).bind Session.switch =
      st.switchOf x := by
  rw [Function.update_apply]
  split
  next hx =>
    rw [hx, switchOf]
    change Option.bind (Option.map _ (st.sessions.get? s)) _ = _
    cases st.sessions.get? s <;> rfl
  next => rfl

omit [Unknown V] in
theorem seats_vanish_of_online {x : SocketId} {id : String}
    (honline : ((st.lobby.vanish s).rooms x).isSome = true) :
    ((st.lobby.rooms x).isSome = true) ∧
      (st.lobby.seats id x = true → (st.lobby.vanish s).seats id x = true) := by
  have hx : x ≠ s := by
    rintro rfl
    simp [Lobby.vanish] at honline
  rw [Lobby.seats_vanish, if_neg hx]
  refine ⟨?_, fun h => h⟩
  simpa [Lobby.vanish, hx] using honline

/-- A socket goes away. -/
theorem move_of_drop (hmanaged : Managed cfg st.channelManager) (hplaced : Placed st.scene)
    {m : ChannelManager V} (hm : Managed cfg m) (hquiet : Quiet st.channelManager m) (now : ℕ)
    (hguard : st.sockets.has s = true → ∀ id,
      (st.sessions.get? s).bind (·.currentChannelId) = some id →
        st.departureMisleads s id = false) :
    Presence.Move st.scene.attendance
      (Scene.drop now { st.scene with manager := m } s).attendance := by
  unfold Scene.drop
  split
  next hconn =>
    have hhas : st.sockets.has s = true := by simpa [scene, lobby, JsMap.has] using hconn
    dsimp only
    split
    next hcur =>
      refine move_of_same (fun id x t => (sits_release m s).trans (sits_quiet hquiet)) ?_ ?_
        (fun _ x _ _ => switch_drop x) fun _ _ => rfl
      · exact fun _ _ _ _ honline => (@seats_vanish_of_online V st s _ "" honline).1
      · exact fun _ _ _ _ honline => (seats_vanish_of_online honline).2
    next id hcur =>
      have hsits : ∀ id' x t, Sits ((m.releaseDirectDelivery s).leave now s id).2 id' x t ↔
          Sits st.channelManager id' x t ∧ ¬(id' = id ∧ x = s) := by
        intro id' x t
        rw [sits_leave (hm.release s).mapSound, sits_release, sits_quiet hquiet]
      have htold : ((m.releaseDirectDelivery s).leave now s id).1.isSome = true ↔
          ∃ t, Sits st.channelManager id s t := by
        rw [isSome_leave (hm.release s)]
        exact exists_congr fun t => (sits_release m s).trans (sits_quiet hquiet)
      refine move_of_departure hmanaged hplaced (hguard hhas id hcur) hsits ?_ ?_
        (fun _ x _ _ => switch_drop x) htold ?_
      · intro id' x t _ honline
        rw [Lobby.rooms_announceLeft] at honline
        exact (@seats_vanish_of_online V st s _ "" honline).1
      · intro id' x t _ honline hseat
        rw [Lobby.rooms_announceLeft] at honline
        rw [Lobby.seats_announceLeft]
        exact (seats_vanish_of_online honline).2 hseat
      · intro id' x t u _ honline
        rw [Lobby.rooms_announceLeft] at honline
        dsimp only
        rw [Lobby.view_announceLeft _ _ _ _ _ (by decide : PresenceEvent.disconnect ≠ .join),
          Lobby.view_vanish, Lobby.seats_vanish]
        have hx : x ≠ s := by
          rintro rfl
          simp [Lobby.vanish] at honline
        rw [if_neg hx]
        rfl
  next =>
    exact move_of_same (fun id x t => sits_quiet hquiet) (fun _ _ _ _ => id) (fun _ _ _ _ _ => id)
      (fun _ _ _ _ => rfl) fun _ _ => rfl

end Moves

end QrlBackend
