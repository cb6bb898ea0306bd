import QrlBackend.Acts
import QrlBackend.Seats

/-!
# The rooms of a socket

Besides the room of its own id, a connected socket is in the room of its current channel at
most, and of the channel its `join_channel` handler asks for while the handler has not left
that room again (`Session.lodges`). Only a `socket.leave` of the `catch` block that rejects
leaves a socket in a room it has no use for (`keepsRoom`). Without that the rooms follow the
sessions (`lodged_after`).
-/

set_option autoImplicit false

namespace QrlBackend

variable {V : Type}

open ChannelManager RelayServer

/-! ## Seats -/

namespace Lobby

/-- No socket is in a room twice. -/
def RoomsNodup (l : Lobby V) : Prop := ∀ s rooms, l.rooms s = some rooms → rooms.Nodup

theorem seats_congr {l l' : Lobby V} {s : SocketId} (h : l'.rooms s = l.rooms s) (room : String) :
    l'.seats room s = l.seats room s := by
  rw [seats, seats, h]

@[simp] theorem seats_tell (l : Lobby V) (s : SocketId) (packet : Packet V) (room : String)
    (x : SocketId) : (l.tell s packet).seats room x = l.seats room x :=
  rfl

@[simp] theorem seats_announce (l : Lobby V) (s : SocketId) (channelId : String)
    (packet : Packet V) (room : String) (x : SocketId) :
    (l.announce s channelId packet).seats room x = l.seats room x :=
  rfl

@[simp] theorem seats_announceLeft (l : Lobby V) (s : SocketId) (channelId : String)
    (event : PresenceEvent) (participant : Option Participant) (room : String) (x : SocketId) :
    (l.announceLeft s channelId event participant).seats room x = l.seats room x :=
  seats_congr (congrFun (rooms_announceLeft ..) x) room

@[simp] theorem seats_finish (l : Lobby V) (s : SocketId) (request : JoinRequest)
    (bufferedMessages : List (RelayPayload V)) (key : Option String) (roster : List ClientType)
    (room : String) (x : SocketId) :
    (l.finish s request bufferedMessages key roster).seats room x = l.seats room x :=
  seats_congr (congrFun (rooms_finish ..) x) room

theorem seats_enter (l : Lobby V) (s : SocketId) (room room' : String) (x : SocketId) :
    (l.enter s room).seats room' x =
      if x = s ∧ room' = room then (l.rooms s).isSome else l.seats room' x := by
  unfold seats enter
  dsimp only
  rw [Function.update_apply]
  by_cases hx : x = s
  · subst hx
    rcases l.rooms x with _ | rooms
    · simp
    · by_cases hroom : room' = room <;> simp [hroom]
  · simp [hx]

/-- Leaving a room takes the socket out of that room only. -/
theorem seats_exit {l : Lobby V} (h : l.RoomsNodup) (s : SocketId) (room room' : String)
    (x : SocketId) : (l.exit s room).seats room' x =
      if x = s ∧ room' = room then false else l.seats room' x := by
  unfold seats exit
  dsimp only
  rw [Function.update_apply]
  by_cases hx : x = s
  · subst hx
    rcases hrooms : l.rooms x with _ | rooms
    · simp
    · by_cases hroom : room' = room
      · subst hroom
        simp [(h x rooms hrooms).mem_erase_iff]
      · simp [hroom, List.mem_erase_of_ne hroom]
  · simp [hx]

theorem seats_vanish (l : Lobby V) (s : SocketId) (room : String) (x : SocketId) :
    (l.vanish s).seats room x = if x = s then false else l.seats room x := by
  unfold seats vanish
  dsimp only
  rw [Function.update_apply]
  split <;> rfl

namespace RoomsNodup

variable {l : Lobby V}

theorem of_rooms {l' : Lobby V} (h : l.RoomsNodup) (hrooms : l'.rooms = l.rooms) :
    l'.RoomsNodup := by
  intro s rooms hget
  exact h s rooms (hrooms ▸ hget)

theorem enter (h : l.RoomsNodup) (s : SocketId) (room : String) : (l.enter s room).RoomsNodup := by
  intro x rooms hget
  dsimp only [Lobby.enter] at hget
  rw [Function.update_apply] at hget
  split at hget
  · obtain ⟨old, hold, rfl⟩ := Option.map_eq_some_iff.1 hget
    exact (h s old hold).insert
  · exact h x rooms hget

theorem exit (h : l.RoomsNodup) (s : SocketId) (room : String) : (l.exit s room).RoomsNodup := by
  intro x rooms hget
  dsimp only [Lobby.exit] at hget
  rw [Function.update_apply] at hget
  split at hget
  · obtain ⟨old, hold, rfl⟩ := Option.map_eq_some_iff.1 hget
    exact (h s old hold).erase room
  · exact h x rooms hget

theorem vanish (h : l.RoomsNodup) (s : SocketId) : (l.vanish s).RoomsNodup := by
  intro x rooms hget
  dsimp only [Lobby.vanish] at hget
  rw [Function.update_apply] at hget
  split at hget
  · cases hget
  · exact h x rooms hget

theorem announceLeft (h : l.RoomsNodup) (s : SocketId) (room : String) (event : PresenceEvent)
    (participant : Option Participant) : (l.announceLeft s room event participant).RoomsNodup :=
  h.of_rooms (rooms_announceLeft ..)

end RoomsNodup

end Lobby

theorem Scene.roomsNodup_drop {k : Scene V} (h : k.lobby.RoomsNodup) (now : ℕ) (s : SocketId) :
    (k.drop now s).lobby.RoomsNodup := by
  unfold Scene.drop
  split
  · dsimp only
    split
    · exact h.vanish s
    · exact (h.vanish s).announceLeft _ _ _ _
  · exact h

theorem Scene.roomsNodup_relieve {k : Scene V} (h : k.lobby.RoomsNodup) (now : ℕ)
    (target : Option SocketId) : (k.relieve now target).lobby.RoomsNodup := by
  unfold Scene.relieve
  split
  · exact h
  · split
    · exact h
    · exact Scene.roomsNodup_drop h now _

section Nodup

variable [Unknown V] {cfg : Config} {st : RelayServer V} {input : Input V} {k : Scene V}

omit [Unknown V] in
theorem roomsNodup_withdrawn (h : st.lobby.RoomsNodup) (s : SocketId) (request : JoinRequest)
    (resolves : Bool) : (st.withdrawn s request resolves).RoomsNodup := by
  unfold withdrawn
  split
  · exact h.exit s _
  · exact h

theorem Act.roomsNodup (hact : Act cfg st input k) (h : st.lobby.RoomsNodup) :
    k.lobby.RoomsNodup := by
  cases hact with
  | idle | turned | ended => exact h
  | opened s =>
    intro x rooms hget
    dsimp only at hget
    rw [Function.update_apply] at hget
    split at hget
    · cases hget
      exact List.nodup_singleton _
    · exact h x rooms hget
  | requested s session request resolves =>
    dsimp only
    split
    · exact h.enter s _
    · exact h
  | refusedJoin s session request resolves | aborted s session request stage resolves
  | undone s session request resolves => exact roomsNodup_withdrawn h s request resolves
  | tombstone s session request resolves =>
    dsimp only
    split
    · exact roomsNodup_withdrawn h s request resolves
    · split <;> exact h
  | entered | completed => exact h.of_rooms (Lobby.rooms_finish ..)
  | switched s session request resolves =>
    dsimp only
    split
    · exact Lobby.RoomsNodup.exit (h.announceLeft _ _ _ _) s _
    · exact h.announceLeft _ _ _ _
  | reported =>
    dsimp only
    split <;> exact h
  | messaged => exact Scene.roomsNodup_relieve h _ _
  | left s session channelId => exact (h.exit s channelId).announceLeft _ _ _ _
  | closed s session channelId => exact (h.exit s channelId).of_rooms rfl
  | dropped s => exact Scene.roomsNodup_drop h _ s

theorem roomsNodup_after (cfg : Config) (inputs : List (Input V)) :
    (RelayServer.after cfg inputs).lobby.RoomsNodup := by
  induction inputs using List.reverseRecOn with
  | nil =>
    intro s rooms hget
    cases hget
  | append_singleton inputs input ih =>
    rw [RelayServer.after, Runs.run_snoc]
    exact (act_of_step cfg (managed_after cfg inputs) input).roomsNodup ih

end Nodup

/-! ## Sessions and rooms -/

/-- The requested room was joined before the handler came to this stage. -/
def Stage.joinedRoom : Stage V → Bool
  | .joiningRoom _ => false
  | _ => true

/-- While it waits, the socket is in the requested room. -/
def Stage.holdsRoom : Stage V → Bool
  | .joiningRoom resolves => resolves
  | .leavingRefused _ resolves | .leavingTombstone resolves => !resolves
  | .leavingPrevious _ _ _ _ => true
  | .undoing => false

/-- The rooms a socket can be in. A switching join that gets its way has left the room of the
current channel. -/
def Session.lodges (session : Session V) (room : String) : Prop :=
  match session.joining with
  | none => session.currentChannelId = some room
  | some ⟨request, .leavingPrevious _ _ _ true⟩ => request.channelId = room
  | some ⟨request, stage⟩ =>
    session.currentChannelId = some room ∨ stage.holdsRoom = true ∧ request.channelId = room

/-- The sockets are in rooms of their sessions and their own rooms only, and a handler knows
whether it has joined the requested room. -/
structure Lodged (k : Scene V) : Prop where
  rooms : ∀ s session room, k.session s = some session → k.lobby.seats room s = true →
    room ≠ ownRoom s → session.lodges room
  joinedRoom : ∀ s session pending, k.session s = some session → session.joining = some pending →
    pending.request.joinedRoom = pending.stage.joinedRoom

namespace RelayServer

/-- The event resumes a join whose awaited call has rejected, and the `catch` block cannot
take the connected socket out of the requested room. -/
def keepsRoom (st : RelayServer V) (input : Input V) : Bool :=
  match input.event with
  | .resumeJoin s false =>
    st.sockets.has s && (st.sessions.get? s).any fun session =>
      match session.joining with
      | some ⟨_, .leavingRefused _ false⟩ | some ⟨_, .leavingTombstone false⟩
      | some ⟨_, .leavingPrevious _ _ _ false⟩ => true
      | _ => false
  | _ => false

end RelayServer

/-- A session without a join lodges in its current channel. -/
theorem Session.lodges_of_free {session : Session V} (h : session.joining = none) (room : String) :
    session.lodges room ↔ session.currentChannelId = some room := by
  unfold Session.lodges
  rw [h]

theorem Session.lodges_of_joining {session : Session V} {request : JoinRequest} {stage : Stage V}
    (h : session.joining = some ⟨request, stage⟩)
    (hstage : ∀ messages key roster, stage ≠ .leavingPrevious messages key roster true)
    (room : String) : session.lodges room ↔
      session.currentChannelId = some room ∨ stage.holdsRoom = true ∧ request.channelId = room := by
  unfold Session.lodges
  rw [h]
  split
  next heq => cases heq
  next heq =>
    cases heq
    exact absurd rfl (hstage _ _ _)
  next heq =>
    cases heq
    rfl

/-- A handler withdraws from the requested room only. -/
theorem seats_withdrawn {st : RelayServer V} (hnodup : st.lobby.RoomsNodup) {s x : SocketId}
    {request : JoinRequest} {resolves : Bool} {room : String} :
    (st.withdrawn s request resolves).seats room x =
      if request.joinedRoom = true ∧ resolves = true ∧ x = s ∧ room = request.channelId then false
      else st.lobby.seats room x := by
  unfold withdrawn
  by_cases hleave : request.joinedRoom = true ∧ resolves = true
  · rw [if_pos (by simpa using hleave), Lobby.seats_exit hnodup]
    simp [hleave]
  · rw [if_neg (by simpa using hleave), if_neg fun hall => hleave ⟨hall.1, hall.2.1⟩]

namespace Lodged

/-- One session is replaced, and its socket is where it says. -/
theorem update {k : Scene V} {m : ChannelManager V} {l : Lobby V} (h : Lodged k) (s : SocketId)
    (session : Session V)
    (hother : ∀ x ≠ s, ∀ room, l.seats room x = true → k.lobby.seats room x = true)
    (hrooms : ∀ room, l.seats room s = true → room ≠ ownRoom s → session.lodges room)
    (hjoined : ∀ pending, session.joining = some pending →
      pending.request.joinedRoom = pending.stage.joinedRoom) :
    Lodged ⟨m, Function.update k.session s (some session), l⟩ where
  rooms x session' room hses hseat hown := by
    dsimp only at hses hseat
    rw [Function.update_apply] at hses
    split at hses
    next hx =>
      cases hses
      subst hx
      exact hrooms room hseat hown
    next hx => exact h.rooms x session' room hses (hother x hx room hseat) hown
  joinedRoom x session' pending hses hjoin := by
    dsimp only at hses
    rw [Function.update_apply] at hses
    split at hses
    · cases hses
      exact hjoined pending hjoin
    · exact h.joinedRoom x session' pending hses hjoin

theorem drop {k : Scene V} (h : Lodged k) (now : ℕ) (s : SocketId) : Lodged (k.drop now s) := by
  have hkeep : ∀ (m : ChannelManager V) (l : Lobby V),
      (∀ room x, l.seats room x = if x = s then false else k.lobby.seats room x) →
      Lodged ⟨m, Function.update k.session s ((k.session s).map fun session =>
        { session with releasedSocketCounter := true }), l⟩ := by
    intro m l hseats
    have hother : ∀ x ≠ s, ∀ room, l.seats room x = true → k.lobby.seats room x = true :=
      fun x hx room hseat => by rwa [hseats, if_neg hx] at hseat
    have hself : ∀ room, l.seats room s = true → False :=
      fun room hseat => by rw [hseats, if_pos rfl] at hseat; cases hseat
    rcases hses : k.session s with _ | session
    · rw [Option.map_none, ← hses, Function.update_eq_self]
      refine ⟨fun x session' room hses' hseat hown => ?_, h.joinedRoom⟩
      by_cases hx : x = s
      · exact (hself room (hx ▸ hseat)).elim
      · exact h.rooms x session' room hses' (hother x hx room hseat) hown
    · exact h.update s _ hother (fun room hseat _ => (hself room hseat).elim)
        fun pending => h.joinedRoom s session pending hses
  unfold Scene.drop
  split
  · dsimp only
    split
    · exact hkeep _ _ fun room x => Lobby.seats_vanish ..
    · refine hkeep _ _ fun room x => ?_
      rw [Lobby.seats_announceLeft, Lobby.seats_vanish]
  · exact h

theorem relieve {k : Scene V} (h : Lodged k) (now : ℕ) (target : Option SocketId) :
    Lodged (k.relieve now target) := by
  unfold Scene.relieve
  split
  · exact h
  · split
    · exact h
    · exact h.drop now _

/-- The handler gives up the requested room, and waits in a stage or ends. -/
theorem withdraw {st : RelayServer V} {m : ChannelManager V} {s : SocketId} {session : Session V}
    {request : JoinRequest} {stage : Stage V} {resolves : Bool} (h : Lodged st.scene)
    (hnodup : st.lobby.RoomsNodup)
    (hbefore : ∀ room, st.lobby.seats room s = true → room ≠ ownRoom s →
      session.currentChannelId = some room ∨
        request.joinedRoom = true ∧ request.channelId = room)
    (hstage : stage.joinedRoom = true)
    (hplain : ∀ messages key roster, stage ≠ .leavingPrevious messages key roster true)
    (hholds : request.joinedRoom = true →
      resolves = true ∨ stage.holdsRoom = true ∨ st.lobby.rooms s = none) :
    Lodged ⟨m, Function.update st.scene.session s
      (some { session with joining := RelayServer.waiting request stage }),
      st.withdrawn s request resolves⟩ := by
  refine h.update s _ (fun x hx room hseat => ?_) (fun room hseat hown => ?_)
    fun pending hjoin => ?_
  · rwa [seats_withdrawn hnodup, if_neg fun hall => hx hall.2.2.1] at hseat
  · rw [seats_withdrawn hnodup] at hseat
    split at hseat
    · cases hseat
    next hkept =>
      rcases hroom : request.joinedRoom
      · have hfree : ({ session with
            joining := RelayServer.waiting request stage } : Session V).joining = none := by
          simp [RelayServer.waiting, hroom]
        rw [Session.lodges_of_free hfree]
        exact (hbefore room hseat hown).resolve_right fun hreq => by simp [hroom] at hreq
      · have hwaits : ({ session with
            joining := RelayServer.waiting request stage } : Session V).joining =
              some ⟨request, stage⟩ := by
          simp [RelayServer.waiting, hroom]
        rw [Session.lodges_of_joining hwaits hplain]
        rcases hbefore room hseat hown with hcur | ⟨-, hreq⟩
        · exact .inl hcur
        · rcases hholds hroom with rfl | hholds | hgone
          · exact absurd ⟨hroom, rfl, rfl, hreq.symm⟩ hkept
          · exact .inr ⟨hholds, hreq⟩
          · simp [Lobby.seats, hgone] at hseat
  · unfold RelayServer.waiting at hjoin
    split at hjoin
    next hroom =>
      cases hjoin
      rw [hroom, hstage]
    next => cases hjoin

end Lodged

section Lodged

variable [Unknown V] {cfg : Config} {st : RelayServer V} {input : Input V} {k : Scene V}
  {s : SocketId} {session : Session V} {request : JoinRequest} {resolves : Bool}

omit [Unknown V] in
/-- A join that is entered lodges in its current room and, if it has joined it, the requested
one. -/
theorem Lodged.of_enters (h : Lodged st.scene)
    (henters : st.Enters cfg input s session request resolves) (room : String)
    (hseat : st.lobby.seats room s = true) (hown : room ≠ ownRoom s) :
    session.currentChannelId = some room ∨
      request.joinedRoom = true ∧ request.channelId = room := by
  cases henters with
  | rejoin hasks =>
    exact .inl ((Session.lodges_of_free hasks.free room).1
      (h.rooms s session room hasks.found hseat hown))
  | roomJoined hevent hses hjoin =>
    have hlodges := h.rooms s session room hses hseat hown
    rw [Session.lodges_of_joining hjoin (fun _ _ _ h => by cases h)] at hlodges
    exact hlodges.imp_right fun hreq => ⟨rfl, hreq.2⟩

omit [Unknown V] in
theorem seats_exit_of (hnodup : st.lobby.RoomsNodup) {channelId room : String} {x : SocketId}
    (hseat : (st.lobby.exit s channelId).seats room x = true) :
    st.lobby.seats room x = true ∧ (x = s → room ≠ channelId) := by
  rw [Lobby.seats_exit hnodup] at hseat
  split at hseat
  · cases hseat
  next hnot => exact ⟨hseat, fun hx hroom => hnot ⟨hx, hroom⟩⟩

omit [Unknown V] in
/-- A socket that leaves a room keeps the others. -/
theorem Lodged.exit (h : Lodged st.scene) (hnodup : st.lobby.RoomsNodup)
    (hses : st.sessions.get? s = some session) (channelId : String) {m : ChannelManager V}
    {l : Lobby V} (hseats : ∀ room x, l.seats room x = (st.lobby.exit s channelId).seats room x) :
    Lodged ⟨m, Function.update st.scene.session s
      (some (if session.currentChannelId = some channelId then
        { session with currentChannelId := none } else session)), l⟩ := by
  refine h.update s _ (fun x hx room hseat => ?_) (fun room hseat hown => ?_)
    fun pending hjoin => ?_
  · exact (seats_exit_of hnodup (hseats room x ▸ hseat)).1
  · obtain ⟨hold, hne⟩ := seats_exit_of hnodup (hseats room s ▸ hseat)
    have hlodges := h.rooms s session room hses hold hown
    split
    next hcur =>
      have hroom : session.currentChannelId ≠ some room := by
        rw [hcur]
        simpa using (hne rfl).symm
      unfold Session.lodges at hlodges ⊢
      dsimp only
      split at hlodges
      next => exact absurd hlodges hroom
      next => exact hlodges
      next => exact .inr (hlodges.resolve_left hroom)
    next => exact hlodges
  · refine h.joinedRoom s session pending hses ?_
    split at hjoin <;> exact hjoin

/-! ### One lemma for each kind of act -/

omit [Unknown V] in
/-- A new socket is in its own room only. -/
theorem Lodged.opened (h : Lodged st.scene) (s : SocketId) (clientIp : String)
    (m : ChannelManager V) : Lodged ⟨m, Function.update st.scene.session s
      (some ⟨clientIp, none, false, none⟩),
      { st.lobby with rooms := Function.update st.lobby.rooms s (some [ownRoom s]) }⟩ := by
  refine h.update s _ (fun x hx room hseat => ?_) (fun room hseat hown => ?_) fun _ h => by cases h
  · dsimp only [Lobby.seats] at hseat
    rwa [Function.update_of_ne hx] at hseat
  · dsimp only [Lobby.seats] at hseat
    rw [Function.update_self] at hseat
    exact absurd (by simpa using hseat) hown

omit [Unknown V] in
/-- The handler asks for a room, and waits for it. -/
theorem Lodged.requested (h : Lodged st.scene)
    (hasks : st.Asks cfg input s session request resolves) :
    Lodged { st.scene.setSession s
      { session with joining := some ⟨request, .joiningRoom resolves⟩ } with
        lobby := if resolves then st.lobby.enter s request.channelId else st.lobby } := by
  have hbefore : ∀ room, st.lobby.seats room s = true → room ≠ ownRoom s →
      session.currentChannelId = some room := fun room hseat hown =>
    (Session.lodges_of_free hasks.free room).1 (h.rooms s session room hasks.found hseat hown)
  refine h.update s _ (fun x hx room hseat => ?_) (fun room hseat hown => ?_) ?_
  · split at hseat
    · rwa [Lobby.seats_enter, if_neg fun hall => hx hall.1] at hseat
    · exact hseat
  · rw [Session.lodges_of_joining rfl (by exact fun _ _ _ h => by cases h)]
    rcases resolves
    · exact .inl (hbefore room hseat hown)
    · by_cases hroom : room = request.channelId
      · exact .inr ⟨rfl, hroom.symm⟩
      · rw [if_pos rfl, Lobby.seats_enter, if_neg fun hall => hroom hall.2] at hseat
        exact .inl (hbefore room hseat hown)
  · rintro pending ⟨⟩
    exact hasks.outside

omit [Unknown V] in
/-- The handler is told that the channel is closed. -/
theorem Lodged.tombstone (h : Lodged st.scene) (hnodup : st.lobby.RoomsNodup)
    (henters : st.Enters cfg input s session request resolves) :
    Lodged ⟨st.channelManager, Function.update st.scene.session s
      (some { session with joining := RelayServer.waiting request (.leavingTombstone resolves) }),
      if request.joinedRoom then st.withdrawn s request resolves
      else if request.ack then st.lobby.tell s (.ack (.joined [] none [] true))
      else st.lobby⟩ := by
  have hwithdraw := @Lodged.withdraw V st st.channelManager s session request
    (.leavingTombstone resolves) resolves h hnodup (h.of_enters henters) rfl
    (fun _ _ _ h => by cases h) fun _ => by cases resolves <;> simp [Stage.holdsRoom]
  have hseats : ∀ room x, (if request.joinedRoom then st.withdrawn s request resolves
      else if request.ack then st.lobby.tell s (.ack (.joined [] none [] true))
      else st.lobby).seats room x = (st.withdrawn s request resolves).seats room x := by
    intro room x
    unfold withdrawn
    rcases request.joinedRoom
    · rcases request.ack <;> simp
    · rfl
  refine ⟨fun x session' room hses hseat hown => ?_, hwithdraw.joinedRoom⟩
  exact hwithdraw.rooms x session' room hses (hseats room x ▸ hseat) hown

omit [Unknown V] in
/-- The handler gets its way without a room to leave. -/
theorem Lodged.entered (h : Lodged st.scene) (helsewhere : Elsewhere st.core)
    (henters : st.Enters cfg input s session request resolves)
    (hstay : request.switchingChannels = false ∨ session.currentChannelId = none)
    (m : ChannelManager V) (messages : List (RelayPayload V)) (key : Option String)
    (roster : List ClientType) : Lodged ⟨m, Function.update st.scene.session s
      (some { session with currentChannelId := some request.channelId, joining := none }),
      st.lobby.finish s request messages key roster⟩ := by
  refine h.update s _ (fun x hx room hseat => ?_) (fun room hseat hown => ?_) fun _ h => by cases h
  · rwa [Lobby.seats_finish] at hseat
  · rw [Lobby.seats_finish] at hseat
    rw [Session.lodges_of_free rfl]
    have hcurrent : session.currentChannelId = none ∨
        session.currentChannelId = some request.channelId := by
      rcases hstay with hstay | hnone
      · exact (henters.entering.elsewhere (helsewhere s session henters.found)).2 hstay
      · exact .inl hnone
    rcases h.of_enters henters room hseat hown with hcur | ⟨-, hreq⟩
    · rcases hcurrent with hnone | hsame
      · rw [hnone] at hcur
        cases hcur
      · exact hsame.symm.trans hcur
    · exact congrArg some hreq

omit [Unknown V] in
/-- The handler gives up the previous channel, and waits for its room to be left. -/
theorem Lodged.switched (h : Lodged st.scene) (hnodup : st.lobby.RoomsNodup)
    (henters : st.Enters cfg input s session request resolves)
    (hswitch : request.switchingChannels = true) {previous : String}
    (hcur : session.currentChannelId = some previous) (m : ChannelManager V)
    (participant : Option Participant) (messages : List (RelayPayload V)) (key : Option String)
    (roster : List ClientType) : Lodged ⟨m, Function.update st.scene.session s
      (some { session with
        joining := some ⟨request, .leavingPrevious messages key roster resolves⟩ }),
      if resolves then (st.lobby.announceLeft s previous .leave participant).exit s previous
      else st.lobby.announceLeft s previous .leave participant⟩ := by
  have hjoined : request.joinedRoom = true := by
    rcases henters with ⟨hasks, hsame⟩ | ⟨hevent, hses, hjoin⟩
    · rw [hasks.switching, hsame] at hswitch
      simp at hswitch
    · rfl
  have hseat : ∀ {room x}, (if resolves then
        (st.lobby.announceLeft s previous .leave participant).exit s previous
      else st.lobby.announceLeft s previous .leave participant).seats room x = true →
      st.lobby.seats room x = true ∧ (resolves = true → x = s → room ≠ previous) := by
    intro room x hseat
    rcases resolves
    · exact ⟨by simpa using hseat, fun hres => by cases hres⟩
    · rw [if_pos rfl, Lobby.seats_exit (hnodup.announceLeft _ _ _ _), Lobby.seats_announceLeft]
        at hseat
      split at hseat
      · cases hseat
      next hnot => exact ⟨hseat, fun _ hx hroom => hnot ⟨hx, hroom⟩⟩
  refine h.update s _ (fun x hx room hafter => (hseat hafter).1) (fun room hafter hown => ?_) ?_
  · obtain ⟨hold, hne⟩ := hseat hafter
    have hbefore := h.of_enters henters room hold hown
    rcases resolves
    · rw [Session.lodges_of_joining rfl (by exact fun _ _ _ h => by cases h)]
      exact hbefore.imp_right fun hreq => ⟨rfl, hreq.2⟩
    · refine hbefore.resolve_left (fun hroom => ?_) |>.2
      exact hne rfl rfl (Option.some.inj (hroom.symm.trans hcur))
  · rintro pending ⟨⟩
    exact hjoined

omit [Unknown V] in
/-- The handler ends once it is out of the requested room. -/
theorem Lodged.ended (h : Lodged st.scene) (hses : st.sessions.get? s = some session)
    {stage : Stage V} (hjoin : session.joining = some ⟨request, stage⟩)
    (hplain : ∀ messages key roster, stage ≠ .leavingPrevious messages key roster true)
    (hout : stage.holdsRoom = false) (m : ChannelManager V) {l : Lobby V}
    (hseats : ∀ room x, l.seats room x = st.lobby.seats room x) :
    Lodged ⟨m, Function.update st.scene.session s (some { session with joining := none }),
      l⟩ := by
  refine h.update s _ (fun x _ room hseat => hseats room x ▸ hseat) (fun room hseat hown => ?_)
    fun _ h => by cases h
  have hlodges := h.rooms s session room hses (hseats room s ▸ hseat) hown
  rw [Session.lodges_of_joining hjoin hplain] at hlodges
  rw [Session.lodges_of_free rfl]
  exact hlodges.resolve_right fun hreq => by simp [hout] at hreq

omit [Unknown V] in
/-- The switch is complete. -/
theorem Lodged.completed (h : Lodged st.scene) (hses : st.sessions.get? s = some session)
    {messages : List (RelayPayload V)} {key : Option String} {roster : List ClientType}
    (hjoin : session.joining = some ⟨request, .leavingPrevious messages key roster true⟩)
    (m : ChannelManager V) : Lodged ⟨m, Function.update st.scene.session s
      (some { session with currentChannelId := some request.channelId, joining := none }),
      st.lobby.finish s request messages key roster⟩ := by
  refine h.update s _ (fun x hx room hseat => ?_) (fun room hseat hown => ?_) fun _ h => by cases h
  · rwa [Lobby.seats_finish] at hseat
  · rw [Lobby.seats_finish] at hseat
    have hlodges := h.rooms s session room hses hseat hown
    unfold Session.lodges at hlodges
    rw [hjoin] at hlodges
    exact congrArg some hlodges

omit [Unknown V] in
/-- Outside `leavingPrevious` with success, a waiting handler lodges in its current room and, if
it has joined it, the requested one. -/
theorem Lodged.of_waiting (h : Lodged st.scene) (hses : st.sessions.get? s = some session)
    {stage : Stage V} (hjoin : session.joining = some ⟨request, stage⟩)
    (hplain : ∀ messages key roster, stage ≠ .leavingPrevious messages key roster true)
    (hholds : stage.holdsRoom = true → stage.joinedRoom = true) (room : String)
    (hseat : st.lobby.seats room s = true) (hown : room ≠ ownRoom s) :
    session.currentChannelId = some room ∨
      request.joinedRoom = true ∧ request.channelId = room := by
  have hlodges := h.rooms s session room hses hseat hown
  rw [Session.lodges_of_joining hjoin hplain] at hlodges
  refine hlodges.imp_right fun hreq => ⟨?_, hreq.2⟩
  exact (h.joinedRoom s session _ hses hjoin).trans (hholds hreq.1)

omit [Unknown V] in
/-- Where the `catch` block leaves the room, or the socket is gone. -/
theorem resolves_or_gone (hguard : st.keepsRoom input = false) {stage : Stage V}
    (hevent : input.event = .resumeJoin s resolves) (hses : st.sessions.get? s = some session)
    (hjoin : session.joining = some ⟨request, stage⟩)
    (hstage : (∃ error, stage = .leavingRefused error false) ∨ stage = .leavingTombstone false ∨
      ∃ messages key roster, stage = .leavingPrevious messages key roster false) :
    resolves = true ∨ st.lobby.rooms s = none := by
  rcases resolves
  · right
    rcases hsock : st.sockets.get? s with _ | socket
    · simp [lobby, hsock]
    · unfold keepsRoom at hguard
      rw [hevent] at hguard
      rcases hstage with ⟨error, rfl⟩ | rfl | ⟨messages, key, roster, rfl⟩ <;>
        simp [JsMap.has, hsock, hses, hjoin] at hguard
  · exact .inl rfl

/-- An act in which the `catch` block does not fail to leave a room keeps the sockets
lodged. -/
theorem Act.lodged (hact : Act cfg st input k) (hnodup : st.lobby.RoomsNodup)
    (helsewhere : Elsewhere st.core) (hguard : st.keepsRoom input = false)
    (h : Lodged st.scene) : Lodged k := by
  cases hact with
  | idle => exact h
  | turned => exact ⟨h.rooms, h.joinedRoom⟩
  | opened s clientIp => exact h.opened s clientIp _
  | requested s session request resolves hasks hcur => exact h.requested hasks
  | refusedJoin s session request resolves error henters =>
    refine h.withdraw hnodup (h.of_enters henters) rfl (fun _ _ _ h => by cases h) fun _ => ?_
    rcases resolves
    · exact .inr (.inl rfl)
    · exact .inl rfl
  | tombstone s session request resolves henters => exact h.tombstone hnodup henters
  | entered s session request resolves messages key roster henters hres hstay =>
    exact h.entered helsewhere henters hstay _ messages key roster
  | switched s session request resolves messages key roster previous henters hres hswitch hcur =>
    exact h.switched hnodup henters hswitch hcur _ _ messages key roster
  | completed s session request resolves messages key roster hevent hses hjoin =>
    exact h.completed hses hjoin _
  | ended s session request stage resolves hevent hses hjoin hstage =>
    refine h.ended hses hjoin ?_ ?_ _ fun _ _ => rfl
    · rcases hstage with ⟨error, rfl⟩ | rfl <;> exact fun _ _ _ h => by cases h
    · rcases hstage with ⟨error, rfl⟩ | rfl <;> rfl
  | reported s session request resolves hevent hses hjoin =>
    refine h.ended hses hjoin (fun _ _ _ h => by cases h) rfl _ fun room x => ?_
    rcases request.ack <;> simp
  | aborted s session request stage resolves hevent hses hjoin hstage =>
    have hjoined := h.joinedRoom s session _ hses hjoin
    have hlodges := h.of_waiting hses hjoin
      (by rcases hstage with rfl | ⟨error, rfl⟩ | rfl <;> exact fun _ _ _ h => by cases h)
      (by rcases hstage with rfl | ⟨error, rfl⟩ | rfl <;> simp [Stage.holdsRoom, Stage.joinedRoom])
    refine h.withdraw hnodup hlodges rfl (fun _ _ _ h => by cases h) fun hroom => ?_
    rcases hstage with rfl | hstage
    · rw [hjoined] at hroom
      cases hroom
    · exact (resolves_or_gone hguard hevent hses hjoin
        (hstage.imp_right .inl)).imp_right .inr
  | undone s session request resolves messages key roster hevent hses hjoin =>
    have hlodges := h.of_waiting hses hjoin (fun _ _ _ h => by cases h) fun _ => rfl
    refine h.withdraw hnodup hlodges rfl (fun _ _ _ h => by cases h) fun _ => ?_
    exact (resolves_or_gone hguard hevent hses hjoin
      (.inr (.inr ⟨messages, key, roster, rfl⟩))).imp_right .inr
  | messaged s session payload =>
    have hrouted : Lodged { st.scene with
        manager := (st.routeCall cfg input s session payload).2 } := ⟨h.rooms, h.joinedRoom⟩
    exact hrouted.relieve _ _
  | left s session channelId hevent hleaves =>
    exact h.exit hnodup hleaves.found channelId fun room x => Lobby.seats_announceLeft ..
  | closed s session channelId participant hevent hleaves =>
    exact h.exit hnodup hleaves.found channelId fun room x => Lobby.seats_announce ..
  | dropped s => exact h.drop _ s

/-- In a run in which no `catch` block fails to leave a room, the rooms follow the
sessions. -/
theorem lodged_after {inputs : List (Input V)}
    (hguard : Runs.Guarded (step cfg) (fun st input => st.keepsRoom input = false) (create cfg)
      inputs) : Lodged (RelayServer.after cfg inputs).scene := by
  refine Runs.Guarded.run_reached (I := fun st : RelayServer V => Lodged st.scene)
    ⟨fun s session room hses => ?_, fun s session pending hses => ?_⟩ (fun inputs input h hok => ?_)
    hguard
  · cases hses
  · cases hses
  · exact (act_of_step cfg (managed_after cfg inputs) input).lodged (roomsNodup_after cfg inputs)
      (elsewhere_after cfg inputs) hok h

end Lodged

end QrlBackend
