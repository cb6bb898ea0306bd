import QrlBackend.Views

/-!
# Views over runs

Each act of the relay is a move of its `attendance`, or two : a switching join leaves the
previous channel and enters the requested one. So the agreement holds after every run
without a misleading step, and when no join is suspended the views are right
(`views_agree`). In `view_misled` a wallet leaves "c" while a dapp that has its seat there
waits to report it, and the dapp then waits for a wallet that is gone.
-/

set_option autoImplicit false

namespace QrlBackend

variable {V : Type}

open ChannelManager RelayServer

/-! ## What the guard says of a join -/

section Joining

variable {cfg : Config} {st : RelayServer V} {input : Input V} {s : SocketId}
  {session : Session V} {request : JoinRequest} {resolves : Bool}

/-- A join of the current channel switches nothing and has no room to leave. -/
theorem RelayServer.Asks.request_eq (h : st.Asks cfg input s session request resolves)
    (hcur : session.currentChannelId = some request.channelId) :
    request = ⟨request.channelId, request.clientType, request.publicKey, false, false,
      request.ack⟩ := by
  have hswitch : request.switchingChannels = false := by
    rw [h.switching, hcur]
    simp
  have houtside := h.outside
  obtain ⟨channelId, clientType, publicKey, switchingChannels, joinedRoom, ack⟩ := request
  dsimp only at hswitch houtside ⊢
  rw [hswitch, houtside]

theorem RelayServer.Enters.entering_eq (h : st.Enters cfg input s session request resolves) :
    st.entering cfg input = some (s, session, request, resolves) := by
  cases h with
  | rejoin hasks hcur =>
    have hrequest := hasks.request_eq hcur
    obtain ⟨payload, hevent, hvalid⟩ := hasks.event
    obtain ⟨htype, hkey⟩ := hasks.parsed payload _ _ hevent
    obtain ⟨socket, hsock⟩ := Option.isSome_iff_exists.1 hasks.connected
    have hcapacity := hasks.capacity
    have hallowed := hasks.allowed
    unfold RelayServer.entering
    rw [hevent]
    dsimp only
    rw [hsock, hasks.found, hvalid, htype, hkey]
    dsimp only
    rw [if_pos (by simp [hasks.free, hallowed, hcur, hcapacity]), ← hrequest]
  | roomJoined hevent hses hjoin =>
    unfold RelayServer.entering
    rw [hevent]
    dsimp only
    rw [hses, Option.bind_some, hjoin]

theorem RelayServer.Enters.switch_eq (h : st.Enters cfg input s session request resolves) :
    session.switch = none := by
  cases h with
  | rejoin hasks => exact switch_of_free hasks.free
  | roomJoined _ _ hjoin => exact switch_of_joining hjoin fun _ _ _ _ => nofun

/-- A handler that joined the requested room is not in the channel. -/
theorem RelayServer.Enters.outside (h : st.Enters cfg input s session request resolves)
    (hapart : Apart st.scene) (hjoined : request.joinedRoom = true) :
    session.currentChannelId ≠ some request.channelId :=
  hapart.of_enters h .undoing ⟨request, .undoing⟩ (by rw [RelayServer.waiting, if_pos hjoined])

end Joining

/-! ## Seats that nobody is shown -/

section Same

variable {st : RelayServer V} {s : SocketId} {session : Session V} {request : JoinRequest}
  {resolves : Bool}

theorem isSome_rooms_exit {l : Lobby V} {room : String} {x : SocketId} :
    ((l.exit s room).rooms x).isSome = (l.rooms x).isSome := by
  unfold Lobby.exit
  dsimp only
  rw [Function.update_apply]
  split
  next hx => rw [hx, Option.isSome_map]
  next => rfl

theorem isSome_rooms_withdrawn {x : SocketId} :
    ((st.withdrawn s request resolves).rooms x).isSome = (st.lobby.rooms x).isSome := by
  unfold withdrawn
  split
  · exact isSome_rooms_exit
  · rfl

theorem view_withdrawn {x : SocketId} {t : ClientType} :
    (st.withdrawn s request resolves).view x t = st.lobby.view x t := by
  unfold withdrawn
  split <;> rfl

/-- A handler withdraws from the requested room, where its socket has no seat. -/
theorem fades_of_withdrawal (hnodup : st.lobby.RoomsNodup)
    (hses : st.sessions.get? s = some session) {stage : Stage V}
    (hstage : ∀ messages key roster resolves,
      stage ≠ .leavingPrevious messages key roster resolves) {m : ChannelManager V} {l : Lobby V}
    (hsits : ∀ id x t, Sits m id x t → Sits st.channelManager id x t)
    (hself : ∀ id t, Sits m id s t → session.switch = none ∧
      (request.joinedRoom = true → id ≠ request.channelId))
    (hrooms : l.rooms = (st.withdrawn s request resolves).rooms)
    (hview : ∀ id x t u, Sits m id x t → l.view x u = st.lobby.view x u)
    (hcompany : ∀ id x y, Sits m id x.1 x.2 → (st.lobby.rooms x.1).isSome = true → y ≠ x →
      Sits st.channelManager id y.1 y.2 → st.scene.attendance.Stays y → Sits m id y.1 y.2) :
    Presence.Fades st.scene.attendance (Scene.mk m (Function.update st.scene.session s
      (some { session with joining := RelayServer.waiting request stage })) l).attendance := by
  have honline : ∀ {x}, (l.rooms x).isSome = true → (st.lobby.rooms x).isSome = true := by
    intro x hx
    rwa [hrooms, isSome_rooms_withdrawn] at hx
  refine ⟨fun id x => hsits id x.1 x.2, fun _ _ _ => honline, fun id x hx _ hseat => ?_,
    fun id x hx => pending_congr ?_, fun id x hx _ _ => .inl (hview id x.1 x.2 _ hx),
    fun id x y hx hon hne hy hstays => hcompany id x y hx (honline hon) hne hy hstays⟩
  · change l.seats id x.1 = true
    rw [Lobby.seats_congr (congrFun hrooms x.1), seats_withdrawn hnodup, if_neg]
    · exact hseat
    · rintro ⟨hjoined, -, hxs, hid⟩
      exact (hself id x.2 (hxs ▸ hx)).2 hjoined hid
  · dsimp only
    rw [Function.update_apply]
    split
    next hxs =>
      rw [hxs]
      change Session.switch _ = (st.sessions.get? s).bind Session.switch
      rw [hses, switch_waiting session request hstage]
      exact (hself id x.2 (hxs ▸ hx)).1.symm
    next => rfl

end Same

section Acts

variable [Unknown V] {cfg : Config} {st : RelayServer V} {input : Input V} {k : Scene V}
  {s : SocketId} {session : Session V} {request : JoinRequest} {resolves : Bool}

omit [Unknown V] in
theorem move_of_opened (hplaced : Placed st.scene) {clientIp : String}
    (hnew : st.sessions.get? s = none) :
    Presence.Move st.scene.attendance (Scene.mk st.channelManager
      (Function.update st.scene.session s (some ⟨clientIp, none, false, none⟩))
      { st.lobby with
        rooms := Function.update st.lobby.rooms s (some [ownRoom s]) }).attendance := by
  have hne : ∀ {id x t}, Sits st.channelManager id x t → x ≠ s := by
    rintro id x t hsits rfl
    obtain ⟨session, hses, -⟩ := hplaced id x t hsits
    exact absurd (hses.symm.trans hnew) nofun
  refine move_of_same (fun _ _ _ => Iff.rfl) (fun id x t hx honline => ?_)
    (fun id x t hx _ hseat => ?_) (fun id x t hx => ?_) fun _ _ => rfl
  · dsimp only at honline
    rwa [Function.update_of_ne (hne hx)] at honline
  · rw [← hseat]
    exact Lobby.seats_congr (Function.update_of_ne (hne hx) _ _) id
  · dsimp only
    rw [Function.update_of_ne (hne hx)]
    rfl

omit [Unknown V] in
theorem move_of_requested (hasks : st.Asks cfg input s session request resolves) :
    Presence.Move st.scene.attendance ({ st.scene.setSession s
      { session with joining := some ⟨request, .joiningRoom resolves⟩ } with
        lobby := if resolves then st.lobby.enter s request.channelId
          else st.lobby } : Scene V).attendance := by
  have hswitch := switch_of_free hasks.free
  refine move_of_same (fun _ _ _ => Iff.rfl) (fun id x t hx honline => ?_)
    (fun id x t hx honline hseat => ?_) (fun id x t hx => ?_) fun x u => ?_
  · dsimp only at honline
    split at honline
    · unfold Lobby.enter at honline
      dsimp only at honline
      rw [Function.update_apply] at honline
      split at honline
      next hxs => rwa [Option.isSome_map, ← hxs] at honline
      next => exact honline
    · exact honline
  · dsimp only
    split
    · rw [Lobby.seats_enter]
      split
      next hall =>
        unfold Lobby.seats at hseat
        rw [hall.1] at hseat
        cases hrooms : st.lobby.rooms s with
        | none =>
          rw [hrooms] at hseat
          cases hseat
        | some rooms => rfl
      next => exact hseat
    · exact hseat
  · exact switch_update hasks.found (hswitch ▸ rfl) x
  · dsimp only
    split <;> rfl

/-- In a channel with a connected participant, the call of `channelManager.join` drops
nobody. -/
theorem kept_of_displaces (hmanaged : Managed cfg st.channelManager) {now : ℕ}
    (hguard : st.displaces now s session request = false) {x y : SocketId × ClientType}
    (hx : Sits st.channelManager request.channelId x.1 x.2)
    (honline : (st.lobby.rooms x.1).isSome = true)
    (hy : Sits st.channelManager request.channelId y.1 y.2) :
    ∃ t, Sits (st.joinCall now s session request).2 request.channelId y.1 t := by
  by_contra hgone
  have hconn : st.sockets.has x.1 = true := by simpa [lobby, JsMap.has] using honline
  have htrue : st.displaces now s session request = true := by
    unfold displaces
    rw [Bool.and_eq_true]
    refine ⟨List.any_eq_true.2 ⟨x, (mem_attendees hmanaged).2 hx, hconn⟩,
      List.any_eq_true.2 ⟨y, (mem_attendees hmanaged).2 hy, ?_⟩⟩
    dsimp only
    rw [Bool.not_eq_true']
    by_contra hany
    obtain ⟨⟨z, u⟩, hz, hzy⟩ := List.any_eq_true.1 (eq_true_of_ne_false hany)
    obtain rfl : z = y.1 := by simpa using hzy
    exact hgone ⟨u, (mem_attendees (hmanaged.join ..)).1 hz⟩
  rw [hguard] at htrue
  cases htrue

/-- A refused join that drops nobody is shown to nobody, and one that drops a stale
participant takes no company from anybody connected. -/
theorem move_of_refused (hmanaged : Managed cfg st.channelManager) (hplaced : Placed st.scene)
    (hapart : Apart st.scene) (hnodup : st.lobby.RoomsNodup) {error : String}
    (henters : st.Enters cfg input s session request resolves)
    (hres : (st.joinCall input.now s session request).1 = .failure error)
    (hguard : st.displaces input.now s session request = false) :
    Presence.Move st.scene.attendance (Scene.mk (st.joinCall input.now s session request).2
      (Function.update st.scene.session s (some { session with
        joining := RelayServer.waiting request (.leavingRefused error resolves) }))
      (st.withdrawn s request resolves)).attendance := by
  have hsits : ∀ id x t, Sits (st.joinCall input.now s session request).2 id x t →
      Sits st.channelManager id x t := by
    intro id x t hx
    rcases sits_refused hmanaged.mapSound hres with hsame | ⟨e, -, -, hsame⟩
    · exact (hsame id x t).1 hx
    · exact ((hsame id x t).1 hx).1
  refine .fades (fades_of_withdrawal hnodup henters.found (by exact fun _ _ _ _ => nofun) hsits
    (fun id t hs => ⟨henters.switch_eq, fun hjoined hid => ?_⟩) rfl
    (fun _ _ _ _ _ => view_withdrawn) fun id x y hx honline hne hy _ => ?_)
  · refine henters.outside hapart hjoined ?_
    rw [← hid, ← henters.place_eq]
    exact hplaced.place_eq henters.found (hsits id s t hs)
  · rcases sits_refused hmanaged.mapSound hres with hsame | ⟨e, -, -, hsame⟩
    · exact (hsame id y.1 y.2).2 hy
    · refine (hsame id y.1 y.2).2 ⟨hy, ?_⟩
      rintro ⟨rfl, rfl⟩
      obtain ⟨t, hkept⟩ := kept_of_displaces hmanaged hguard (hsits _ _ _ hx) honline hy
      exact ((hsame _ _ _).1 hkept).2 ⟨rfl, rfl⟩

/-! ## Joins -/

section Admission

variable {now : ℕ} {messages : List (RelayPayload V)} {key : Option String}
  {roster : List ClientType}

omit [Unknown V] in
theorem sits_of_success
    (hres : (st.joinCall now s session request).1 = .success messages key roster false) :
    Sits (st.joinCall now s session request).2 request.channelId s request.clientType := by
  obtain ⟨r, c, key', stale, hadmitted⟩ := admitted_of_success hres
  exact ⟨r, .joined hadmitted⟩

omit [Unknown V] in
/-- Whoever else sits somewhere after a join sat there before. -/
theorem sits_before (hsound : MapSound st.channelManager)
    (hres : (st.joinCall now s session request).1 = .success messages key roster false)
    {id : String} {x : SocketId} {t : ClientType} (hx : x ≠ s)
    (hsits : Sits (st.joinCall now s session request).2 id x t) :
    Sits st.channelManager id x t := by
  obtain ⟨r, c, key', stale, hadmitted⟩ := admitted_of_success hres
  rw [sits_admitted hadmitted hsound] at hsits
  split at hsits
  · exact (hsits.resolve_left fun hall => hx hall.1).1
  · exact hsits

omit [Unknown V] in
theorem sits_elsewhere (hsound : MapSound st.channelManager)
    (hres : (st.joinCall now s session request).1 = .success messages key roster false)
    {id : String} {x : SocketId} {t : ClientType} (hid : id ≠ request.channelId) :
    Sits (st.joinCall now s session request).2 id x t ↔ Sits st.channelManager id x t := by
  obtain ⟨r, c, key', stale, hadmitted⟩ := admitted_of_success hres
  rw [sits_admitted hadmitted hsound, if_neg hid]

omit [Unknown V] in
/-- A socket that joined sits in the requested role only. -/
theorem role_eq_of_success
    (hres : (st.joinCall now s session request).1 = .success messages key roster false)
    {t : ClientType} (hsits : Sits (st.joinCall now s session request).2 request.channelId s t) :
    t = request.clientType :=
  hsits.role_eq (sits_of_success hres)

/-- The others in the channel are in the other role, and on the roster. -/
theorem counterparty_of_success (hmanaged : Managed cfg st.channelManager)
    (hres : (st.joinCall now s session request).1 = .success messages key roster false)
    {x : SocketId} {t : ClientType} (hx : x ≠ s)
    (hsits : Sits (st.joinCall now s session request).2 request.channelId x t) :
    t = request.clientType.other ∧ roster.contains request.clientType.other = true := by
  have hrole : t = request.clientType.other := ClientType.eq_other_of_ne fun hrole =>
    hx ((hrole ▸ hsits).socket_eq (hmanaged.join ..) (sits_of_success hres))
  subst hrole
  exact ⟨rfl, List.contains_iff_mem.2 ((mem_roster_iff hres).2 ⟨x, hx, hsits⟩)⟩

/-- No join in the channel will be undone. -/
theorem stays_of_doubtful (hmanaged : Managed cfg st.channelManager) {t : ClientType} {id : String}
    (hguard : st.doubtful t id = false) {x : SocketId × ClientType}
    (hx : Sits st.channelManager id x.1 x.2) (hne : x.2 ≠ t) : st.scene.attendance.Stays x := by
  intro p hp
  obtain ⟨⟨roster, resolves⟩, hswitch, rfl⟩ := Option.map_eq_some_iff.1 hp
  dsimp only
  by_contra hresolves
  have hswitch : st.switchOf x.1 = some (roster, resolves) := hswitch
  have htrue : st.doubtful t id = true := by
    refine List.any_eq_true.2 ⟨x, (mem_attendees hmanaged).2 hx, ?_⟩
    simpa [hne, hswitch] using hresolves
  rw [hguard] at htrue
  cases htrue

/-- A listed counterparty sits in the channel, and stays. -/
theorem exists_of_listed (hmanaged : Managed cfg st.channelManager)
    (hres : (st.joinCall now s session request).1 = .success messages key roster false)
    (hguard : st.doubtful request.clientType request.channelId = false)
    (hlisted : roster.contains request.clientType.other = true) :
    ∃ x, x ≠ s ∧ Sits (st.joinCall now s session request).2 request.channelId x
      request.clientType.other ∧ st.scene.attendance.Stays (x, request.clientType.other) := by
  obtain ⟨x, hx, hsits⟩ := (mem_roster_iff hres).1 (List.contains_iff_mem.1 hlisted)
  refine ⟨x, hx, hsits, stays_of_doubtful hmanaged hguard
    (sits_before hmanaged.mapSound hres hx hsits) (ClientType.other_ne _)⟩

/-- Whoever still has to report a roster in the channel has the new participant on it. -/
theorem expected_of_success (hmanaged : Managed cfg st.channelManager)
    (hres : (st.joinCall now s session request).1 = .success messages key roster false)
    (hguard : st.reporting s request.channelId
      (fun roster => !roster.contains request.clientType) = false)
    {x : SocketId × ClientType} (hx : x.1 ≠ s)
    (hsits : Sits (st.joinCall now s session request).2 request.channelId x.1 x.2)
    (honline : (st.lobby.rooms x.1).isSome = true) {p : Presence.Pending}
    (hpending : st.scene.attendance.pending x = some p) (hsettles : p.settles = true) :
    p.listed = true := by
  obtain ⟨⟨roster', resolves'⟩, hswitch, rfl⟩ := Option.map_eq_some_iff.1 hpending
  dsimp only at hsettles ⊢
  subst hsettles
  have hbefore := sits_before hmanaged.mapSound hres hx hsits
  have hold := settles_of_reporting hmanaged hguard hx hbefore honline hswitch
  have hrole : x.2.other = request.clientType := by
    rw [(counterparty_of_success hmanaged hres hx hsits).1]
    cases request.clientType <;> rfl
  rw [hrole]
  simpa using hold

end Admission

section Shown

variable {messages : List (RelayPayload V)} {key : Option String} {roster : List ClientType}

/-- A join that ends at once is shown to the others in the turn it takes its seat. -/
theorem joins_of_entered (hmanaged : Managed cfg st.channelManager) (hplaced : Placed st.scene)
    (helsewhere : Elsewhere st.core) (henters : st.Enters cfg input s session request resolves)
    (hres : (st.joinCall input.now s session request).1 = .success messages key roster false)
    (hstay : request.switchingChannels = false ∨ session.currentChannelId = none)
    (hguard : st.joinMisleads input.now s session request resolves = false) :
    Presence.Joins st.scene.attendance (Scene.mk (st.joinCall input.now s session request).2
      (Function.update st.scene.session s (some { session with
        currentChannelId := some request.channelId, joining := none }))
      (st.lobby.finish s request messages key roster)).attendance (s, request.clientType)
      request.channelId (roster.contains request.clientType.other) := by
  have hnone : (if request.switchingChannels then session.currentChannelId else none) = none := by
    rcases hstay with hstay | hnone
    · rw [hstay]
      rfl
    · rw [hnone, ite_self]
  unfold joinMisleads at hguard
  rw [hres] at hguard
  dsimp only at hguard
  rw [hnone] at hguard
  simp only [Bool.or_eq_false_iff] at hguard
  obtain ⟨⟨hroom, hreporting⟩, hconnected, hoverheard⟩ := hguard
  have hold : ∀ id t, Sits st.channelManager id s t → id = request.channelId :=
    fun _ _ => hplaced.eq_of_stay helsewhere henters hstay
  have hbefore := fun {id x t} => @sits_before V st s session request input.now messages key roster
    hmanaged.mapSound hres id x t
  have hnew : ∀ {id t}, Sits (st.joinCall input.now s session request).2 id s t →
      id = request.channelId ∧ t = request.clientType := by
    intro id t hs
    by_cases hid : id = request.channelId
    · subst hid
      exact ⟨rfl, role_eq_of_success hres hs⟩
    · exact absurd (hold id t ((sits_elsewhere hmanaged.mapSound hres hid).1 hs)) hid
  have hne : ∀ {id} {x : SocketId × ClientType},
      Sits (st.joinCall input.now s session request).2 id x.1 x.2 →
      x ≠ (s, request.clientType) → x.1 ≠ s := by
    rintro id ⟨x, u⟩ hx hxs rfl
    exact hxs (Prod.ext rfl (hnew hx).2)
  have hconn : (st.lobby.rooms s).isSome = true → st.sockets.has s = true := by
    simp [lobby, JsMap.has]
  refine ⟨sits_of_success hres, fun id => hold id _, fun id x hnot hx => ?_,
    fun id x hid _ hx => (sits_elsewhere hmanaged.mapSound hres hid).2 hx, fun _ _ _ _ hon => ?_,
    fun _ _ _ _ _ hseat => ?_, fun hon => ?_, ?_, fun id x hxs hx => pending_congr ?_,
    fun hon => ?_, fun id x hx hon hxs hseat => ?_, fun id x hx hon hxs hseat => ?_,
    confined_of_overheard hmanaged hplaced hoverheard hold _, fun y _ hys hy => ?_,
    fun hon hlisted => ?_, fun x p hxs hx hon => ?_⟩
  · refine hbefore (hne hx fun hxs => ?_) hx
    subst hxs
    exact hnot ⟨(hnew hx).1, rfl⟩
  · rwa [Scene.attendance_online, Lobby.rooms_finish] at hon
  · rwa [Scene.attendance_hears, Lobby.seats_finish]
  · rw [Scene.attendance_online, Lobby.rooms_finish] at hon
    rw [Scene.attendance_hears, Lobby.seats_finish]
    simpa [hconn hon] using hroom
  · refine pending_eq_none.2 ?_
    dsimp only
    rw [Function.update_self]
    rfl
  · dsimp only
    rw [Function.update_of_ne (hne hx hxs)]
  · rw [Scene.attendance_online, Lobby.rooms_finish] at hon
    rw [hconn hon, Bool.true_and, Bool.or_eq_false_iff, Bool.not_eq_false'] at hconnected
    rw [Scene.attendance_view, Lobby.view_finish, if_pos rfl, if_pos ⟨hconnected.1, hon⟩]
  · rw [Scene.attendance_view, Lobby.view_finish, if_neg (hne hx hxs)]
    exact if_pos hseat
  · rw [Scene.attendance_view, Lobby.view_finish, if_neg (hne hx hxs)]
    exact if_neg hseat
  · exact (counterparty_of_success hmanaged hres (hne hy hys) hy).2
  · rw [Scene.attendance_online, Lobby.rooms_finish] at hon
    rw [hconn hon, Bool.true_and, Bool.or_eq_false_iff] at hconnected
    obtain ⟨y, hys, hy, hstays⟩ := exists_of_listed hmanaged hres hconnected.2 hlisted
    exact ⟨(y, _), fun hys' => hys (congrArg Prod.fst hys'), hy, hstays⟩
  · rw [Scene.attendance_online, Lobby.rooms_finish] at hon
    exact expected_of_success hmanaged hres hreporting (hne hx hxs) hx hon

omit [Unknown V] in
theorem Placed.eq_of_switching (h : Placed st.scene) (hses : st.sessions.get? s = some session)
    {resolves : Bool}
    (hjoin : session.joining = some ⟨request, .leavingPrevious messages key roster resolves⟩)
    {id : String} {t : ClientType} (hsits : Sits st.channelManager id s t) :
    id = request.channelId := by
  have hplace := h.place_eq hses hsits
  unfold Session.place at hplace
  rw [hjoin] at hplace
  exact (Option.some.inj hplace).symm

/-- A switching join that ends is shown to the others, and has its roster from when it took
its seat. -/
theorem joins_of_completed (hmanaged : Managed cfg st.channelManager) (hplaced : Placed st.scene)
    (hagree : Presence.Agree st.scene.attendance) (hses : st.sessions.get? s = some session)
    (hjoin : session.joining = some ⟨request, .leavingPrevious messages key roster true⟩)
    {t : ClientType} (hseat : Sits st.channelManager request.channelId s t)
    (hoverheard : st.overheard s request.channelId = false)
    (hack : (st.sockets.has s && !request.ack) = false) :
    Presence.Joins st.scene.attendance (Scene.mk st.channelManager
      (Function.update st.scene.session s (some { session with
        currentChannelId := some request.channelId, joining := none }))
      (st.lobby.finish s request messages key roster)).attendance (s, t) request.channelId
      (roster.contains t.other) := by
  have hold : ∀ id u, Sits st.channelManager id s u → id = request.channelId :=
    fun _ _ => hplaced.eq_of_switching hses hjoin
  have hne : ∀ {id} {x : SocketId × ClientType}, Sits st.channelManager id x.1 x.2 →
      x ≠ (s, t) → x.1 ≠ s := by
    rintro id ⟨x, u⟩ hx hxs rfl
    obtain rfl := hold id u hx
    exact hxs (Prod.ext rfl (hx.role_eq hseat))
  have hconn : (st.lobby.rooms s).isSome = true → st.sockets.has s = true := by
    simp [lobby, JsMap.has]
  have hpends : st.scene.attendance.pending (s, t) = some ⟨roster.contains t.other, true⟩ := by
    change Option.map _ (Option.bind (st.sessions.get? s) Session.switch) = _
    rw [hses, Option.bind_some, Session.switch, hjoin]
    rfl
  have houtlook : st.scene.attendance.outlook (s, t) = some (roster.contains t.other) := by
    rw [Presence.State.outlook, hpends]
    rfl
  refine ⟨hseat, fun id => hold id t, fun _ _ _ hx => hx, fun _ _ _ _ hx => hx,
    fun _ _ _ _ hon => ?_, fun _ _ _ _ _ hhears => ?_, fun hon => ?_, pending_eq_none.2 ?_,
    fun id x hxs hx => pending_congr ?_, fun hon => ?_, fun id x hx hon hxs hhears => ?_,
    fun id x hx hon hxs hhears => ?_, confined_of_overheard hmanaged hplaced hoverheard hold t,
    fun y hon hys hy => ?_, fun hon hlisted => ?_, fun x p hxs hx hon hp hsettles => ?_⟩
  · rwa [Scene.attendance_online, Lobby.rooms_finish] at hon
  · rwa [Scene.attendance_hears, Lobby.seats_finish]
  · rw [Scene.attendance_online, Lobby.rooms_finish] at hon
    rw [Scene.attendance_hears, Lobby.seats_finish]
    exact hagree.hears request.channelId (s, t) hseat hon
  · dsimp only
    rw [Function.update_self]
    rfl
  · dsimp only
    rw [Function.update_of_ne (hne hx hxs)]
  · rw [Scene.attendance_online, Lobby.rooms_finish] at hon
    rw [hconn hon, Bool.true_and, Bool.not_eq_false'] at hack
    rw [Scene.attendance_view, Lobby.view_finish, if_pos rfl, if_pos ⟨hack, hon⟩]
  · rw [Scene.attendance_view, Lobby.view_finish, if_neg (hne hx hxs)]
    exact if_pos hhears
  · rw [Scene.attendance_view, Lobby.view_finish, if_neg (hne hx hxs)]
    exact if_neg hhears
  · rw [Scene.attendance_online, Lobby.rooms_finish] at hon
    by_contra hlisted
    rw [eq_false_of_ne_true hlisted] at houtlook
    have hnone := (hagree.complete _ (s, t) y hseat hon houtlook hys hy).1
    rw [hpends] at hnone
    cases hnone
  · rw [Scene.attendance_online, Lobby.rooms_finish] at hon
    rw [hlisted] at houtlook
    exact hagree.sound _ (s, t) hseat hon houtlook
  · rw [Scene.attendance_online, Lobby.rooms_finish] at hon
    by_contra hlisted
    have hfalse : st.scene.attendance.outlook x = some false := by
      rw [Presence.State.outlook, hp]
      dsimp only
      rw [if_pos hsettles, eq_false_of_ne_true hlisted]
    have hnone := (hagree.complete _ x (s, t) hx hon hfalse (Ne.symm hxs) hseat).1
    rw [hp] at hnone
    cases hnone

/-- A switching join that ends without a seat is shown to those who have company anyway. -/
theorem haunts_of_completed (hmanaged : Managed cfg st.channelManager) (hplaced : Placed st.scene)
    (habsent : ∀ id t, ¬Sits st.channelManager id s t)
    (hoverheard : st.overheard s request.channelId = false)
    (hcompany : ((st.channelManager.attendees request.channelId).any fun (x, _) =>
      st.sockets.has x && (st.switchOf x).isNone &&
        !(st.channelManager.attendees request.channelId).any fun (y, _) =>
          y ≠ x && (st.switchOf y).all (·.2)) = false) :
    Presence.Haunts st.scene.attendance (Scene.mk st.channelManager
      (Function.update st.scene.session s (some { session with
        currentChannelId := some request.channelId, joining := none }))
      (st.lobby.finish s request messages key roster)).attendance (s, request.clientType)
      request.channelId := by
  have hne : ∀ {id} {x : SocketId × ClientType}, Sits st.channelManager id x.1 x.2 →
      x.1 ≠ s := by
    rintro id ⟨x, u⟩ hx rfl
    exact habsent id u hx
  refine ⟨fun _ _ => Iff.rfl, fun id => habsent id _, fun _ _ _ hon => ?_,
    fun _ _ _ _ hhears => ?_, fun id x hx => pending_congr ?_, fun id x hx hon hhears => ?_,
    fun id x hx hon hhears => ?_, confined_of_overheard hmanaged hplaced hoverheard
      (fun id t hs => absurd hs (habsent id t)) _, fun x hx hon hnone => ?_⟩
  · rwa [Scene.attendance_online, Lobby.rooms_finish] at hon
  · rwa [Scene.attendance_hears, Lobby.seats_finish]
  · dsimp only
    rw [Function.update_of_ne (hne hx)]
  · rw [Scene.attendance_view, Lobby.view_finish, if_neg (hne hx)]
    exact if_pos hhears
  · rw [Scene.attendance_view, Lobby.view_finish, if_neg (hne hx)]
    exact if_neg hhears
  · have hfalse := List.any_eq_false.1 hcompany x ((mem_attendees hmanaged).2 hx)
    have hconn : st.sockets.has x.1 = true := by
      simpa [scene, lobby, JsMap.has, Scene.attendance_online] using hon
    have hswitch : st.switchOf x.1 = none := pending_eq_none.1 hnone
    dsimp only at hfalse
    rw [hconn, hswitch] at hfalse
    simp only [Option.isNone_none, Bool.and_self, Bool.true_and, Bool.not_eq_true,
      Bool.not_eq_false'] at hfalse
    obtain ⟨y, hy, hyx⟩ := List.any_eq_true.1 hfalse
    rw [Bool.and_eq_true] at hyx
    refine ⟨y, fun heq => ?_, (mem_attendees hmanaged).1 hy, fun p hp => ?_⟩
    · rw [heq] at hyx
      simp at hyx
    · obtain ⟨⟨roster', resolves'⟩, hswitch', rfl⟩ := Option.map_eq_some_iff.1 hp
      have hstays := hyx.2
      rw [show st.switchOf y.1 = some (roster', resolves') from hswitch'] at hstays
      exact hstays

theorem move_of_completed (hmanaged : Managed cfg st.channelManager) (hplaced : Placed st.scene)
    (hagree : Presence.Agree st.scene.attendance) (hses : st.sessions.get? s = some session)
    (hjoin : session.joining = some ⟨request, .leavingPrevious messages key roster true⟩)
    (hguard : st.finishMisleads s request.channelId request.ack = false) :
    Presence.Move st.scene.attendance (Scene.mk st.channelManager
      (Function.update st.scene.session s (some { session with
        currentChannelId := some request.channelId, joining := none }))
      (st.lobby.finish s request messages key roster)).attendance := by
  unfold finishMisleads at hguard
  rw [Bool.or_eq_false_iff] at hguard
  obtain ⟨hoverheard, hguard⟩ := hguard
  split at hguard
  next htakes =>
    obtain ⟨⟨x, t⟩, hx, hxs⟩ := List.any_eq_true.1 htakes
    obtain rfl : x = s := by simpa using hxs
    exact .joins (joins_of_completed hmanaged hplaced hagree hses hjoin
      ((mem_attendees hmanaged).1 hx) hoverheard hguard)
  next htakes =>
    refine .haunts (haunts_of_completed hmanaged hplaced (fun id t hs => htakes ?_) hoverheard
      hguard)
    obtain rfl := hplaced.eq_of_switching hses hjoin hs
    exact List.any_eq_true.2 ⟨(s, t), (mem_attendees hmanaged).2 hs, by simp⟩

/-! ### Switches -/

section Switch

variable {previous : String} {l : Lobby V}

omit [Unknown V] in
theorem isSome_rooms_departed (l : Lobby V) (s : SocketId) (previous : String) (resolves : Bool)
    (participant : Option Participant) (x : SocketId) :
    ((if resolves then (l.announceLeft s previous .leave participant).exit s previous
      else l.announceLeft s previous .leave participant).rooms x).isSome = (l.rooms x).isSome := by
  split
  · rw [isSome_rooms_exit, Lobby.rooms_announceLeft]
  · rw [Lobby.rooms_announceLeft]

omit [Unknown V] in
theorem seats_departed (hnodup : l.RoomsNodup) (s : SocketId) (previous : String)
    (resolves : Bool) (participant : Option Participant) (id : String) (x : SocketId)
    (hnot : ¬(id = previous ∧ x = s)) :
    (if resolves then (l.announceLeft s previous .leave participant).exit s previous
      else l.announceLeft s previous .leave participant).seats id x = l.seats id x := by
  split
  · rw [Lobby.seats_exit (hnodup.announceLeft _ _ _ _), if_neg fun hall => hnot hall.symm,
      Lobby.seats_announceLeft]
  · rw [Lobby.seats_announceLeft]

omit [Unknown V] in
theorem Placed.eq_previous (h : Placed st.scene)
    (henters : st.Enters cfg input s session request resolves)
    (hcur : session.currentChannelId = some previous) {id : String} {t : ClientType}
    (hsits : Sits st.channelManager id s t) : id = previous := by
  have hplace := h.place_eq henters.found hsits
  rw [henters.place_eq, hcur] at hplace
  exact (Option.some.inj hplace).symm

/-- A switching join leaves the previous channel, and its room is told. -/
theorem move_of_switched (hmanaged : Managed cfg st.channelManager) (hplaced : Placed st.scene)
    (hres : (st.joinCall input.now s session request).1 = .success messages key roster false)
    (hne : previous ≠ request.channelId) (hguard : st.departureMisleads s previous = false)
    (hrooms : ∀ x, (l.rooms x).isSome = (st.lobby.rooms x).isSome)
    (hseats : ∀ id x, ¬(id = previous ∧ x = s) → l.seats id x = st.lobby.seats id x)
    (hview : ∀ x t, l.view x t = (st.lobby.announceLeft s previous .leave
      ((st.joinCall input.now s session request).2.leave input.now s previous).1).view x t) :
    Presence.Move st.scene.attendance (Scene.mk
      (st.channelManager.leave input.now s previous).2 st.scene.session l).attendance := by
  have hsits := fun id x t => @sits_leave V st.channelManager id x t hmanaged.mapSound input.now s
    previous
  have hjoined : Managed cfg (st.joinCall input.now s session request).2 := hmanaged.join ..
  have htold : ((st.joinCall input.now s session request).2.leave input.now s
      previous).1.isSome = true ↔ ∃ t, Sits st.channelManager previous s t :=
    (isSome_leave hjoined input.now previous).trans
      (exists_congr fun t => sits_elsewhere hmanaged.mapSound hres hne)
  refine move_of_departure hmanaged hplaced hguard hsits (fun id x t _ honline => ?_)
    (fun id x t hx _ hseat => ?_) (fun _ _ _ _ => rfl) htold fun id x t u _ _ => ?_
  · exact (hrooms x).symm.trans honline
  · exact (hseats id x ((hsits id x t).1 hx).2).trans hseat
  · rw [hview, Lobby.view_announceLeft _ _ _ _ _ (by decide : PresenceEvent.leave ≠ .join)]

/-- Then it takes its seat in the requested channel, and is not shown yet. -/
theorem enters_of_switched (hmanaged : Managed cfg st.channelManager) (hplaced : Placed st.scene)
    (henters : st.Enters cfg input s session request resolves)
    (hres : (st.joinCall input.now s session request).1 = .success messages key roster false)
    (hcur : session.currentChannelId = some previous) (hne : previous ≠ request.channelId)
    (hroom : (st.sockets.has s && !st.lobby.seats request.channelId s) = false)
    (hreporting : st.reporting s request.channelId
      (fun roster => !roster.contains request.clientType) = false)
    (hguard : (if resolves then st.sockets.has s && st.doubtful request.clientType request.channelId
      else st.displaces input.now s session request) = false)
    (hrooms : ∀ x, (l.rooms x).isSome = (st.lobby.rooms x).isSome)
    (hseats : ∀ id x, ¬(id = previous ∧ x = s) → l.seats id x = st.lobby.seats id x) :
    Presence.Enters
      (Scene.mk (st.channelManager.leave input.now s previous).2 st.scene.session l).attendance
      (Scene.mk ((st.joinCall input.now s session request).2.leave input.now s previous).2
        (Function.update st.scene.session s (some { session with
          joining := some ⟨request, .leavingPrevious messages key roster resolves⟩ })) l).attendance
      (s, request.clientType) request.channelId
      ⟨roster.contains request.clientType.other, resolves⟩ := by
  have hleft := fun {id x t} => @sits_leave V st.channelManager id x t hmanaged.mapSound input.now
    s previous
  have hafter := fun {id x t} => @sits_leave V (st.joinCall input.now s session request).2 id x t
    (hmanaged.join ..).mapSound input.now s previous
  have habsent : ∀ {id t}, ¬Sits (st.channelManager.leave input.now s previous).2 id s t :=
    fun hs => (hleft.1 hs).2 ⟨hplaced.eq_previous henters hcur (hleft.1 hs).1, rfl⟩
  have hnew : ∀ {id t}, Sits ((st.joinCall input.now s session request).2.leave input.now s
      previous).2 id s t → id = request.channelId ∧ t = request.clientType := by
    intro id t hs
    obtain ⟨hs, hnot⟩ := hafter.1 hs
    by_cases hid : id = request.channelId
    · subst hid
      exact ⟨rfl, role_eq_of_success hres hs⟩
    · have hbefore := (sits_elsewhere hmanaged.mapSound hres hid).1 hs
      exact absurd ⟨hplaced.eq_previous henters hcur hbefore, rfl⟩ hnot
  have hother : ∀ {id} {x : SocketId × ClientType}, Sits ((st.joinCall input.now s session
      request).2.leave input.now s previous).2 id x.1 x.2 → x ≠ (s, request.clientType) →
      x.1 ≠ s := by
    rintro id ⟨x, u⟩ hx hxs rfl
    exact hxs (Prod.ext rfl (hnew hx).2)
  have hold : ∀ {id} {x : SocketId × ClientType}, Sits ((st.joinCall input.now s session
      request).2.leave input.now s previous).2 id x.1 x.2 → x.1 ≠ s →
      Sits st.channelManager id x.1 x.2 := fun hx hxs =>
    sits_before hmanaged.mapSound hres hxs (hafter.1 hx).1
  have honline : ∀ {x}, (l.rooms x).isSome = true → (st.lobby.rooms x).isSome = true :=
    fun {x} hx => (hrooms x).symm.trans hx
  have hconn : (st.lobby.rooms s).isSome = true → st.sockets.has s = true := by
    simp [lobby, JsMap.has]
  refine ⟨hafter.2 ⟨sits_of_success hres, fun hall => hne hall.1.symm⟩,
    fun _ hs => absurd hs habsent, fun id x hnot hx => ?_, fun id x hid hxs hx => ?_,
    fun _ _ _ _ hon => hon, fun _ _ _ _ _ hhears => hhears, fun hon => ?_, ?_,
    fun id x hxs hx => pending_congr ?_, fun _ _ _ _ _ _ => rfl, fun y _ _ hys hy => ?_,
    fun hsettles hon hlisted => ?_, fun x y hx hon hxs hyx hy hstays => ?_,
    fun x p hxs hx hon => ?_⟩
  · have hxs : x.1 ≠ s := by
      refine hother hx fun hxs => ?_
      subst hxs
      exact hnot ⟨(hnew hx).1, rfl⟩
    exact hleft.2 ⟨hold hx hxs, fun hall => hxs hall.2⟩
  · obtain ⟨hx, hnot⟩ := hleft.1 hx
    exact hafter.2 ⟨(sits_elsewhere hmanaged.mapSound hres hid).2 hx, hnot⟩
  · rw [Scene.attendance_hears]
    refine (hseats _ _ fun hall => hne hall.1.symm).trans ?_
    simpa [hconn (honline hon)] using hroom
  · change Option.map _ (Option.bind (Function.update st.scene.session s _ s) _) = _
    rw [Function.update_self]
    rfl
  · dsimp only
    rw [Function.update_of_ne (hother hx hxs)]
  · exact (counterparty_of_success hmanaged hres (hother hy hys) (hafter.1 hy).1).2
  · dsimp only at hsettles hlisted
    rw [if_pos hsettles, hconn (honline hon), Bool.true_and] at hguard
    obtain ⟨y, hys, hy, hstays⟩ := exists_of_listed hmanaged hres hguard hlisted
    exact ⟨(y, _), fun hys' => hys (congrArg Prod.fst hys'),
      hafter.2 ⟨hy, fun hall => hys hall.2⟩, hstays⟩
  · by_cases hresolves : resolves = true
    · exact .inr hresolves
    · rw [if_neg hresolves] at hguard
      obtain ⟨hy, -⟩ := hleft.1 hy
      have hys : y.1 ≠ s := by
        rintro hys
        rw [hys] at hy
        exact hne (hplaced.eq_previous henters hcur hy).symm
      obtain ⟨t, hkept⟩ := kept_of_displaces hmanaged hguard (hold hx (hother hx hxs))
        (honline hon) hy
      have hrole := (sits_before hmanaged.mapSound hres hys hkept).role_eq hy
      subst hrole
      exact .inl ⟨hafter.2 ⟨hkept, fun hall => hys hall.2⟩,
        fun hys' => hys (congrArg Prod.fst hys')⟩
  · exact expected_of_success hmanaged hres hreporting (hother hx hxs) (hafter.1 hx).1 (honline hon)

end Switch

end Shown

/-! ## Departures -/

section Departures

variable {messages : List (RelayPayload V)} {key : Option String} {roster : List ClientType}
  {channelId : String}

omit [Unknown V] in
theorem RelayServer.Leaves.leaving_eq (h : st.Leaves input s session channelId)
    {requested : Narrowed} {ack : Bool} (hevent : input.event = .leaveChannel s requested ack ∨
      input.event = .closeChannel s requested ack) :
    st.leaving input.now s requested = some channelId := by
  obtain ⟨requested', ack', hevent', hresolve⟩ := h.event
  have hsame : requested' = requested := by
    rcases hevent with hevent | hevent <;> rcases hevent' with hevent' | hevent' <;>
      cases hevent.symm.trans hevent' <;> rfl
  subst hsame
  obtain ⟨socket, hsock⟩ := Option.isSome_iff_exists.1 h.connected
  unfold leaving
  rw [hsock, h.found]
  dsimp only
  rw [if_pos h.allowed, hresolve]

omit [Unknown V] in
theorem switch_left (session : Session V) (channelId : String) :
    (if session.currentChannelId = some channelId then
      { session with currentChannelId := none } else session).switch = session.switch := by
  split <;> rfl

theorem move_of_left (hmanaged : Managed cfg st.channelManager) (hplaced : Placed st.scene)
    (hnodup : st.lobby.RoomsNodup) (hses : st.sessions.get? s = some session)
    (hguard : st.departureMisleads s channelId = false) :
    Presence.Move st.scene.attendance (Scene.mk (st.channelManager.leave input.now s channelId).2
      (Function.update st.scene.session s (some (if session.currentChannelId = some channelId then
        { session with currentChannelId := none } else session)))
      ((st.lobby.exit s channelId).announceLeft s channelId .leave
        (st.channelManager.leave input.now s channelId).1)).attendance := by
  have hsits := fun id x t => @sits_leave V st.channelManager id x t hmanaged.mapSound input.now s
    channelId
  refine move_of_departure hmanaged hplaced hguard hsits (fun id x t _ honline => ?_)
    (fun id x t hx _ hseat => ?_) (fun _ x _ _ => switch_update hses (switch_left ..) x)
    (isSome_leave hmanaged input.now channelId) fun id x t u _ _ => ?_
  · rwa [Lobby.rooms_announceLeft, isSome_rooms_exit] at honline
  · rw [Lobby.seats_announceLeft, Lobby.seats_exit hnodup, if_neg]
    · exact hseat
    · exact fun hall => ((hsits id x t).1 hx).2 hall.symm
  · dsimp only
    rw [Lobby.view_announceLeft _ _ _ _ _ (by decide : PresenceEvent.leave ≠ .join),
      Lobby.seats_exit hnodup]
    by_cases hx : x = s <;> simp [hx]

/-- Everybody leaves a closed channel, so nobody is left there to be told. -/
theorem fades_of_closed (hmanaged : Managed cfg st.channelManager) (hplaced : Placed st.scene)
    (hnodup : st.lobby.RoomsNodup) (hses : st.sessions.get? s = some session)
    {participant : Participant}
    (hpart : (st.channelManager.leave input.now s channelId).1 = some participant)
    (hguard : (st.takesPart s channelId && st.overheard s channelId) = false) :
    Presence.Fades st.scene.attendance (Scene.mk
      ((st.channelManager.leave input.now s channelId).2.close input.now channelId).2
      (Function.update st.scene.session s (some (if session.currentChannelId = some channelId then
        { session with currentChannelId := none } else session)))
      ((st.lobby.exit s channelId).announce s channelId
        (.participantsChanged .close participant.clientType))).attendance := by
  obtain ⟨t, hseat⟩ := (isSome_leave hmanaged input.now channelId).1 (by rw [hpart]; rfl)
  have htakes : st.takesPart s channelId = true :=
    List.any_eq_true.2 ⟨(s, t), (mem_attendees hmanaged).2 hseat, by simp⟩
  rw [htakes, Bool.true_and] at hguard
  have hconfined := confined_of_overheard hmanaged hplaced hguard
    (fun id u hs => hplaced.channel_eq hs hseat) t
  have hsits : ∀ {id x u}, Sits ((st.channelManager.leave input.now s channelId).2.close input.now
      channelId).2 id x u ↔ Sits st.channelManager id x u ∧ id ≠ channelId := by
    intro id x u
    rw [sits_close (hmanaged.leave ..).mapSound, sits_leave hmanaged.mapSound]
    exact ⟨fun hx => ⟨hx.1.1, hx.2⟩, fun hx => ⟨⟨hx.1, fun hall => hx.2 hall.1⟩, hx.2⟩⟩
  have honline : ∀ {x}, (((st.lobby.exit s channelId).announce s channelId
      (.participantsChanged .close participant.clientType)).rooms x).isSome = true →
      (st.lobby.rooms x).isSome = true := by
    intro x hx
    rwa [Lobby.rooms_announce, isSome_rooms_exit] at hx
  refine ⟨fun id x hx => (hsits.1 hx).1, fun _ _ _ => honline, fun id x hx _ hseat => ?_,
    fun id x hx => pending_congr (switch_update hses (switch_left ..) x.1),
    fun id x hx hon hnone => ?_, fun id x y hx _ _ hy _ => hsits.2 ⟨hy, (hsits.1 hx).2⟩⟩
  · rw [Scene.attendance_hears, Lobby.seats_announce, Lobby.seats_exit hnodup, if_neg]
    · exact hseat
    · exact fun hall => (hsits.1 hx).2 hall.2
  · rw [Scene.attendance_view, Lobby.view_announce, if_neg]
    · exact .inl rfl
    · rintro ⟨hxs, hhears⟩
      rw [Lobby.seats_exit hnodup, if_neg fun hall => hxs hall.1] at hhears
      exact (hsits.1 hx).2 (hconfined id x (fun heq => hxs (congrArg Prod.fst heq)) hhears
        (hsits.1 hx).1 (honline hon) hnone)

/-- Nobody counts on a participant whose join is undone. -/
theorem fades_of_undone (hmanaged : Managed cfg st.channelManager) (hplaced : Placed st.scene)
    (hnodup : st.lobby.RoomsNodup) (hses : st.sessions.get? s = some session)
    (hjoin : session.joining = some ⟨request, .leavingPrevious messages key roster false⟩) :
    Presence.Fades st.scene.attendance (Scene.mk
      (st.channelManager.leave input.now s request.channelId).2
      (Function.update st.scene.session s
        (some { session with joining := RelayServer.waiting request .undoing }))
      (st.withdrawn s request resolves)).attendance := by
  have hsits := fun {id x t} => @sits_leave V st.channelManager id x t hmanaged.mapSound input.now
    s request.channelId
  refine fades_of_withdrawal hnodup hses (by exact fun _ _ _ _ => nofun)
    (fun id x t hx => (hsits.1 hx).1) (fun id t hs => ?_) rfl
    (fun _ _ _ _ _ => view_withdrawn) fun id x y hx _ _ hy hstays => ?_
  · obtain ⟨hs, hnot⟩ := hsits.1 hs
    exact absurd ⟨hplaced.eq_of_switching hses hjoin hs, rfl⟩ hnot
  · refine hsits.2 ⟨hy, fun hall => ?_⟩
    have hpends : st.scene.attendance.pending y = some ⟨roster.contains y.2.other, false⟩ := by
      change Option.map _ (Option.bind (st.sessions.get? y.1) Session.switch) = _
      rw [hall.2, hses, Option.bind_some, Session.switch, hjoin]
      rfl
    cases hstays _ hpends

theorem move_of_relieved (hmanaged : Managed cfg st.channelManager) (hplaced : Placed st.scene)
    {m : ChannelManager V} (hm : Managed cfg m) (hquiet : Quiet st.channelManager m) (now : ℕ)
    {target : Option SocketId} (hguard : ∀ s, target = some s → m.hasDirectDelivery s = false →
      st.sockets.has s = true → ∀ id, (st.sessions.get? s).bind (·.currentChannelId) = some id →
        st.departureMisleads s id = false) :
    Presence.Move st.scene.attendance
      (Scene.relieve now { st.scene with manager := m } target).attendance := by
  have hidle : Presence.Move st.scene.attendance
      ({ st.scene with manager := m } : Scene V).attendance :=
    move_of_same (fun id x t => sits_quiet hquiet) (fun _ _ _ _ => id) (fun _ _ _ _ _ => id)
      (fun _ _ _ _ => rfl) fun _ _ => rfl
  unfold Scene.relieve
  split
  · exact hidle
  next s =>
    split
    · exact hidle
    next hdirect =>
      exact move_of_drop hmanaged hplaced hm hquiet now
        (hguard s rfl (eq_false_of_ne_true hdirect))

end Departures

/-! ## Every act -/

theorem RelayServer.Enters.joinMisleads_eq
    (h : st.Enters cfg input s session request resolves) (hguard : st.misleads cfg input = false) :
    st.joinMisleads input.now s session request resolves = false := by
  unfold misleads at hguard
  rw [h.entering_eq, Option.any_some, Bool.or_eq_false_iff] at hguard
  exact hguard.1

omit [Unknown V] in
/-- The ack of a join to a closed channel shows its socket nobody. -/
theorem view_reported (l : Lobby V) (s : SocketId) (ack : Bool) (x : SocketId) (t : ClientType) :
    (if ack then l.tell s (.ack (.joined [] none [] true)) else l).view x t =
      if ack = true ∧ x = s ∧ (l.rooms s).isSome = true then false else l.view x t := by
  rcases ack
  · simp
  · rw [if_pos rfl, Lobby.view_tell]
    simp [Packet.shows]

omit [Unknown V] in
/-- Nobody sits in a closed channel. -/
theorem not_sits_of_tombstone {now : ℕ} {messages : List (RelayPayload V)} {key : Option String}
    {roster : List ClientType}
    (hres : (st.joinCall now s session request).1 = .success messages key roster true)
    (x : SocketId) (t : ClientType) : ¬Sits st.channelManager request.channelId x t := by
  rintro ⟨r, hentry, hlive, -⟩
  have hout := joinCall_outcome st now s session request
  generalize st.joinCall now s session request = out at hres hout
  obtain ⟨result, m⟩ := out
  dsimp only at hres hout
  subst hres
  cases hout with
  | tombstone r' hget hterm =>
    obtain rfl := Option.some.inj (hentry.symm.trans hget)
    rw [hlive] at hterm
    cases hterm
  | admitted _ _ _ _ _ _ _ _ _ _ _ _ _ _ hres => cases hres

theorem move_of_reported (hmanaged : Managed cfg st.channelManager) (hplaced : Placed st.scene)
    (hses : st.sessions.get? s = some session)
    (hjoin : session.joining = some ⟨request, .leavingTombstone true⟩)
    (hguard : st.reportMisleads s request.ack = false) :
    Presence.Move st.scene.attendance ({ st.scene.setSession s { session with joining := none } with
      lobby := if request.ack then st.lobby.tell s (.ack (.joined [] none [] true))
        else st.lobby } : Scene V).attendance := by
  have hswitch := switch_of_joining hjoin fun _ _ _ _ => nofun
  have hrooms : (if request.ack then st.lobby.tell s (.ack (.joined [] none [] true))
      else st.lobby).rooms = st.lobby.rooms := by
    split <;> rfl
  refine .fades ⟨fun _ _ => id, fun _ x _ hon => ?_, fun id x _ _ hhears => ?_,
    fun _ x _ => pending_congr (switch_update hses (hswitch ▸ rfl) x.1), fun id x hx hon _ => ?_,
    fun _ _ _ _ _ _ hy _ => hy⟩
  · rwa [Scene.attendance_online, hrooms] at hon
  · rw [Scene.attendance_hears, Lobby.seats_congr (congrFun hrooms x.1)]
    exact hhears
  · rw [Scene.attendance_view, view_reported]
    split
    next hall =>
      obtain ⟨x, t⟩ := x
      obtain ⟨hack, rfl, hconn⟩ := hall
      have hx : Sits st.channelManager id x t := hx
      refine .inr ⟨rfl, fun y hyx hy => ?_⟩
      have hconn : st.sockets.has x = true := by simpa [lobby, JsMap.has] using hconn
      have hplace := hplaced.place_eq hses hx
      rw [place_of_joining hjoin fun _ _ _ _ => nofun] at hplace
      have htakes : st.takesPart x id = true :=
        List.any_eq_true.2 ⟨(x, t), (mem_attendees hmanaged).2 hx, by simp⟩
      have hys : y.1 ≠ x := by
        obtain ⟨y, u⟩ := y
        rintro rfl
        exact hyx (Prod.ext rfl (Sits.role_eq hy hx))
      have htrue : st.reportMisleads x request.ack = true := by
        have hothers : (st.channelManager.attendees id).any (·.1 ≠ x) = true :=
          List.any_eq_true.2 ⟨y, (mem_attendees hmanaged).2 hy, by simpa using hys⟩
        unfold reportMisleads
        rw [hack, hconn, hses, Option.bind_some, hplace, Option.any_some, htakes, hothers]
        rfl
      rw [hguard] at htrue
      cases htrue
    next => exact .inl rfl

omit [Unknown V] in
/-- A handler that waits or has ended without a seat shows nothing. -/
theorem move_of_withdrawal (resolves : Bool) (hplaced : Placed st.scene)
    (hnodup : st.lobby.RoomsNodup) (hses : st.sessions.get? s = some session)
    (hplace : session.place = session.currentChannelId)
    (hswitch : session.switch = none) (houtside : request.joinedRoom = true →
      session.currentChannelId ≠ some request.channelId) {stage : Stage V}
    (hstage : ∀ messages key roster resolves,
      stage ≠ .leavingPrevious messages key roster resolves) {l : Lobby V}
    (hrooms : l.rooms = (st.withdrawn s request resolves).rooms)
    (hview : ∀ id x t u, Sits st.channelManager id x t → l.view x u = st.lobby.view x u) :
    Presence.Move st.scene.attendance (Scene.mk st.channelManager
      (Function.update st.scene.session s
        (some { session with joining := RelayServer.waiting request stage })) l).attendance := by
  refine .fades (fades_of_withdrawal hnodup hses hstage (fun _ _ _ => id)
    (fun id t hs => ⟨hswitch, fun hjoined hid => houtside hjoined ?_⟩) hrooms hview
    fun _ _ _ _ _ _ hy _ => hy)
  rw [← hid, ← hplace]
  exact hplaced.place_eq hses hs

omit [Unknown V] in
/-- A join to a closed channel tells its socket that nobody is there, and nobody is. -/
theorem move_of_tombstone (hplaced : Placed st.scene) (hapart : Apart st.scene)
    (hnodup : st.lobby.RoomsNodup) (henters : st.Enters cfg input s session request resolves)
    (hres : (st.joinCall input.now s session request).1 = .success [] none [] true) :
    Presence.Move st.scene.attendance (Scene.mk st.channelManager
      (Function.update st.scene.session s
        (some { session with joining := RelayServer.waiting request (.leavingTombstone resolves) }))
      (if request.joinedRoom then st.withdrawn s request resolves
        else if request.ack then st.lobby.tell s (.ack (.joined [] none [] true))
        else st.lobby)).attendance := by
  refine move_of_withdrawal resolves hplaced hnodup henters.found henters.place_eq
    henters.switch_eq (henters.outside hapart) (fun _ _ _ _ h => by cases h) ?_
    fun id x t u hx => ?_
  · unfold withdrawn
    rcases request.joinedRoom <;> rcases request.ack <;> rfl
  · split
    · exact view_withdrawn
    next hjoined =>
      rw [view_reported, if_neg]
      rintro ⟨-, rfl, -⟩
      obtain ⟨hasks, hcur⟩ | ⟨-, -, -⟩ := henters
      · have hplace := hplaced.place_eq hasks.found hx
        rw [place_of_free hasks.free, hcur] at hplace
        exact not_sits_of_tombstone hres x t (Option.some.inj hplace ▸ hx)
      · exact hjoined rfl

/-- A switching join gives up its previous seat, and takes the new one. -/
theorem moves_of_switch {messages : List (RelayPayload V)} {key : Option String}
    {roster : List ClientType} {previous : String} (hmanaged : Managed cfg st.channelManager)
    (hplaced : Placed st.scene)
    (hnodup : st.lobby.RoomsNodup) (helsewhere : Elsewhere st.core)
    (henters : st.Enters cfg input s session request resolves)
    (hres : (st.joinCall input.now s session request).1 = .success messages key roster false)
    (hswitch : request.switchingChannels = true)
    (hcur : session.currentChannelId = some previous)
    (hguard : st.misleads cfg input = false) :
    Relation.ReflTransGen Presence.Move st.scene.attendance (Scene.mk
      ((st.joinCall input.now s session request).2.leave input.now s previous).2
      (Function.update st.scene.session s (some { session with
        joining := some ⟨request, .leavingPrevious messages key roster resolves⟩ }))
      (let l := st.lobby.announceLeft s previous .leave
        ((st.joinCall input.now s session request).2.leave input.now s previous).1
      if resolves then l.exit s previous else l)).attendance := by
  have hne : previous ≠ request.channelId := by
    rintro rfl
    exact (henters.entering.elsewhere (helsewhere s session henters.found)).1 hswitch hcur
  have hjoins := henters.joinMisleads_eq hguard
  unfold joinMisleads at hjoins
  rw [hres] at hjoins
  dsimp only at hjoins
  rw [if_pos hswitch, hcur] at hjoins
  simp only [Bool.or_eq_false_iff] at hjoins
  obtain ⟨⟨hroom, hreporting⟩, hpending, hdeparture⟩ := hjoins
  have hrooms := isSome_rooms_departed st.lobby s previous resolves
    ((st.joinCall input.now s session request).2.leave input.now s previous).1
  have hseats := seats_departed hnodup s previous resolves
    ((st.joinCall input.now s session request).2.leave input.now s previous).1
  refine .tail (.single (move_of_switched hmanaged hplaced hres hne hdeparture hrooms hseats
    fun x t => ?_)) (.enters (enters_of_switched hmanaged hplaced henters hres hcur hne hroom
      hreporting hpending hrooms hseats))
  split <;> rfl

/-- Every act that misleads nobody is a move or two. -/
theorem Act.moves (hact : Act cfg st input k) (hmanaged : Managed cfg st.channelManager)
    (hplaced : Placed st.scene) (hapart : Apart st.scene) (hnodup : st.lobby.RoomsNodup)
    (helsewhere : Elsewhere st.core) (hagree : Presence.Agree st.scene.attendance)
    (hguard : st.misleads cfg input = false) :
    Relation.ReflTransGen Presence.Move st.scene.attendance k.attendance := by
  have hmisleads := hguard
  unfold misleads at hmisleads
  rw [Bool.or_eq_false_iff] at hmisleads
  obtain ⟨-, hmisleads⟩ := hmisleads
  have hdropped : ∀ s, st.disconnects cfg input = some s →
      (st.disconnects cfg input).any (fun s => st.sockets.has s &&
        ((st.sessions.get? s).bind (·.currentChannelId)).any (st.departureMisleads s)) = false →
      st.sockets.has s = true → ∀ id, (st.sessions.get? s).bind (·.currentChannelId) = some id →
        st.departureMisleads s id = false := by
    intro s hdisc hfalse hconn id hcur
    simpa [hdisc, hconn, hcur] using hfalse
  cases hact with
  | idle => exact .refl
  | turned m hquiet =>
    exact .single (move_of_same (fun id x t => sits_quiet hquiet) (fun _ _ _ _ => id)
      (fun _ _ _ _ _ => id) (fun _ _ _ _ => rfl) fun _ _ => rfl)
  | opened s clientIp hnew => exact .single (move_of_opened hplaced hnew)
  | requested s session request resolves hasks => exact .single (move_of_requested hasks)
  | refusedJoin s session request resolves error henters hres =>
    have hjoins := henters.joinMisleads_eq hguard
    unfold joinMisleads at hjoins
    rw [hres] at hjoins
    exact .single (move_of_refused hmanaged hplaced hapart hnodup henters hres hjoins)
  | tombstone s session request resolves henters hres =>
    exact .single (move_of_tombstone hplaced hapart hnodup henters hres)
  | entered s session request resolves messages key roster henters hres hstay =>
    exact .single (.joins (joins_of_entered hmanaged hplaced helsewhere henters hres hstay
      (henters.joinMisleads_eq hguard)))
  | switched s session request resolves messages key roster previous henters hres hswitch hcur =>
    exact moves_of_switch hmanaged hplaced hnodup helsewhere henters hres hswitch hcur hguard
  | completed s session request resolves messages key roster hevent hses hjoin =>
    refine .single (move_of_completed hmanaged hplaced hagree hses hjoin ?_)
    rw [hevent] at hmisleads
    dsimp only at hmisleads
    rw [hses, Option.any_some, hjoin] at hmisleads
    exact hmisleads
  | ended s session request stage resolves hevent hses hjoin hstage =>
    have hswitch := switch_of_joining hjoin
      (by rcases hstage with ⟨error, rfl⟩ | rfl <;> exact fun _ _ _ _ => nofun)
    exact .single (move_of_same (fun _ _ _ => Iff.rfl) (fun _ _ _ _ => id) (fun _ _ _ _ _ => id)
      (fun _ x _ _ => switch_update hses (hswitch ▸ rfl) x) fun _ _ => rfl)
  | reported s session request resolves hevent hses hjoin =>
    refine .single (move_of_reported hmanaged hplaced hses hjoin ?_)
    rw [hevent] at hmisleads
    dsimp only at hmisleads
    rw [hses, Option.any_some, hjoin] at hmisleads
    exact hmisleads
  | aborted s session request stage resolves hevent hses hjoin hstage =>
    have hplain : ∀ messages key roster resolves,
        stage ≠ .leavingPrevious messages key roster resolves := by
      rcases hstage with rfl | ⟨error, rfl⟩ | rfl <;> exact fun _ _ _ _ => nofun
    exact .single (move_of_withdrawal resolves hplaced hnodup hses (place_of_joining hjoin hplain)
      (switch_of_joining hjoin hplain) (fun _ => hapart s session _ hses hjoin)
      (by exact fun _ _ _ _ => nofun) rfl fun _ _ _ _ _ => view_withdrawn)
  | undone s session request resolves messages key roster hevent hses hjoin =>
    exact .single (.fades (fades_of_undone hmanaged hplaced hnodup hses hjoin))
  | messaged s session payload hroutes =>
    obtain ⟨raw, ack, hevent, -⟩ := hroutes.event
    have hrouted : Managed cfg (st.routeCall cfg input s session payload).2 :=
      hmanaged.route ..
    refine .single (move_of_relieved hmanaged hplaced hrouted
      (Quiet.routeCall cfg st input s session payload) input.now
      fun s' htarget hfree hconn => hdropped s' ?_ ?_ hconn)
    · simpa [disconnects, hevent, hroutes.routed, htarget] using hfree
    · rw [hevent] at hmisleads
      exact hmisleads
  | left s session channelId hevent hleaves =>
    obtain ⟨requested, ack, hevent⟩ := hevent
    refine .single (move_of_left hmanaged hplaced hnodup hleaves.found ?_)
    rw [hevent] at hmisleads
    dsimp only at hmisleads
    rw [hleaves.leaving_eq (.inl hevent), Option.any_some] at hmisleads
    exact hmisleads
  | closed s session channelId participant hevent hleaves hpart =>
    obtain ⟨requested, ack, hevent⟩ := hevent
    refine .single (.fades (fades_of_closed hmanaged hplaced hnodup hleaves.found hpart ?_))
    rw [hevent] at hmisleads
    dsimp only at hmisleads
    rw [hleaves.leaving_eq (.inr hevent), Option.any_some] at hmisleads
    exact hmisleads
  | dropped s hevent =>
    have hdisc : st.disconnects cfg input = some s := by
      unfold disconnects
      rw [hevent]
    refine .single (move_of_drop hmanaged hplaced hmanaged (.refl _) input.now
      (hdropped s hdisc ?_))
    rw [hevent] at hmisleads
    exact hmisleads

end Acts

/-! ## Runs -/

section Runs

variable [Unknown V] {cfg : Config} {inputs : List (Input V)}

omit [Unknown V] in
/-- Once no join is suspended, every connected participant of a live channel sees whether the
channel has a participant in the other role. -/
def ViewsAgree (st : RelayServer V) : Prop :=
  (∀ s, st.joinInProgress s = false) → ∀ id r s p,
    st.channelManager.channels.get? id = some r →
    (st.channelManager.content r).terminated = false →
    (st.channelManager.content r).participants.get? s = some p →
    (st.sockets.get? s).isSome = true →
    (st.lobby.view s p.clientType.other = true ↔ ∃ s' p',
      (st.channelManager.content r).participants.get? s' = some p' ∧
        p'.clientType = p.clientType.other)

theorem agree_after (hguard : Runs.Guarded (step cfg) (fun st i => st.misleads cfg i = false)
    (create cfg) inputs) : Presence.Agree (RelayServer.after cfg inputs).scene.attendance := by
  refine Runs.Guarded.run_reached
    (I := fun st : RelayServer V => Presence.Agree st.scene.attendance) ?_
    (fun inputs input h hok => ?_) hguard
  · have hempty : ∀ {id s t}, ¬Sits (create (V := V) cfg).channelManager id s t := by
      rintro id s t ⟨r, hentry, -⟩
      cases hentry
    exact ⟨fun _ _ hs => absurd hs hempty, fun _ _ hs => absurd hs hempty,
      fun _ _ _ hs => absurd hs hempty⟩
  · have hact := act_of_step cfg (managed_after cfg inputs) input
    exact h.of_moves (hact.moves (managed_after cfg inputs) (placed_after cfg inputs)
      (apart_after cfg inputs) (roomsNodup_after cfg inputs) (elsewhere_after cfg inputs) h hok)

end Runs

theorem rest_of_entries {st : RelayServer V}
    (h : st.sessions.entries.all (fun e => e.2.joining.isNone) = true) (s : SocketId) :
    st.joinInProgress s = false := by
  cases hses : st.sessions.get? s with
  | none => simp [joinInProgress, hses]
  | some session =>
    have hfree := List.all_eq_true.1 h (s, session) (JsMap.mem_entries.2 hses)
    simpa [joinInProgress, hses] using hfree

/-- A dapp is in "x" and a wallet in "c". The dapp takes its seat in "c", the wallet leaves, and
the ack of the dapp lists the wallet. -/
def walletGone : List (Input String) :=
  [⟨0, .connection 1 "a" 1⟩, ⟨0, .connection 2 "b" 2⟩,
    ⟨0, .joinChannel 1 ⟨.string "x", .string "dapp", .undefined⟩ true true⟩,
    ⟨0, .resumeJoin 1 true⟩,
    ⟨0, .joinChannel 2 ⟨.string "c", .string "wallet", .undefined⟩ true true⟩,
    ⟨0, .resumeJoin 2 true⟩,
    ⟨1, .joinChannel 1 ⟨.string "c", .string "dapp", .undefined⟩ true true⟩,
    ⟨1, .resumeJoin 1 true⟩, ⟨1, .leaveChannel 2 .undefined true⟩, ⟨1, .resumeJoin 1 true⟩]

end QrlBackend
