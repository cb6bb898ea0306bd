import QrlBackend.Seats
import QrlBackend.Stranding

/-!
# Membership follows connection

A socket has its seat in the channel its handlers know of : the current channel, or, while a
switching join waits to leave the old room, the channel it joined (`Session.place`).
`Following` says so, and that whoever has a seat is connected, or has a join that will still be
undone.

Two steps leave a seat behind. A join whose socket went away while it waited for the room
takes a seat all the same (`ghostJoins`), and a disconnection during a switch leaves the old
channel only (`abandons`). Without them membership follows connection
(`membership_follows`), and `seat_left_behind` has a run with each.
-/

set_option autoImplicit false

namespace QrlBackend

variable {V : Type}

open ChannelManager RelayServer

/-- The channel id a socket can have a seat in. -/
def Session.place (session : Session V) : Option String :=
  match session.joining with
  | some ⟨request, .leavingPrevious _ _ _ _⟩ => some request.channelId
  | _ => session.currentChannelId

/-- The `socket.leave` a switching join waits for will reject, and the join will be undone. -/
def Session.reverts (session : Session V) : Bool :=
  match session.joining with
  | some ⟨_, .leavingPrevious _ _ _ resolves⟩ => !resolves
  | _ => false

/-- Every seat is in the place of a session, of a connected socket or of one whose join will
be undone. -/
def Following (k : Core V) : Prop :=
  ∀ channelId r s p, k.manager.channels.get? channelId = some r →
    (k.manager.content r).participants.get? s = some p →
    ∃ session, k.session s = some session ∧ session.place = some channelId ∧
      ((k.transport s).isSome = true ∨ session.reverts = true)

theorem Switching.stage {joining : Option (PendingJoin V)} (h : Switching joining) :
    ∃ request messages key roster resolves,
      joining = some ⟨request, .leavingPrevious messages key roster resolves⟩ := by
  unfold Switching at h
  split at h
  · exact ⟨_, _, _, _, _, rfl⟩
  · exact h.elim

theorem Session.place_of_not_switching {session : Session V} (h : ¬Switching session.joining) :
    session.place = session.currentChannelId ∧ session.reverts = false := by
  obtain ⟨clientIp, current, released, joining⟩ := session
  unfold Session.place Session.reverts
  rcases joining with _ | ⟨request, stage⟩
  · exact ⟨rfl, rfl⟩
  · cases stage with
    | leavingPrevious => exact absurd trivial h
    | joiningRoom | leavingRefused | leavingTombstone | undoing => exact ⟨rfl, rfl⟩

theorem Settled.not_switching {joining : Option (PendingJoin V)} (h : Settled joining) :
    ¬Switching joining := by
  rcases joining with _ | ⟨request, stage⟩
  · exact id
  · cases stage with
    | leavingPrevious => exact h.elim
    | joiningRoom | leavingRefused | leavingTombstone | undoing => exact id

theorem Entering.not_switching {session : Session V} {request : JoinRequest}
    (h : Entering session request) : ¬Switching session.joining := by
  cases h with
  | rejoin hfree => simp [hfree, Switching]
  | roomJoined hjoin => simp [hjoin, Switching]

namespace RelayServer

/-- The socket is a participant of the channel under the id. -/
def participates (st : RelayServer V) (s : SocketId) (channelId : String) : Bool :=
  (st.channelManager.channels.get? channelId).any fun r =>
    (st.channelManager.channel r).participants.has s

/-- The event resumes the join of a socket that is gone, and the join takes a seat that it
will not give back. -/
def ghostJoins (st : RelayServer V) (input : Input V) : Bool :=
  match input.event with
  | .resumeJoin s resolves =>
    !st.sockets.has s && (st.sessions.get? s).any fun session =>
      match session.joining with
      | some ⟨request, .joiningRoom true⟩ =>
        (match (st.joinCall input.now s session request).1 with
        | .success _ _ _ terminated => !terminated
        | .failure _ => false) &&
        (resolves || !(request.switchingChannels && session.currentChannelId.isSome))
      | _ => false
  | _ => false

variable [Unknown V] (cfg : Config)

/-- The socket that an event disconnects, if it is connected. -/
def disconnects (st : RelayServer V) (input : Input V) : Option SocketId :=
  match input.event with
  | .disconnect s => some s
  | .message _ _ _ _ => (st.routed input).bind fun (s, session, payload) =>
    let (result, m) := st.routeCall cfg input s session payload
    result.backpressuredSocketId.filter fun target => !m.hasDirectDelivery target
  | _ => none

/-- The event disconnects a socket while its switching join, which will not be undone, has a
seat in the new channel. -/
def abandons (st : RelayServer V) (input : Input V) : Bool :=
  (st.disconnects cfg input).any fun s =>
    st.sockets.has s && (st.sessions.get? s).any fun session =>
      match session.joining with
      | some ⟨request, .leavingPrevious _ _ _ true⟩ => st.participates s request.channelId
      | _ => false

end RelayServer

/-! ## Seats that stay or go -/

/-- Who left a channel is not in it. -/
theorem not_participant_leave (now : ℕ) (m : ChannelManager V) (s : SocketId) (channelId : String)
    {r : ChannelRef} (hget : (m.leave now s channelId).2.channels.get? channelId = some r)
    (p : Participant) : ((m.leave now s channelId).2.content r).participants.get? s ≠ some p := by
  have hout := leave_outcome now m s channelId
  generalize m.leave now s channelId = out at hout hget ⊢
  obtain ⟨result, m'⟩ := out
  cases hout with
  | absent hnot =>
    rw [hnot r hget]
    exact nofun
  | left r' _ hget' _ hcontent htables =>
    obtain rfl : r = r' := Option.some.inj
      ((Shrinks.entries_of_tables htables channelId r hget).symm.trans hget')
    dsimp only
    rw [hcontent, if_pos rfl]
    simp [Content.without]

/-- Whoever was in a channel before a join was in it under the same id. -/
theorem RelayServer.Admitted.entry_of_old {st : RelayServer V} {now : ℕ} {s : SocketId}
    {request : JoinRequest} {m' : ChannelManager V} {messages : List (RelayPayload V)}
    {r : ChannelRef} {c : Content V} {key : Option String} {stale : Option SocketId}
    (h : Admitted st now s request m' messages r c key stale) (henrolled : Enrolled st.core)
    {channelId : String} {r' : ChannelRef} (hget : m'.channels.get? channelId = some r')
    {s' : SocketId} {p : Participant}
    (hp : (st.channelManager.content r').participants.get? s' = some p) :
    st.channelManager.channels.get? channelId = some r' := by
  rcases h.slot with ⟨-, -, hch, -⟩ | ⟨-, hnext, -, hch, -⟩
  · exact hch ▸ hget
  · rw [hch, JsMap.get?_set] at hget
    split at hget
    · have hlt := henrolled.allocated r' s' p hp
      rw [← Option.some.inj hget, hnext] at hlt
      exact absurd hlt (lt_irrefl _)
    · exact hget

namespace Following

/-- Nobody took a seat, and who has one keeps session and connection. -/
theorem of_entries {k k' : Core V} (h : Following k)
    (hentries : ∀ id r, k'.manager.channels.get? id = some r →
      k.manager.channels.get? id = some r)
    (hparticipants : ∀ r s p, (k'.manager.content r).participants.get? s = some p →
      (k.manager.content r).participants.get? s = some p)
    (hsession : k'.session = k.session)
    (htransport : ∀ s, (k.transport s).isSome = true → (k'.transport s).isSome = true) :
    Following k' := by
  intro channelId r s p hget hp
  obtain ⟨session, hses, hplace, hwhere⟩ :=
    h channelId r s p (hentries _ _ hget) (hparticipants r s p hp)
  exact ⟨session, hsession ▸ hses, hplace, hwhere.imp_left (htransport s)⟩

theorem of_shrinks {k k' : Core V} (h : Following k) (hshrinks : Shrinks k.manager k'.manager)
    (hsession : k'.session = k.session) (htransport : k'.transport = k.transport) :
    Following k' :=
  h.of_entries hshrinks.entries hshrinks.participants hsession fun _ hs => htransport ▸ hs

/-- One session changes, but the place of its seat does not. -/
theorem setSession {k : Core V} {m' : ChannelManager V} (h : Following k)
    (hshrinks : Shrinks k.manager m') {s : SocketId} {session session' : Session V}
    (hses : k.session s = some session)
    (hplace : ∀ channelId r p, m'.channels.get? channelId = some r →
      (m'.content r).participants.get? s = some p → session.place = some channelId →
      session'.place = some channelId ∧ (session.reverts = true → session'.reverts = true)) :
    Following ({ k with manager := m' }.setSession s session') := by
  intro channelId r s' p hget hp
  dsimp only [Core.setSession] at hget hp ⊢
  obtain ⟨session₀, hses₀, hplace₀, hwhere⟩ :=
    h channelId r s' p (hshrinks.entries _ _ hget) (hshrinks.participants r s' p hp)
  by_cases hs : s' = s
  · subst hs
    obtain rfl : session₀ = session := Option.some.inj (hses₀.symm.trans hses)
    obtain ⟨hplace', hreverts⟩ := hplace channelId r p hget hp hplace₀
    exact ⟨session', Function.update_self _ _ _, hplace', hwhere.imp_right hreverts⟩
  · exact ⟨session₀, (Function.update_of_ne hs _ _).trans hses₀, hplace₀, hwhere⟩

/-- A socket goes away whose switching join, if it has a seat, will be undone. -/
theorem drop {k : Core V} (h : Following k) (now : ℕ) {s : SocketId}
    (hguard : (k.transport s).isSome = true → ∀ session channelId r p, k.session s = some session →
      Switching session.joining → session.place = some channelId →
      k.manager.channels.get? channelId = some r →
      (k.manager.content r).participants.get? s = some p → session.reverts = true) :
    Following (k.drop now s) := by
  intro channelId r s' p hget hp
  have hshrinks := Shrinks.drop now k s
  have hget₀ := hshrinks.entries _ _ hget
  have hp₀ := hshrinks.participants r s' p hp
  obtain ⟨session, hses, hplace, hwhere⟩ := h channelId r s' p hget₀ hp₀
  by_cases hs : s' = s
  · subst hs
    unfold Core.drop at hget hp ⊢
    split at hget
    next hconn =>
      rw [if_pos hconn] at hp ⊢
      refine ⟨{ session with releasedSocketCounter := true }, ?_, hplace, .inr ?_⟩
      · dsimp only
        rw [Function.update_self, hses]
        rfl
      by_cases hswitching : Switching session.joining
      · exact hguard hconn session channelId r p hses hswitching hplace hget₀ hp₀
      · -- the seat was in the current channel, which the socket left
        have hcur := (Session.place_of_not_switching hswitching).1.symm.trans hplace
        have hbind : (k.session s').bind (·.currentChannelId) = some channelId := by
          rw [hses]
          exact hcur
        dsimp only at hget hp
        rw [hbind] at hget hp
        exact absurd hp (not_participant_leave now _ s' channelId hget p)
    next hgone =>
      rw [if_neg hgone]
      exact ⟨session, hses, hplace, hwhere⟩
  · refine ⟨session, (Core.session_drop now k hs).trans hses, hplace,
      hwhere.imp_left fun hconn => ?_⟩
    rwa [Core.transport_drop, if_neg hs]

theorem relieve {k : Core V} (h : Following k) (now : ℕ) {target : Option SocketId}
    (hguard : ∀ s, target = some s → k.manager.hasDirectDelivery s = false →
      (k.transport s).isSome = true → ∀ session channelId r p, k.session s = some session →
      Switching session.joining → session.place = some channelId →
      k.manager.channels.get? channelId = some r →
      (k.manager.content r).participants.get? s = some p → session.reverts = true) :
    Following (k.relieve now target) := by
  cases target with
  | none => exact h
  | some s =>
    unfold Core.relieve
    dsimp only
    split
    · exact h
    next hhas => exact h.drop now (hguard s rfl (by simpa using hhas))

end Following

variable {st : RelayServer V} {input : Input V} {k : Core V}

/-! ## What the conditions exclude -/

namespace RelayServer

variable {s : SocketId} {session : Session V} {request : JoinRequest}
  {messages : List (RelayPayload V)} {key : Option String} {roster : List ClientType}

/-- A join of a socket that is gone, resumed and admitted, is one that will be undone. -/
theorem connected_or_rejects (hguard : st.ghostJoins input = false)
    (hses : st.sessions.get? s = some session) (hentering : Entering session request)
    (hres : (st.joinCall input.now s session request).1 = .success messages key roster false)
    {resolves : Bool} (hwhere : (st.sockets.get? s).isSome = true ∨
      session.joining.isSome = true ∧ input.event = .resumeJoin s resolves) :
    (st.sockets.get? s).isSome = true ∨
    resolves = false ∧ request.switchingChannels = true ∧
      session.currentChannelId.isSome = true := by
  by_cases hconn : (st.sockets.get? s).isSome = true
  · exact .inl hconn
  obtain ⟨hjoining, hevent⟩ := hwhere.resolve_left hconn
  refine .inr ?_
  cases hentering with
  | rejoin hfree => simp [hfree] at hjoining
  | roomJoined hjoin =>
    have hgone : st.sockets.has s = false := by simpa [JsMap.has] using hconn
    have hres' := hres
    simp only [joinCall] at hres'
    simp only [ghostJoins, hevent, hgone, hses, Option.any_some, hjoin, joinCall, hres',
      Bool.not_false, Bool.true_and, Bool.or_eq_false_iff, Bool.not_eq_false',
      Bool.and_eq_true] at hguard
    exact hguard

variable [Unknown V] {cfg : Config}

/-- Where no event abandons a seat, a switching join of the socket an event disconnects has no
seat, or will be undone. -/
theorem reverts_of_not_abandons (hguard : st.abandons cfg input = false)
    (hdisconnects : st.disconnects cfg input = some s)
    (hconn : (st.core.transport s).isSome = true) (hses : st.core.session s = some session)
    (hswitching : Switching session.joining) {channelId : String}
    (hplace : session.place = some channelId) {r : ChannelRef} {p : Participant}
    (hget : st.channelManager.channels.get? channelId = some r)
    (hp : (st.channelManager.content r).participants.get? s = some p) :
    session.reverts = true := by
  obtain ⟨request, messages, key, roster, resolves, hjoin⟩ := hswitching.stage
  obtain rfl : request.channelId = channelId := by simpa [Session.place, hjoin] using hplace
  cases resolves with
  | false => simp [Session.reverts, hjoin]
  | true =>
    obtain ⟨socket, hsock⟩ := Option.isSome_iff_exists.1 (core_connected.1 hconn)
    have hses' : st.sessions.get? s = some session := hses
    have hp' : (st.channelManager.channel r).participants.get? s = some p := hp
    simp [abandons, hdisconnects, hsock, hses', hjoin, participates, hget, JsMap.has, hp'] at hguard

end RelayServer

/-! ## Every turn keeps following -/

namespace Session

variable {session session' : Session V}

/-- Outside a switch, the place is the current channel. -/
theorem keeps_place (h : ¬Switching session.joining) (h' : ¬Switching session'.joining)
    (hcur : session'.currentChannelId = session.currentChannelId) {channelId : String}
    (hplace : session.place = some channelId) :
    session'.place = some channelId ∧ (session.reverts = true → session'.reverts = true) := by
  obtain ⟨hplace₀, hreverts⟩ := place_of_not_switching h
  rw [(place_of_not_switching h').1, hcur, ← hplace₀, hreverts]
  exact ⟨hplace, nofun⟩

/-- A session may forget a channel that its place is not. -/
theorem forgets_place {left : String} {current : Option String}
    (hcur : current = session.currentChannelId ∨
      (session.currentChannelId = some left ∧ current = none))
    {channelId : String} (hne : channelId ≠ left) (hplace : session.place = some channelId) :
    ({ session with currentChannelId := current } : Session V).place = some channelId ∧
    (session.reverts = true →
      ({ session with currentChannelId := current } : Session V).reverts = true) := by
  rcases hcur with rfl | ⟨hleft, rfl⟩
  · exact ⟨hplace, id⟩
  · by_cases hswitching : Switching session.joining
    · obtain ⟨request, messages, key, roster, resolves, hjoin⟩ := hswitching.stage
      simp only [place, reverts, hjoin] at hplace ⊢
      exact ⟨hplace, id⟩
    · rw [(place_of_not_switching hswitching).1, hleft, Option.some.injEq] at hplace
      exact absurd hplace.symm hne

end Session

namespace Following

variable {s : SocketId} {session session' : Session V}

/-- A socket takes a seat in the place of its session, and has none elsewhere. -/
theorem admitted {now : ℕ} {request : JoinRequest} {m' m'' : ChannelManager V}
    {messages : List (RelayPayload V)} {r : ChannelRef} {c : Content V} {key : Option String}
    {stale : Option SocketId} (h : Following st.core)
    (hadmitted : Admitted st now s request m' messages r c key stale)
    (henrolled : Enrolled st.core) (hsound : MapSound m')
    (hses : st.sessions.get? s = some session) (hnot : ¬Switching session.joining)
    (hplace : session'.place = some request.channelId)
    (hwhere : (st.sockets.get? s).isSome = true ∨ session'.reverts = true)
    (hshrinks : Shrinks m' m'')
    (honly : ∀ channelId r p, m''.channels.get? channelId = some r →
      (m''.content r).participants.get? s = some p → session.currentChannelId = some channelId →
      channelId = request.channelId) :
    Following ({ st.core with manager := m'' }.setSession s session') := by
  intro channelId r' s' p hget hp
  dsimp only [Core.setSession] at hget hp ⊢
  have hget' := hshrinks.entries _ _ hget
  rcases hadmitted.participants (hshrinks.participants _ _ _ hp) with ⟨rfl, rfl, -⟩ | hold
  · obtain rfl := hsound.injective _ _ r' hget' hadmitted.get
    exact ⟨session', Function.update_self _ _ _, hplace,
      hwhere.imp_left core_connected.2⟩
  · obtain ⟨session₀, hses₀, hplace₀, hwhere₀⟩ :=
      h channelId r' s' p (hadmitted.entry_of_old henrolled hget' hold) hold
    by_cases hs : s' = s
    · subst hs
      obtain rfl : session₀ = session := Option.some.inj (hses₀.symm.trans hses)
      obtain ⟨hcur, hreverts⟩ := Session.place_of_not_switching hnot
      obtain rfl := honly channelId r' p hget hp (hcur ▸ hplace₀)
      refine ⟨session', Function.update_self _ _ _, hplace, .inl (hwhere₀.resolve_right ?_)⟩
      rw [hreverts]
      exact nofun
    · exact ⟨session₀, (Function.update_of_ne hs _ _).trans hses₀, hplace₀, hwhere₀⟩

variable [Unknown V] {cfg : Config}

/-- The target of a message may go away. -/
theorem routed {payload : RelayPayload V} (h : Following k)
    (hguard : st.abandons cfg input = false) (hroutes : st.Routes input s session payload)
    (hmanager : k.manager = (st.routeCall cfg input s session payload).2)
    (htransport : k.transport = st.core.transport) (hsession : k.session = st.core.session)
    (hch : k.manager.channels = st.channelManager.channels)
    (hparticipants : ∀ r, (k.manager.content r).participants =
      (st.channelManager.content r).participants)
    {target : Option SocketId}
    (htarget : (st.routeCall cfg input s session payload).1.backpressuredSocketId = target) :
    Following (k.relieve input.now target) := by
  refine h.relieve _
    fun e he hfree hconn session₀ channelId r p hses hswitching hplace hget hp => ?_
  have hdisconnects : st.disconnects cfg input = some e := by
    obtain ⟨raw, ack, hevent, -⟩ := hroutes.event
    rw [hmanager] at hfree
    simp [disconnects, hevent, hroutes.routed, htarget, he, hfree]
  exact reverts_of_not_abandons hguard hdisconnects (htransport ▸ hconn) (hsession ▸ hses)
    hswitching hplace (hch ▸ hget) (hparticipants r ▸ hp)

omit [Unknown V] in
/-- A socket that connects has no seat yet. -/
theorem opened (h : Following k) (hnew : k.session s = none) (transport : Option TransportRef)
    (session : Session V) : Following { k with
      transport := Function.update k.transport s transport
      session := Function.update k.session s (some session) } := by
  intro channelId r s' p hget hp
  obtain ⟨session', hses, hplace, hwhere⟩ := h channelId r s' p hget hp
  have hs : s' ≠ s := by
    rintro rfl
    rw [hnew] at hses
    cases hses
  refine ⟨session', (Function.update_of_ne hs _ _).trans hses, hplace, ?_⟩
  dsimp only
  rwa [Function.update_of_ne hs]

/-- A join that does not switch takes the only seat of its socket. -/
theorem entered {request : JoinRequest} {messages : List (RelayPayload V)} {key : Option String}
    {roster : List ClientType} (h : Following st.core) (hmanaged : Managed cfg st.channelManager)
    (henrolled : Enrolled st.core) (helsewhere : Elsewhere st.core)
    (hghost : st.ghostJoins input = false) (hses : st.sessions.get? s = some session)
    (hentering : Entering session request)
    (hwhere : (st.sockets.get? s).isSome = true ∨
      session.joining.isSome = true ∧ ∃ resolves, input.event = .resumeJoin s resolves)
    (hres : (st.joinCall input.now s session request).1 = .success messages key roster false)
    (hstay : request.switchingChannels = false ∨ session.currentChannelId = none) :
    Following ({ st.core with
      manager := (st.joinCall input.now s session request).2 }.setSession s
        { session with currentChannelId := some request.channelId, joining := none }) := by
  obtain ⟨r, c, key, stale, hadmitted⟩ := admitted_of_success hres
  have hconn : (st.sockets.get? s).isSome = true := by
    by_contra hgone
    obtain ⟨hjoining, resolves, hevent⟩ := hwhere.resolve_left hgone
    obtain ⟨-, hswitch, hcur⟩ :=
      (connected_or_rejects hghost hses hentering hres (.inr ⟨hjoining, hevent⟩)).resolve_left
        hgone
    rcases hstay with hstay | hnone
    · rw [hstay] at hswitch
      cases hswitch
    · rw [hnone] at hcur
      cases hcur
  refine h.admitted hadmitted henrolled (hmanaged.join _ _ _ _ _ _ _).mapSound hses
    hentering.not_switching rfl (.inl hconn) (.refl _) fun channelId _ _ _ _ hcur => ?_
  -- without a switch there is no other channel to be in
  rcases hstay with hstay | hnone
  · rcases (hentering.elsewhere (helsewhere s session hses)).2 hstay with hnone | hcur'
    · rw [hnone] at hcur
      cases hcur
    · exact Option.some.inj (hcur.symm.trans hcur')
  · rw [hnone] at hcur
    cases hcur

omit [Unknown V] in
/-- Who closes a channel gives up its seat there, and forgets the channel. -/
theorem closed {now : ℕ} {channelId : String} (h : Following st.core)
    (hses : st.sessions.get? s = some session) :
    Following ({ st.core with
      manager := ((st.channelManager.leave now s channelId).2.close now channelId).2 }.setSession s
        (if session.currentChannelId = some channelId then
          { session with currentChannelId := none } else session)) := by
  have hclose := Shrinks.close now (st.channelManager.leave now s channelId).2 channelId
  refine h.setSession ((Shrinks.leave _ _ s channelId).trans hclose) hses
    fun channelId' r p hget hp hplace => ?_
  have hne : channelId' ≠ channelId := by
    rintro rfl
    exact not_participant_leave _ _ s channelId' (hclose.entries _ _ hget) p
      (hclose.participants r s p hp)
  split
  next hcur => exact Session.forgets_place (.inr ⟨hcur, rfl⟩) hne hplace
  next => exact ⟨hplace, id⟩

end Following

variable [Unknown V] {cfg : Config}

theorem following_turn (hturn : Turn cfg st input k) (hmanaged : Managed cfg st.channelManager)
    (henrolled : Enrolled st.core) (helsewhere : Elsewhere st.core)
    (hghost : st.ghostJoins input = false) (habandons : st.abandons cfg input = false)
    (h : Following st.core) : Following k := by
  have hsame : ∀ {s : SocketId} {session session' : Session V} {m' : ChannelManager V},
      st.sessions.get? s = some session → ¬Switching session.joining →
      ¬Switching session'.joining → session'.currentChannelId = session.currentChannelId →
      Shrinks st.channelManager m' →
      Following ({ st.core with manager := m' }.setSession s session') :=
    fun hses hnot hnot' hcur hshrinks =>
      h.setSession hshrinks hses fun _ _ _ _ _ => Session.keeps_place hnot hnot' hcur
  cases hturn with
  | idle | drained => exact h
  | opened s clientIp hnew => exact h.opened hnew _ _
  | requested s session request resolves _ hses hfree =>
    exact hsame hses (by simp [hfree, Switching]) id rfl (.refl _)
  | dismissed s session joining hses hnot hsettled =>
    exact hsame hses hnot hsettled.not_switching rfl (.refl _)
  | refusedJoin s session request error joining hses hentering hres hsettled =>
    exact hsame hses hentering.not_switching hsettled.not_switching rfl
      (refusedJoin_of_failure hres).shrinks
  | entered s session request messages key roster delivered hses hentering hwhere hres hstay =>
    exact h.entered hmanaged henrolled helsewhere hghost hses hentering hwhere hres hstay
  | switched s session request messages key roster previous resolves hses hentering hwhere hres
      hswitch hcur =>
    obtain ⟨r, c, key, stale, hadmitted⟩ := admitted_of_success hres
    refine h.admitted hadmitted henrolled (hmanaged.join _ _ _ _ _ _ _).mapSound hses
      hentering.not_switching rfl ?_ (Shrinks.leave _ _ s previous)
      fun channelId _ p hget hp hcur' => ?_
    · refine (connected_or_rejects hghost hses hentering hres hwhere).imp_right ?_
      rintro ⟨rfl, -⟩
      rfl
    · obtain rfl : previous = channelId := Option.some.inj (hcur.symm.trans hcur')
      exact absurd hp (not_participant_leave _ _ s previous hget p)
  | completed s session request messages key roster delivered hses hjoin =>
    refine Following.setSession h (.refl _) hses fun channelId _ _ _ _ hplace => ?_
    simp only [Session.place, Session.reverts, hjoin] at hplace ⊢
    exact ⟨hplace, fun h => by cases h⟩
  | undone s session request messages key roster joining hses hjoin hsettled =>
    refine Following.setSession h (Shrinks.leave _ _ s request.channelId) hses
      fun channelId _ p hget hp hplace => ?_
    simp only [Session.place, hjoin, Option.some.injEq] at hplace
    subst hplace
    exact absurd hp (not_participant_leave _ _ s request.channelId hget p)
  | refused s session payload error hroutes hres =>
    have htouched := touched_of_error hres
    have hrouted : Following { st.core with
        manager := (st.routeCall cfg input s session payload).2
        payloads := st.payloads + 1 } := h.of_shrinks htouched.shrinks rfl rfl
    refine hrouted.routed habandons hroutes rfl rfl rfl (tables_eq_iff.1 htouched.tables).1
      (fun r => ?_) rfl
    obtain ⟨lastActivity, hcontent⟩ := htouched.content r
    dsimp only
    rw [hcontent]
  | buffered s session payload target hroutes hres =>
    obtain ⟨r, message, hpushed⟩ := pushed_of_buffered hres
    have hrouted : Following { st.core with
        manager := (st.routeCall cfg input s session payload).2
        payloads := st.payloads + 1
        accepted := st.accepted ++ acceptance st.channelManager payload.id s payload } :=
      h.of_entries (Shrinks.entries_of_tables hpushed.tables)
        (fun r s p hp => hpushed.participants r ▸ hp) rfl fun _ => id
    exact hrouted.routed habandons hroutes rfl rfl rfl (tables_eq_iff.1 hpushed.tables).1
      hpushed.participants (congrArg RouteResult.backpressuredSocketId hres)
  | direct s session payload target transport _ hres =>
    obtain ⟨r, hgranted⟩ := granted_of_direct hres
    exact h.of_shrinks hgranted.shrinks rfl rfl
  | left s session channelId current hleaves hcur =>
    refine Following.setSession h (Shrinks.leave _ _ s channelId) hleaves.found
      fun channelId' _ p hget hp => Session.forgets_place hcur ?_
    rintro rfl
    exact not_participant_leave _ _ s channelId' hget p hp
  | closed s session channelId participant _ hleaves => exact h.closed hleaves.found
  | dropped s hevent =>
    exact h.drop _ fun hconn session channelId r p hses hswitching hplace hget hp =>
      reverts_of_not_abandons habandons (by simp [disconnects, hevent]) hconn hses hswitching
        hplace hget hp
  | promoted s transport payload _ _ hres =>
    obtain ⟨r, p, next, hpromoted⟩ := promoted_of_advance hres
    exact h.of_shrinks hpromoted.shrinks rfl rfl
  | released s transport _ _ hres => exact h.of_shrinks (exhausted_of_advance hres).shrinks rfl rfl
  | upgraded s =>
    refine h.of_entries (fun _ _ => id) (fun _ _ _ => id) rfl fun s' hconn => ?_
    dsimp only
    rw [Function.update_apply]
    split
    · rfl
    · exact hconn
  | cleaned => exact h.of_shrinks (Shrinks.cleanup _ _) rfl rfl

/-! ## Runs -/

namespace RelayServer

/-- A `join_channel` handler of the socket is suspended. -/
def joinInProgress (st : RelayServer V) (s : SocketId) : Bool :=
  (st.sessions.get? s).any (·.joining.isSome)

end RelayServer

/-- While no join of it is suspended, a socket that is gone takes part in no channel, and a
connected one in its current channel only. A live channel that outlasts its time has a
participant that is connected, or whose join will be undone. -/
structure MembershipFollows (st : RelayServer V) : Prop where
  gone : ∀ r s p, st.joinInProgress s = false → st.sockets.has s = false →
    (st.channelManager.content r).participants.get? s ≠ some p
  only : ∀ r s p, st.joinInProgress s = false →
    (st.channelManager.content r).participants.get? s = some p →
    ∃ channelId, (st.sessions.get? s).bind (·.currentChannelId) = some channelId ∧
      st.channelManager.channels.get? channelId = some r
  kept : ∀ now channelId r, (st.channelManager.cleanup now).channels.get? channelId = some r →
    ((st.channelManager.cleanup now).content r).terminated = false →
    channelTtlMs < now - ((st.channelManager.cleanup now).content r).lastActivity →
    ∃ s p, ((st.channelManager.cleanup now).content r).participants.get? s = some p ∧
      (st.sockets.has s = true ∨ (st.sessions.get? s).any Session.reverts = true)

omit [Unknown V] in
/-- A channel that cleanup keeps after its time has a participant. -/
theorem participant_of_kept {now : ℕ} {m : ChannelManager V} {channelId : String} {r : ChannelRef}
    (hget : (m.cleanup now).channels.get? channelId = some r)
    (hlive : ((m.cleanup now).content r).terminated = false)
    (htime : channelTtlMs < now - ((m.cleanup now).content r).lastActivity) :
    ∃ s p, ((m.cleanup now).content r).participants.get? s = some p ∧
      m.channels.get? channelId = some r ∧ (m.content r).participants.get? s = some p := by
  obtain ⟨hcontent, hchannels, -⟩ := cleanup_spec now m
  have hfilter := (hchannels channelId).symm.trans hget
  obtain ⟨hold, hkept⟩ := Option.filter_eq_some_iff.1 hfilter
  rw [hcontent, if_pos (JsMap.mem_values.2 ⟨channelId, hold⟩)] at hlive htime ⊢
  have hlive' : (m.content r).terminated = false := hlive
  have htime' : channelTtlMs < now - (m.content r).lastActivity := htime
  have hsize : (m.content r).participants.entries ≠ [] := fun hnil => by
    simp [Content.expired, hlive', htime', JsMap.size, hnil] at hkept
  obtain ⟨⟨s, p⟩, hmem⟩ := List.exists_mem_of_ne_nil _ hsize
  have hp := JsMap.mem_entries.1 hmem
  exact ⟨s, p, hp, hold, hp⟩

variable (cfg)

theorem following_after {inputs : List (Input V)}
    (hguard : Runs.Guarded (step cfg)
      (fun st i => st.ghostJoins i = false ∧ st.abandons cfg i = false) (create cfg) inputs) :
    Following (RelayServer.after cfg inputs).core :=
  Runs.Guarded.run_reached (I := fun st : RelayServer V => Following st.core)
    (fun _ r s p _ hp => absurd hp (not_participant_create cfg r s p))
    (fun inputs input h hok => following_turn (turn_of_step cfg _ input) (managed_after cfg inputs)
      (enrolled_after cfg inputs) (elsewhere_after cfg inputs) hok.1 hok.2 h) hguard

/-- In a run in which no join of a socket that is gone takes a seat for good, and no socket
goes away during a switch that will take its seat in the new channel for good, membership
follows connection. -/
theorem membership_follows {inputs : List (Input V)}
    (hguard : Runs.Guarded (step cfg)
      (fun st i => st.ghostJoins i = false ∧ st.abandons cfg i = false) (create cfg) inputs) :
    MembershipFollows (RelayServer.after cfg inputs) := by
  have hfollowing := following_after cfg hguard
  have henrolled := enrolled_after cfg inputs
  have hmanaged := managed_after cfg inputs
  generalize RelayServer.after cfg inputs = st at hfollowing henrolled hmanaged ⊢
  have hseat : ∀ r s p, (st.channelManager.content r).participants.get? s = some p →
      st.joinInProgress s = false → ∃ channelId session, st.sessions.get? s = some session ∧
        st.channelManager.channels.get? channelId = some r ∧
        session.currentChannelId = some channelId ∧ (st.sockets.get? s).isSome = true := by
    intro r s p hp hfree
    obtain ⟨channelId, hget⟩ := henrolled.mapped hmanaged hp
    obtain ⟨session, hses, hplace, hwhere⟩ := hfollowing channelId r s p hget hp
    have hses' : st.sessions.get? s = some session := hses
    have hnone : session.joining = none := by simpa [joinInProgress, hses'] using hfree
    have hnot : ¬Switching session.joining := by simp [hnone, Switching]
    obtain ⟨hcur, hreverts⟩ := Session.place_of_not_switching hnot
    refine ⟨channelId, session, hses', hget, hcur.symm.trans hplace, ?_⟩
    rcases hwhere with hconn | hreverts'
    · exact core_connected.1 hconn
    · rw [hreverts] at hreverts'
      cases hreverts'
  refine ⟨fun r s p hfree hgone hp => ?_, fun r s p hfree hp => ?_,
    fun now channelId r hget hlive htime => ?_⟩
  · obtain ⟨-, -, -, -, -, hconn⟩ := hseat r s p hp hfree
    have hgone' : (st.sockets.get? s).isSome = false := hgone
    rw [hgone'] at hconn
    cases hconn
  · obtain ⟨channelId, session, hses, hget, hcur, -⟩ := hseat r s p hp hfree
    exact ⟨channelId, by rw [hses]; exact hcur, hget⟩
  · obtain ⟨s, p, hp, hold, hp₀⟩ := participant_of_kept hget hlive htime
    obtain ⟨session, hses, -, hwhere⟩ := hfollowing channelId r s p hold hp₀
    have hses' : st.sessions.get? s = some session := hses
    refine ⟨s, p, hp, hwhere.imp core_connected.1
      fun hreverts => ?_⟩
    simpa [hses'] using hreverts

/-- A dapp goes away while its join waits for the room, and the join is resumed. -/
def goneBeforeJoin : List (Input String) :=
  [⟨0, .connection 1 "a" 1⟩,
    ⟨0, .joinChannel 1 ⟨.string "c", .string "dapp", .undefined⟩ true true⟩, ⟨1, .disconnect 1⟩,
    ⟨2, .resumeJoin 1 true⟩]

/-- A dapp goes away while it switches from "c" to "d", and the join is resumed. -/
def goneInSwitch : List (Input String) :=
  [⟨0, .connection 1 "a" 1⟩,
    ⟨0, .joinChannel 1 ⟨.string "c", .string "dapp", .undefined⟩ true true⟩,
    ⟨0, .resumeJoin 1 true⟩,
    ⟨1, .joinChannel 1 ⟨.string "d", .string "dapp", .undefined⟩ true true⟩,
    ⟨1, .resumeJoin 1 true⟩,
    ⟨2, .disconnect 1⟩, ⟨3, .resumeJoin 1 true⟩]

/-- No join is suspended and the one socket is gone, but it takes part in a channel, which
every cleanup keeps. -/
theorem seat_left_behind :
    (¬MembershipFollows (RelayServer.after .unset goneBeforeJoin) ∧
      ∀ now, ((RelayServer.after .unset goneBeforeJoin).channelManager.cleanup now).channels.get?
        "c" = some 0) ∧
    (¬MembershipFollows (RelayServer.after .unset goneInSwitch) ∧
      ∀ now, ((RelayServer.after .unset goneInSwitch).channelManager.cleanup now).channels.get?
        "d" = some 1) := by
  have hnot : ∀ (inputs : List (Input String)) (channelId : String) (r : ChannelRef),
      (RelayServer.after .unset inputs).joinInProgress 1 = false →
      (RelayServer.after .unset inputs).sockets.has 1 = false →
      (RelayServer.after .unset inputs).channelManager.channels.get? channelId = some r →
      ((RelayServer.after .unset inputs).channelManager.content r).terminated = false →
      (((RelayServer.after .unset inputs).channelManager.content r).participants.get? 1).isSome =
        true →
      ¬MembershipFollows (RelayServer.after .unset inputs) ∧
      ∀ now, ((RelayServer.after .unset inputs).channelManager.cleanup now).channels.get?
        channelId = some r := by
    intro inputs channelId r hfree hgone hget hlive hp
    obtain ⟨p, hp⟩ := Option.isSome_iff_exists.1 hp
    have hseated : Seated (RelayServer.after .unset inputs).channelManager 1 channelId r
        p.clientType := ⟨hget, hlive, p, hp, rfl⟩
    exact ⟨fun hfollows => hfollows.gone r 1 p hfree hgone hp,
      fun now => (hseated.cleanup now).entry⟩
  exact ⟨hnot _ "c" 0 (by decide) (by decide) (by decide) (by decide) (by decide),
    hnot _ "d" 1 (by decide) (by decide) (by decide) (by decide) (by decide)⟩

/-- A dapp that goes away after its switch leaves no seat behind. -/
theorem membership_follows_in_switch : MembershipFollows (V := String) (RelayServer.after .unset
    [⟨0, .connection 1 "a" 1⟩,
      ⟨0, .joinChannel 1 ⟨.string "c", .string "dapp", .undefined⟩ true true⟩,
      ⟨0, .resumeJoin 1 true⟩,
      ⟨1, .joinChannel 1 ⟨.string "d", .string "dapp", .undefined⟩ true true⟩,
      ⟨1, .resumeJoin 1 true⟩, ⟨2, .resumeJoin 1 true⟩, ⟨3, .disconnect 1⟩]) :=
  membership_follows .unset (by decide)

end QrlBackend
