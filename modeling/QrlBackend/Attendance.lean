import QrlBackend.Lodging
import QrlBackend.Membership
import QrlBackend.Presence

/-!
# Who attends a channel

The relay as a state of `Presence` : the members are sockets in a role, and a member sits in
a channel while it is a participant there. A switching join is pending from its seat until
its ack, and what the sockets were shown comes from the packets they were sent.
-/

set_option autoImplicit false

namespace QrlBackend

variable {V : Type}

open ChannelManager RelayServer

/-! ## Seats after each operation -/

/-- The socket is a participant, in a role, of the live channel under the id. -/
def Sits (m : ChannelManager V) (id : String) (s : SocketId) (t : ClientType) : Prop :=
  ∃ r, Seated m s id r t

namespace Sits

variable {m m' : ChannelManager V} {id : String} {s s' : SocketId} {t t' : ClientType}

/-- Nobody sits in a channel in two roles. -/
theorem role_eq (h : Sits m id s t) (h' : Sits m id s t') : t = t' := by
  obtain ⟨r, hseat⟩ := h
  obtain ⟨r', hseat'⟩ := h'
  obtain rfl := Option.some.inj (hseat.entry.symm.trans hseat'.entry)
  obtain ⟨p, hp, rfl⟩ := hseat.participant
  obtain ⟨p', hp', rfl⟩ := hseat'.participant
  rw [Option.some.inj (hp.symm.trans hp')]

/-- No two sockets sit in one role. -/
theorem socket_eq [Unknown V] {cfg : Config} (hmanaged : Managed cfg m) (h : Sits m id s t)
    (h' : Sits m id s' t) : s = s' := by
  obtain ⟨r, hseat⟩ := h
  obtain ⟨r', hseat'⟩ := h'
  obtain rfl := Option.some.inj (hseat.entry.symm.trans hseat'.entry)
  obtain ⟨p, hp, hrole⟩ := hseat.participant
  obtain ⟨p', hp', hrole'⟩ := hseat'.participant
  exact hmanaged.roleExclusive r s s' p p' hp hp' (hrole.trans hrole'.symm)

/-- A participant sits, for a tombstone has none. -/
theorem of_participant [Unknown V] {cfg : Config} (hmanaged : Managed cfg m) {r : ChannelRef}
    {p : Participant} (hget : m.channels.get? id = some r)
    (hp : (m.content r).participants.get? s = some p) : Sits m id s p.clientType := by
  refine ⟨r, hget, ?_, p, hp, rfl⟩
  by_contra hterm
  rw [(hmanaged.cleanTombstone r).participants (by simpa using hterm)] at hp
  simp at hp

end Sits

section Operations

variable {m m' : ChannelManager V} {id : String} {s : SocketId} {t : ClientType}

/-- Nothing changed for the channel under the id. -/
theorem sits_congr (hget : m'.channels.get? id = m.channels.get? id)
    (hsame : ∀ r, m.channels.get? id = some r →
      (m'.content r).terminated = (m.content r).terminated ∧
        (m'.content r).participants = (m.content r).participants) :
    Sits m' id s t ↔ Sits m id s t := by
  constructor
  · rintro ⟨r, hentry, hlive, hp⟩
    rw [hget] at hentry
    obtain ⟨hterm, hparts⟩ := hsame r hentry
    exact ⟨r, hentry, hterm ▸ hlive, hparts ▸ hp⟩
  · rintro ⟨r, hentry, hlive, hp⟩
    obtain ⟨hterm, hparts⟩ := hsame r hentry
    exact ⟨r, hget.trans hentry, hterm.trans hlive, by rw [hparts]; exact hp⟩

/-- Seats are a matter of the channel objects and the tables. -/
theorem sits_of_content (hcontent : ∀ r, m'.content r = m.content r)
    (htables : m'.tables = m.tables) : Sits m' id s t ↔ Sits m id s t :=
  sits_congr (by rw [(tables_eq_iff.1 htables).1]) fun r _ => by rw [hcontent]; exact ⟨rfl, rfl⟩

theorem sits_release (m : ChannelManager V) (x : SocketId) :
    Sits (m.releaseDirectDelivery x) id s t ↔ Sits m id s t :=
  sits_of_content (m.content_releaseDirectDelivery x) (m.tables_releaseDirectDelivery x)

/-- Where nobody comes or goes, seats stay. -/
theorem sits_quiet (hquiet : Quiet m m') : Sits m' id s t ↔ Sits m id s t := by
  constructor
  · rintro ⟨r, hentry, hlive, hp⟩
    exact ⟨r, hquiet.entries id r hentry, hquiet.terminated r ▸ hlive, hquiet.participants r ▸ hp⟩
  · rintro ⟨r, hentry, hlive, p, hp, hrole⟩
    refine ⟨r, hquiet.kept id r hentry hlive fun hsize => ?_, (hquiet.terminated r).trans hlive, p,
      by rw [hquiet.participants]; exact hp, hrole⟩
    rw [participants_eq_empty hsize] at hp
    simp at hp

/-- Some participants of one channel are taken out. -/
theorem sits_without {r : ChannelRef} {c : Content V} {x : SocketId} (hsound : MapSound m)
    (hcontent : ∀ r', m'.content r' = if r' = r then c else m.content r')
    (hlive : c.terminated = (m.content r).terminated)
    (hparts : c.participants = (m.content r).participants.delete x) (htables : m'.tables = m.tables)
    {left : String} (hget : m.channels.get? left = some r) :
    Sits m' id s t ↔ Sits m id s t ∧ ¬(id = left ∧ s = x) := by
  have hentries : ∀ id', m'.channels.get? id' = m.channels.get? id' := fun id' => by
    rw [(tables_eq_iff.1 htables).1]
  by_cases hid : id = left
  · subst hid
    constructor
    · rintro ⟨r', hentry, hlive', p, hp, hrole⟩
      obtain rfl := Option.some.inj (((hentries id).symm.trans hentry).symm.trans hget)
      rw [hcontent, if_pos rfl] at hlive' hp
      rw [hparts, JsMap.get?_delete] at hp
      split at hp
      · cases hp
      next hx => exact ⟨⟨r', hget, hlive ▸ hlive', p, hp, hrole⟩, fun hall => hx hall.2⟩
    · rintro ⟨⟨r', hentry, hlive', p, hp, hrole⟩, hnot⟩
      obtain rfl := Option.some.inj (hentry.symm.trans hget)
      have hx : s ≠ x := fun hx => hnot ⟨rfl, hx⟩
      refine ⟨r', (hentries id).trans hentry, ?_, p, ?_, hrole⟩
      · rw [hcontent, if_pos rfl, hlive, hlive']
      · rw [hcontent, if_pos rfl, hparts, JsMap.get?_delete_of_ne _ hx, hp]
  · have hne : ∀ r', m.channels.get? id = some r' → r' ≠ r := fun r' hentry hr =>
      hid (hsound.injective id left r (hr ▸ hentry) hget)
    rw [sits_congr (hentries id) fun r' hentry => ?_]
    · exact ⟨fun h => ⟨h, fun hall => hid hall.1⟩, And.left⟩
    · rw [hcontent, if_neg (hne r' hentry)]
      exact ⟨rfl, rfl⟩

/-- Who leaves a channel gives up that seat only. -/
theorem sits_leave (hsound : MapSound m) (now : ℕ) (x : SocketId) (left : String) :
    Sits (m.leave now x left).2 id s t ↔ Sits m id s t ∧ ¬(id = left ∧ s = x) := by
  have hout := leave_outcome now m x left
  generalize m.leave now x left = out at hout ⊢
  obtain ⟨result, m'⟩ := out
  cases hout with
  | absent hnot =>
    refine ⟨fun h => ⟨h, ?_⟩, And.left⟩
    rintro ⟨rfl, rfl⟩
    obtain ⟨r, hentry, -, p, hp, -⟩ := h
    rw [hnot r hentry] at hp
    cases hp
  | left r p hget _ hcontent htables => exact sits_without hsound hcontent rfl rfl htables hget

/-- And so does a stale socket that is dropped. -/
theorem sits_dropStale (hsound : MapSound m) {r : ChannelRef} {left : String}
    (hget : m.channels.get? left = some r) (x : SocketId) :
    Sits (m.dropStale r x) id s t ↔ Sits m id s t ∧ ¬(id = left ∧ s = x) :=
  sits_without hsound (m.content_dropStale r x) rfl rfl (m.tables_dropStale r x) hget

/-- A closed channel is left by everybody. -/
theorem sits_close (hsound : MapSound m) (now : ℕ) (closed : String) :
    Sits (m.close now closed).2 id s t ↔ Sits m id s t ∧ id ≠ closed := by
  have hout := close_outcome now m closed
  have hshrinks := Shrinks.close now m closed
  generalize m.close now closed = out at hout hshrinks ⊢
  obtain ⟨result, m'⟩ := out
  cases hout with
  | refused hnot =>
    refine ⟨fun h => ⟨h, ?_⟩, And.left⟩
    rintro rfl
    obtain ⟨r, hentry, hlive, -⟩ := h
    rw [hnot r hentry] at hlive
    cases hlive
  | closed r evicted hget hlive hcontent _ hgone hkept =>
    have hkeep : ∀ r', m.channels.get? id = some r' → (m'.content r').terminated = false →
        m'.channels.get? id = some r' := by
      intro r' hentry hlive'
      refine (hkept id fun r'' hentry'' hterm => ?_).trans hentry
      obtain rfl := Option.some.inj (hentry.symm.trans hentry'')
      rw [hlive'] at hterm
      cases hterm
    constructor
    · rintro ⟨r', hentry, hlive', p, hp, hrole⟩
      have hold := hshrinks.entries id r' hentry
      have hcontent' := hcontent r'
      split at hcontent'
      · rw [hcontent'] at hlive'
        cases hlive'
      next hr =>
        rw [hcontent'] at hlive' hp
        refine ⟨⟨r', hold, hlive', p, hp, hrole⟩, fun hid => hr ?_⟩
        exact Option.some.inj (hold.symm.trans (hid ▸ hget))
    · rintro ⟨⟨r', hentry, hlive', p, hp, hrole⟩, hne⟩
      have hr : r' ≠ r := fun hr => hne (hsound.injective id closed r (hr ▸ hentry) hget)
      have hcontent' := hcontent r'
      rw [if_neg hr] at hcontent'
      exact ⟨r', hkeep r' hentry (by rw [hcontent', hlive']), by rw [hcontent', hlive'], p,
        by rw [hcontent', hp], hrole⟩

/-! ### Joins -/

variable {st : RelayServer V} {now : ℕ} {x : SocketId} {session : Session V}
  {request : JoinRequest}

/-- An admitted socket sits in the requested channel, and the one it replaced does not. -/
theorem sits_admitted {messages : List (RelayPayload V)} {r : ChannelRef} {c : Content V}
    {key : Option String} {stale : Option SocketId}
    (h : Admitted st now s request m' messages r c key stale)
    (hsound : MapSound st.channelManager) : Sits m' id x t ↔
      if id = request.channelId then x = s ∧ t = request.clientType ∨
        Sits st.channelManager id x t ∧ x ≠ s ∧ stale ≠ some x
      else Sits st.channelManager id x t := by
  have hcontent : (m'.content r).participants.get? x = if x = s then some ⟨request.clientType, now⟩
      else if stale = some x then none else c.participants.get? x := by
    rw [h.content, if_pos rfl, ← h.stale_eq, participants_joined, JsMap.get?_set, withoutStale]
    rcases sameRoleSocket c.participants s request.clientType with _ | e
    · simp
    · simp only [Option.elim_some, JsMap.get?_delete, Option.some.injEq, eq_comm]
  split
  next hid =>
    subst hid
    constructor
    · rintro ⟨r', hentry, -, p, hp, hrole⟩
      obtain rfl := Option.some.inj (hentry.symm.trans h.get)
      rw [hcontent] at hp
      split at hp
      next hx =>
        cases hp
        exact .inl ⟨hx, hrole.symm⟩
      next hx =>
        split at hp
        · cases hp
        next hstale =>
          refine .inr ⟨?_, hx, hstale⟩
          rcases h.slot with ⟨hget, rfl, -⟩ | ⟨-, -, ⟨creatorIp, rfl⟩, -⟩
          · exact ⟨r', hget, h.live, p, hp, hrole⟩
          · cases hp
    · rintro (⟨rfl, rfl⟩ | ⟨⟨r', hentry, hlive, p, hp, hrole⟩, hx, hstale⟩)
      · exact ⟨r, .joined h⟩
      · rcases h.slot with ⟨hget, rfl, -⟩ | ⟨hnone, -⟩
        · obtain rfl := Option.some.inj (hentry.symm.trans hget)
          obtain ⟨-, hlive', -⟩ := Seated.joined h
          refine ⟨r', h.get, hlive', p, ?_, hrole⟩
          rw [hcontent, if_neg hx, if_neg hstale, hp]
        · rw [hnone] at hentry
          cases hentry
  next hid =>
    have hget : m'.channels.get? id = st.channelManager.channels.get? id := by
      rcases h.slot with ⟨-, -, hch, -⟩ | ⟨-, -, -, hch, -⟩
      · rw [hch]
      · rw [hch, JsMap.get?_set_of_ne _ _ hid]
    refine sits_congr hget fun r' hentry => ?_
    have hr : r' ≠ r := by
      rintro rfl
      rcases h.slot with ⟨hget, -⟩ | ⟨-, hnext, -⟩
      · exact hid (hsound.injective _ _ _ hentry hget)
      · exact (hsound.lt_next _ _ hentry).ne hnext
    rw [h.content, if_neg hr]
    exact ⟨rfl, rfl⟩

/-- The roster of an admitted join lists the roles of the others. -/
theorem mem_roster_iff {messages : List (RelayPayload V)} {key : Option String}
    {roster : List ClientType}
    (hres : (st.joinCall now s session request).1 = .success messages key roster false) :
    t ∈ roster ↔ ∃ x, x ≠ s ∧ Sits (st.joinCall now s session request).2 request.channelId x t := by
  have hout := joinCall_outcome st now s session request
  obtain ⟨r₀, c₀, key₀, stale₀, hadmitted⟩ := admitted_of_success hres
  generalize st.joinCall now s session request = out at hres hout hadmitted ⊢
  obtain ⟨result, m'⟩ := out
  dsimp only at hres hout hadmitted ⊢
  subst hres
  cases hout with
  | admitted r c key' stale hslot _ hlive _ _ _ _ hcontent _ _ hres =>
    obtain ⟨-, -, rfl, -⟩ := JoinResult.success.inj hres
    have hget : m'.channels.get? request.channelId = some r := by
      cases hslot with
      | existing _ hget hch => rw [hch, hget]
      | created _ hch => rw [hch, JsMap.get?_set_self]
    obtain ⟨hentry, hlive', -⟩ := Seated.joined hadmitted
    obtain rfl := Option.some.inj (hentry.symm.trans hget)
    have hparts := hcontent r₀
    rw [if_pos rfl] at hparts
    rw [← hparts]
    constructor
    · intro hmem
      obtain ⟨⟨x, p⟩, hfilter, rfl⟩ := List.mem_map.1 hmem
      obtain ⟨hentry', hne⟩ := List.mem_filter.1 hfilter
      exact ⟨x, by simpa using hne, r₀, hentry, hlive', p, JsMap.mem_entries.1 hentry', rfl⟩
    · rintro ⟨x, hne, r', hentry', -, p, hp, rfl⟩
      obtain rfl := Option.some.inj (hentry.symm.trans hentry')
      exact List.mem_map.2 ⟨(x, p), List.mem_filter.2 ⟨JsMap.mem_entries.2 hp, by simpa using hne⟩,
        rfl⟩

/-- A refused join changes no seat, or drops a stale participant of the role. -/
theorem sits_refused {error : String} (hsound : MapSound st.channelManager)
    (hres : (st.joinCall now s session request).1 = .failure error) :
    (∀ id x t, Sits (st.joinCall now s session request).2 id x t ↔
      Sits st.channelManager id x t) ∨
    ∃ e, st.sockets.get? e = none ∧ (∃ t, Sits st.channelManager request.channelId e t) ∧
      ∀ id x t, Sits (st.joinCall now s session request).2 id x t ↔
        Sits st.channelManager id x t ∧ ¬(id = request.channelId ∧ x = e) := by
  have hout := joinCall_outcome st now s session request
  generalize st.joinCall now s session request = out at hres hout ⊢
  obtain ⟨result, m'⟩ := out
  dsimp only at hres hout ⊢
  subst hres
  cases hout with
  | refused => exact .inl fun _ _ _ => Iff.rfl
  | refusedAfterStale _ r e hget hlive hstale hinactive =>
    obtain ⟨-, p, hp, -⟩ := sameRoleSocket_some hstale
    exact .inr ⟨e, by simpa [isSocketActive, JsMap.has] using hinactive,
      ⟨_, r, hget, hlive, p, hp, rfl⟩, fun _ _ _ => sits_dropStale hsound hget e⟩
  | admitted _ _ _ _ _ _ _ _ _ _ _ _ _ _ hres => cases hres

end Operations

/-! ## Where a socket can sit -/

/-- Whoever sits in a channel has it for a place. -/
def Placed (k : Scene V) : Prop :=
  ∀ id s t, Sits k.manager id s t → ∃ session, k.session s = some session ∧
    session.place = some id

namespace Placed

variable {k : Scene V} {m : ChannelManager V} {l : Lobby V} {s : SocketId}
  {session session' : Session V}

/-- A session knows where its socket sits. -/
theorem place_eq (h : Placed k) (hses : k.session s = some session) {id : String} {t : ClientType}
    (hsits : Sits k.manager id s t) : session.place = some id := by
  obtain ⟨session', hses', hplace⟩ := h id s t hsits
  cases hses.symm.trans hses'
  exact hplace

/-- One session is replaced, and its socket sits in its place. -/
theorem update (h : Placed k)
    (hothers : ∀ id x t, x ≠ s → Sits m id x t → Sits k.manager id x t)
    (hself : ∀ id t, Sits m id s t → session'.place = some id) :
    Placed ⟨m, Function.update k.session s (some session'), l⟩ := by
  intro id x t hsits
  dsimp only
  by_cases hx : x = s
  · subst hx
    exact ⟨session', Function.update_self _ _ _, hself id t hsits⟩
  · rw [Function.update_of_ne hx]
    exact h id x t (hothers id x t hx hsits)

/-- Nobody takes a seat, and the place of the session stays. -/
theorem keep (h : Placed k) (hsits : ∀ id x t, Sits m id x t → Sits k.manager id x t)
    (hses : k.session s = some session)
    (hplace : ∀ id t, Sits m id s t → session.place = some id → session'.place = some id) :
    Placed ⟨m, Function.update k.session s (some session'), l⟩ :=
  h.update (fun id x t _ => hsits id x t) fun id t hs =>
    hplace id t hs (h.place_eq hses (hsits id s t hs))

/-- Seats that are given up leave everybody in place. -/
theorem of_sits (h : Placed k) (hsits : ∀ id x t, Sits m id x t → Sits k.manager id x t) :
    Placed ⟨m, k.session, l⟩ :=
  fun id x t hx => h id x t (hsits id x t hx)

theorem drop [Unknown V] {cfg : Config} (h : Placed k) (hmanaged : Managed cfg k.manager) (now : ℕ)
    (s : SocketId) : Placed (k.drop now s) := by
  have hkeep : ∀ (m : ChannelManager V) (l : Lobby V),
      (∀ id x t, Sits m id x t → Sits k.manager id x t) →
      Placed ⟨m, Function.update k.session s ((k.session s).map fun session =>
        { session with releasedSocketCounter := true }), l⟩ := by
    intro m l hsits
    rcases hses : k.session s with _ | session
    · rw [Option.map_none, ← hses, Function.update_eq_self]
      exact h.of_sits hsits
    · exact h.keep hsits hses fun _ _ _ hplace => hplace
  have hrelease : ∀ id x t, Sits (k.manager.releaseDirectDelivery s) id x t →
      Sits k.manager id x t := fun id x t => (sits_release k.manager s).1
  unfold Scene.drop
  split
  · dsimp only
    split
    · exact hkeep _ _ hrelease
    next channelId _ =>
      exact hkeep _ _ fun id x t hsits =>
        hrelease id x t ((sits_leave (hmanaged.release s).mapSound now s channelId).1 hsits).1
  · exact h

theorem relieve [Unknown V] {cfg : Config} (h : Placed k) (hmanaged : Managed cfg k.manager)
    (now : ℕ) (target : Option SocketId) : Placed (k.relieve now target) := by
  unfold Scene.relieve
  split
  · exact h
  · split
    · exact h
    · exact h.drop hmanaged now _

end Placed

/-- No handler asks for the current channel while it waits. -/
def Apart (k : Scene V) : Prop :=
  ∀ s session pending, k.session s = some session → session.joining = some pending →
    session.currentChannelId ≠ some pending.request.channelId

namespace Apart

variable {k : Scene V} {m : ChannelManager V} {l : Lobby V} {s : SocketId} {session : Session V}

theorem update (h : Apart k) (hself : ∀ pending, session.joining = some pending →
      session.currentChannelId ≠ some pending.request.channelId) :
    Apart ⟨m, Function.update k.session s (some session), l⟩ := by
  intro x session' pending hses hjoin
  dsimp only at hses
  rw [Function.update_apply] at hses
  split at hses
  · cases hses
    exact hself pending hjoin
  · exact h x session' pending hses hjoin

theorem drop (h : Apart k) (now : ℕ) (s : SocketId) : Apart (k.drop now s) := by
  have hkeep : ∀ (m : ChannelManager V) (l : Lobby V),
      Apart ⟨m, Function.update k.session s ((k.session s).map fun session =>
        { session with releasedSocketCounter := true }), l⟩ := by
    intro m l
    rcases hses : k.session s with _ | session
    · rw [Option.map_none, ← hses, Function.update_eq_self]
      exact h
    · exact h.update fun pending => h s session pending hses
  unfold Scene.drop
  split
  · dsimp only
    split <;> exact hkeep _ _
  · exact h

theorem relieve (h : Apart k) (now : ℕ) (target : Option SocketId) :
    Apart (k.relieve now target) := by
  unfold Scene.relieve
  split
  · exact h
  · split
    · exact h
    · exact h.drop now _

end Apart

section Acts

variable [Unknown V] {cfg : Config} {st : RelayServer V} {input : Input V} {k : Scene V}
  {s : SocketId} {session : Session V} {request : JoinRequest} {resolves : Bool}

omit [Unknown V] in
/-- A handler that enters a channel waits for another one than the current, or for none. -/
theorem Apart.of_enters (h : Apart st.scene)
    (henters : st.Enters cfg input s session request resolves) (stage : Stage V)
    (pending : PendingJoin V) (hjoin : RelayServer.waiting request stage = some pending) :
    session.currentChannelId ≠ some pending.request.channelId := by
  unfold RelayServer.waiting at hjoin
  cases henters with
  | rejoin hasks =>
    rw [hasks.outside] at hjoin
    cases hjoin
  | roomJoined hevent hses hjoin' =>
    cases hjoin
    have hne := h s session _ hses hjoin'
    exact hne

/-- Every act keeps them apart. -/
theorem Act.apart (hact : Act cfg st input k) (helsewhere : Elsewhere st.core)
    (h : Apart st.scene) : Apart k := by
  have hleft : ∀ {s session} {channelId : String}, st.sessions.get? s = some session →
      ∀ pending, (if session.currentChannelId = some channelId then
        { session with currentChannelId := none } else session).joining = some pending →
        (if session.currentChannelId = some channelId then
          { session with currentChannelId := none } else session).currentChannelId ≠
            some pending.request.channelId := by
    intro s session channelId hses pending hjoin
    split
    · exact nofun
    next hcur =>
      rw [if_neg hcur] at hjoin
      exact h s session pending hses hjoin
  have hwaiting : ∀ {s session request} {stage : Stage V} (stage' : Stage V),
      st.sessions.get? s = some session → session.joining = some ⟨request, stage⟩ →
      ∀ pending, RelayServer.waiting request stage' = some pending →
        session.currentChannelId ≠ some pending.request.channelId := by
    intro s session request stage stage' hses hjoin pending hwaits
    unfold RelayServer.waiting at hwaits
    split at hwaits
    · cases hwaits
      exact h s session ⟨request, stage⟩ hses hjoin
    · cases hwaits
  cases hact with
  | idle | turned => exact h
  | opened => exact h.update fun _ hjoin => nomatch hjoin
  | requested s session request resolves hasks hcur =>
    refine h.update fun pending hjoin => ?_
    cases hjoin
    exact hcur
  | refusedJoin s session request resolves error henters =>
    exact h.update (h.of_enters henters _)
  | tombstone s session request resolves henters => exact h.update (h.of_enters henters _)
  | entered | completed => exact h.update fun _ hjoin => nomatch hjoin
  | switched s session request resolves messages key roster previous henters hres hswitch =>
    refine h.update fun pending hjoin => ?_
    cases hjoin
    exact (henters.entering.elsewhere (helsewhere s session henters.found)).1 hswitch
  | ended | reported => exact h.update fun _ hjoin => nomatch hjoin
  | aborted s session request stage resolves hevent hses hjoin =>
    have hne := hwaiting .undoing hses hjoin
    exact h.update fun pending hwaits => hne pending hwaits
  | undone s session request resolves messages key roster hevent hses hjoin =>
    have hne := hwaiting .undoing hses hjoin
    exact h.update fun pending hwaits => hne pending hwaits
  | messaged => exact Apart.relieve (by exact h) _ _
  | left s session channelId hevent hleaves => exact h.update (hleft hleaves.found)
  | closed s session channelId participant hevent hleaves => exact h.update (hleft hleaves.found)
  | dropped s => exact h.drop _ s

/-- In every state of a run, no handler asks for the current channel while it waits. -/
theorem apart_after (cfg : Config) (inputs : List (Input V)) :
    Apart (RelayServer.after cfg inputs).scene := by
  induction inputs using List.reverseRecOn with
  | nil =>
    intro s session pending hses
    cases hses
  | append_singleton inputs input ih =>
    rw [RelayServer.after, Runs.run_snoc]
    exact (act_of_step cfg (managed_after cfg inputs) input).apart (elsewhere_after cfg inputs) ih

omit [Unknown V] in
/-- Before it switches, a handler that waits leaves its socket in place. -/
theorem place_waiting (session : Session V) (request : JoinRequest) {stage : Stage V}
    (hstage : ∀ messages key roster resolves,
      stage ≠ .leavingPrevious messages key roster resolves) :
    ({ session with joining := RelayServer.waiting request stage } : Session V).place =
      session.currentChannelId := by
  unfold Session.place RelayServer.waiting
  dsimp only
  split
  next heq =>
    split at heq
    · cases heq
      exact absurd rfl (hstage _ _ _ _)
    · cases heq
  next => rfl

omit [Unknown V] in
theorem place_of_joining {stage : Stage V} (hjoin : session.joining = some ⟨request, stage⟩)
    (hstage : ∀ messages key roster resolves,
      stage ≠ .leavingPrevious messages key roster resolves) :
    session.place = session.currentChannelId := by
  unfold Session.place
  rw [hjoin]
  split
  next heq =>
    cases heq
    exact absurd rfl (hstage _ _ _ _)
  next => rfl

omit [Unknown V] in
theorem place_of_free (hfree : session.joining = none) :
    session.place = session.currentChannelId := by
  unfold Session.place
  rw [hfree]

omit [Unknown V] in
theorem RelayServer.Enters.place_eq (henters : st.Enters cfg input s session request resolves) :
    session.place = session.currentChannelId := by
  cases henters with
  | rejoin hasks => exact place_of_free hasks.free
  | roomJoined _ _ hjoin => exact place_of_joining hjoin fun _ _ _ _ => nofun

omit [Unknown V] in
/-- A join that does not switch leaves no seat elsewhere. -/
theorem Placed.eq_of_stay (h : Placed st.scene) (helsewhere : Elsewhere st.core)
    (henters : st.Enters cfg input s session request resolves)
    (hstay : request.switchingChannels = false ∨ session.currentChannelId = none) {id : String}
    {t : ClientType} (hsits : Sits st.channelManager id s t) : id = request.channelId := by
  have hplace := h.place_eq henters.found hsits
  rw [henters.place_eq] at hplace
  rcases hstay with hstay | hnone
  · rcases (henters.entering.elsewhere (helsewhere s session henters.found)).2 hstay with
      hnone | hcur
    · rw [hnone] at hplace
      cases hplace
    · exact Option.some.inj (hplace.symm.trans hcur)
  · rw [hnone] at hplace
    cases hplace

omit [Unknown V] in
/-- The place after a channel is left. -/
theorem place_left {left id : String} (hplace : session.place = some id) (hne : id ≠ left) :
    (if session.currentChannelId = some left then
      { session with currentChannelId := none } else session).place = some id := by
  split
  next hcur =>
    unfold Session.place at hplace ⊢
    dsimp only
    split at hplace
    next => exact hplace
    next hnot =>
      rw [hcur] at hplace
      exact absurd (Option.some.inj hplace).symm hne
  next => exact hplace

/-- Every act leaves everybody in place. -/
theorem Act.placed (hact : Act cfg st input k) (hmanaged : Managed cfg st.channelManager)
    (helsewhere : Elsewhere st.core) (h : Placed st.scene) : Placed k := by
  have hsound := hmanaged.mapSound
  have hjoined : ∀ now s session request, MapSound (st.joinCall now s session request).2 :=
    fun now s session request => (hmanaged.join _ _ _ _ _ _ _).mapSound
  have hrefused : ∀ {s session request error},
      (st.joinCall input.now s session request).1 = .failure error → ∀ id x t,
      Sits (st.joinCall input.now s session request).2 id x t → Sits st.channelManager id x t := by
    intro s session request error hres id x t hsits
    rcases sits_refused hsound hres with hsame | ⟨e, -, -, hsame⟩
    · exact (hsame id x t).1 hsits
    · exact ((hsame id x t).1 hsits).1
  cases hact with
  | idle => exact h
  | turned m hquiet => exact h.of_sits fun id x t => (sits_quiet hquiet).1
  | opened s clientIp hnew =>
    refine h.update (fun _ _ _ _ => id) fun id t hsits => ?_
    obtain ⟨session, hses, -⟩ := h id s t hsits
    exact absurd (hses.symm.trans hnew) nofun
  | requested s session request resolves hasks =>
    refine h.keep (fun _ _ _ => id) hasks.found fun id t _ hplace => ?_
    exact (place_of_free hasks.free).symm.trans hplace
  | refusedJoin s session request resolves error henters hres =>
    refine h.keep (hrefused hres) henters.found fun id t _ hplace => ?_
    rw [place_waiting _ _ (by exact fun _ _ _ _ => nofun), ← henters.place_eq, hplace]
  | tombstone s session request resolves henters =>
    refine h.keep (fun _ _ _ => id) henters.found fun id t _ hplace => ?_
    rw [place_waiting _ _ (by exact fun _ _ _ _ => nofun), ← henters.place_eq, hplace]
  | entered s session request resolves messages key roster henters hres hstay =>
    obtain ⟨r, c, key', stale, hadmitted⟩ := admitted_of_success hres
    refine h.update (fun id x t hx hsits => ?_) fun id t hsits => ?_
    · rw [sits_admitted hadmitted hsound] at hsits
      split at hsits
      · exact (hsits.resolve_left fun hall => hx hall.1).1
      · exact hsits
    · rw [sits_admitted hadmitted hsound] at hsits
      split at hsits
      next hid => exact congrArg some hid.symm
      next => exact congrArg some (h.eq_of_stay helsewhere henters hstay hsits).symm
  | switched s session request resolves messages key roster previous henters hres hswitch hcur =>
    obtain ⟨r, c, key', stale, hadmitted⟩ := admitted_of_success hres
    refine h.update (fun id x t hx hsits => ?_) fun id t hsits => ?_
    · obtain ⟨hsits, -⟩ := (sits_leave (hjoined _ _ _ _) _ _ _).1 hsits
      rw [sits_admitted hadmitted hsound] at hsits
      split at hsits
      · exact (hsits.resolve_left fun hall => hx hall.1).1
      · exact hsits
    · obtain ⟨hsits, hnot⟩ := (sits_leave (hjoined _ _ _ _) _ _ _).1 hsits
      rw [sits_admitted hadmitted hsound] at hsits
      split at hsits
      next hid => exact congrArg some hid.symm
      next hid =>
        have hplace := h.place_eq henters.found hsits
        rw [henters.place_eq, hcur] at hplace
        exact absurd ⟨(Option.some.inj hplace).symm, rfl⟩ hnot
  | completed s session request resolves messages key roster hevent hses hjoin =>
    refine h.keep (fun _ _ _ => id) hses fun id t _ hplace => ?_
    unfold Session.place at hplace
    rw [hjoin] at hplace
    exact hplace
  | ended s session request stage resolves hevent hses hjoin hstage =>
    refine h.keep (fun _ _ _ => id) hses fun id t _ hplace => ?_
    rw [place_of_joining hjoin (by
      rcases hstage with ⟨error, rfl⟩ | rfl <;> exact fun _ _ _ _ => nofun)] at hplace
    exact hplace
  | reported s session request resolves hevent hses hjoin =>
    refine h.keep (fun _ _ _ => id) hses fun id t _ hplace => ?_
    rw [place_of_joining hjoin fun _ _ _ _ => nofun] at hplace
    exact hplace
  | aborted s session request stage resolves hevent hses hjoin hstage =>
    refine h.keep (fun _ _ _ => id) hses fun id t _ hplace => ?_
    rw [place_of_joining hjoin (by
      rcases hstage with rfl | ⟨error, rfl⟩ | rfl <;> exact fun _ _ _ _ => nofun)] at hplace
    rw [place_waiting _ _ (by exact fun _ _ _ _ => nofun), hplace]
  | undone s session request resolves messages key roster hevent hses hjoin =>
    have hleave := fun id x t => @sits_leave V st.channelManager id x t hsound input.now s
      request.channelId
    refine h.keep (fun id x t hsits => ((hleave id x t).1 hsits).1) hses fun id t hsits hplace => ?_
    unfold Session.place at hplace
    rw [hjoin] at hplace
    exact absurd ⟨(Option.some.inj hplace).symm, rfl⟩ ((hleave id s t).1 hsits).2
  | messaged s session payload =>
    have hquiet := Quiet.routeCall cfg st input s session payload
    refine Placed.relieve ?_ (hmanaged.route _ _ _ _ _ _ _) _ _
    exact h.of_sits fun id x t => (sits_quiet hquiet).1
  | left s session channelId hevent hleaves =>
    have hleave := fun id x t => @sits_leave V st.channelManager id x t hsound input.now s channelId
    refine h.keep (fun id x t hsits => ((hleave id x t).1 hsits).1) hleaves.found
      fun id t hsits hplace => place_left hplace fun hid => ?_
    exact ((hleave id s t).1 hsits).2 ⟨hid, rfl⟩
  | closed s session channelId participant hevent hleaves =>
    have hleave := fun id x t => @sits_leave V st.channelManager id x t hsound input.now s channelId
    have hclose := fun id x t => @sits_close V _ id x t (hmanaged.leave input.now s
      channelId).mapSound input.now channelId
    refine h.keep (fun id x t hsits => ((hleave id x t).1 ((hclose id x t).1 hsits).1).1)
      hleaves.found fun id t hsits hplace => place_left hplace ((hclose id s t).1 hsits).2
  | dropped s => exact h.drop hmanaged _ s

/-- In every state of a run, everybody sits where its session says. -/
theorem placed_after (cfg : Config) (inputs : List (Input V)) :
    Placed (RelayServer.after cfg inputs).scene := by
  induction inputs using List.reverseRecOn with
  | nil =>
    rintro id s t ⟨r, hentry, -⟩
    cases hentry
  | append_singleton inputs input ih =>
    rw [RelayServer.after, Runs.run_snoc]
    exact (act_of_step cfg (managed_after cfg inputs) input).placed (managed_after cfg inputs)
      (elsewhere_after cfg inputs) ih

end Acts

end QrlBackend
