import QrlBackend.Waiting

/-!
# Seats in channels

A socket has a seat in the live channel under an id while it is a participant there
(`Seated`). Leaving the channel, closing it and disconnecting end a seat. Nothing else does :
a join replaces only a socket that is gone, and `cleanup` keeps a channel somebody is in.

A join that waits for its room is for another channel than the current one (`Elsewhere`), so
a socket that switches does not leave the channel it just joined.
-/

set_option autoImplicit false

namespace QrlBackend

variable {V : Type}

open ChannelManager RelayServer

/-- The socket is a participant, in a role, of the live channel under an id. -/
structure Seated (m : ChannelManager V) (s : SocketId) (channelId : String) (r : ChannelRef)
    (t : ClientType) : Prop where
  entry : m.channels.get? channelId = some r
  live : (m.content r).terminated = false
  participant : ∃ p, (m.content r).participants.get? s = some p ∧ p.clientType = t

namespace Seated

variable {m m' : ChannelManager V} {s : SocketId} {channelId : String} {r : ChannelRef}
  {t : ClientType}

/-- A seat stays while its channel object does. -/
theorem of_same (h : Seated m s channelId r t) (hch : m'.channels = m.channels)
    (hlive : (m'.content r).terminated = (m.content r).terminated)
    (hparts : (m'.content r).participants = (m.content r).participants) :
    Seated m' s channelId r t where
  entry := hch ▸ h.entry
  live := hlive ▸ h.live
  participant := hparts ▸ h.participant

theorem of_content (h : Seated m s channelId r t) (hcontent : ∀ r, m'.content r = m.content r)
    (htables : m'.tables = m.tables) : Seated m' s channelId r t :=
  h.of_same (tables_eq_iff.1 htables).1 (by rw [hcontent]) (by rw [hcontent])

theorem release (h : Seated m s channelId r t) (s' : SocketId) :
    Seated (m.releaseDirectDelivery s') s channelId r t :=
  h.of_content (m.content_releaseDirectDelivery s') (m.tables_releaseDirectDelivery s')

/-- Another socket may leave, and the socket another channel. -/
theorem leave (h : Seated m s channelId r t) (hsound : MapSound m) (now : ℕ) {s' : SocketId}
    {left : String} (hkeep : s' = s → left ≠ channelId) :
    Seated (m.leave now s' left).2 s channelId r t := by
  have hout := leave_outcome now m s' left
  generalize m.leave now s' left = out at hout ⊢
  obtain ⟨result, m'⟩ := out
  cases hout with
  | absent => exact h
  | left r' p hget _ hcontent htables =>
    by_cases hr : r = r'
    · subst hr
      obtain rfl : left = channelId := hsound.injective _ _ r hget h.entry
      have hs : s ≠ s' := fun hs => hkeep hs.symm rfl
      obtain ⟨q, hq, hrole⟩ := h.participant
      have hcontent := hcontent r
      rw [if_pos rfl] at hcontent
      refine ⟨(tables_eq_iff.1 htables).1 ▸ h.entry, by rw [hcontent]; exact h.live, q, ?_, hrole⟩
      dsimp only
      rw [hcontent]
      exact (JsMap.get?_delete _ _ _).trans ((if_neg hs).trans hq)
    · have hcontent := hcontent r
      rw [if_neg hr] at hcontent
      exact h.of_same (tables_eq_iff.1 htables).1 (by rw [hcontent]) (by rw [hcontent])

/-- Another channel may close. -/
theorem close (h : Seated m s channelId r t) (hsound : MapSound m) (now : ℕ) {closed : String}
    (hne : closed ≠ channelId) : Seated (m.close now closed).2 s channelId r t := by
  have hout := close_outcome now m closed
  generalize m.close now closed = out at hout ⊢
  obtain ⟨result, m'⟩ := out
  cases hout with
  | refused => exact h
  | closed r' evicted hget _ hcontent _ _ hkept =>
    have hr : r ≠ r' := by
      rintro rfl
      exact hne (hsound.injective _ _ r hget h.entry)
    have hcontent := hcontent r
    rw [if_neg hr] at hcontent
    have hentry : m'.channels.get? channelId = m.channels.get? channelId := by
      refine hkept channelId fun r'' hget'' hterm => ?_
      obtain rfl : r = r'' := Option.some.inj (h.entry.symm.trans hget'')
      rw [hcontent, h.live] at hterm
      cases hterm
    exact ⟨hentry.trans h.entry, by rw [hcontent]; exact h.live,
      by rw [hcontent]; exact h.participant⟩

/-- A channel somebody is in stays. -/
theorem cleanup (h : Seated m s channelId r t) (now : ℕ) :
    Seated (m.cleanup now) s channelId r t := by
  obtain ⟨p, hp, hrole⟩ := h.participant
  have hkept : (m.content r).expired now = false := by
    unfold Content.expired
    rw [h.live]
    by_contra hexpired
    have hsize : (m.content r).participants.size = 0 := by
      simp at hexpired
      exact hexpired.1
    rw [participants_eq_empty hsize] at hp
    simp at hp
  have hcontent := (cleanup_spec now m).1 r
  refine ⟨?_, ?_, p, ?_, hrole⟩
  · rw [(cleanup_spec now m).2.1, h.entry]
    simp [Option.filter, hkept]
  · rw [hcontent]
    split <;> exact h.live
  · rw [hcontent]
    split <;> exact hp

/-- Dropping a stale socket leaves the others seated. -/
theorem dropStale (h : Seated m s channelId r t) (r' : ChannelRef) {e : SocketId} (hne : s ≠ e) :
    Seated (m.dropStale r' e) s channelId r t := by
  have hcontent := m.content_dropStale r' e r
  obtain ⟨p, hp, hrole⟩ := h.participant
  refine ⟨(tables_eq_iff.1 (m.tables_dropStale r' e)).1 ▸ h.entry, ?_, p, ?_, hrole⟩
  · rw [hcontent]
    split
    next hr => exact hr ▸ h.live
    next => exact h.live
  · rw [hcontent]
    split
    next hr =>
      subst hr
      exact (JsMap.get?_delete _ _ _).trans ((if_neg hne).trans hp)
    next => exact hp

/-- A refused join takes no seat of a connected socket. -/
theorem refusedJoin {st : RelayServer V} (h : Seated st.channelManager s channelId r t)
    (hrefused : RefusedJoin st m') (hconn : (st.sockets.get? s).isSome = true) :
    Seated m' s channelId r t := by
  cases hrefused with
  | unchanged => exact h
  | dropped r' e hgone =>
    refine h.dropStale r' ?_
    rintro rfl
    rw [hgone] at hconn
    cases hconn

/-- Nor does a join. -/
theorem admitted {st : RelayServer V} {now : ℕ} {s' : SocketId} {request : JoinRequest}
    {messages : List (RelayPayload V)} {r' : ChannelRef} {c : Content V} {key : Option String}
    {stale : Option SocketId} (h : Seated st.channelManager s channelId r t)
    (hadmitted : Admitted st now s' request m' messages r' c key stale)
    (hsound : MapSound st.channelManager) (hconn : (st.sockets.get? s).isSome = true) :
    Seated m' s channelId r t := by
  obtain ⟨p, hp, hrole⟩ := h.participant
  have hcontent := hadmitted.content r
  rcases hadmitted.slot with ⟨hget, rfl, hch, -⟩ | ⟨hget, hnext, -, hch, -⟩
  · by_cases hr : r = r'
    · subst hr
      rw [if_pos rfl, ← hadmitted.stale_eq] at hcontent
      refine ⟨hch ▸ h.entry, ?_, ?_⟩
      · rw [hcontent]
        unfold Content.joined
        cases sameRoleSocket _ s' request.clientType <;> exact h.live
      · rw [hcontent, participants_joined]
        by_cases hs : s = s'
        · subst hs
          refine ⟨⟨request.clientType, now⟩, JsMap.get?_set_self _ _ _, ?_⟩
          rw [← hrole]
          exact (hadmitted.role p hp).symm
        · refine ⟨p, ?_, hrole⟩
          rw [JsMap.get?_set_of_ne _ _ hs]
          unfold withoutStale
          cases hstale : sameRoleSocket (st.channelManager.content r).participants s'
              request.clientType with
          | none => exact hp
          | some e =>
            rw [Option.elim_some, JsMap.get?_delete, if_neg, hp]
            rintro rfl
            rw [hadmitted.inactive s (hadmitted.stale_eq.symm.trans hstale)] at hconn
            cases hconn
    · rw [if_neg hr] at hcontent
      exact h.of_same hch (by rw [hcontent]) (by rw [hcontent])
  · have hr : r ≠ r' := by
      have hlt := hsound.lt_next channelId r h.entry
      rw [hnext]
      exact hlt.ne
    have hid : channelId ≠ request.channelId := by
      rintro rfl
      rw [h.entry] at hget
      cases hget
    rw [if_neg hr] at hcontent
    refine ⟨?_, by rw [hcontent]; exact h.live, by rw [hcontent]; exact h.participant⟩
    rw [hch, JsMap.get?_set_of_ne _ _ hid]
    exact h.entry

/-- A change of one channel that keeps who is in it. -/
theorem of_ite (h : Seated m s channelId r t) {r' : ChannelRef} {c : Content V}
    (hcontent : ∀ r'', m'.content r'' = if r'' = r' then c else m.content r'')
    (hlive : c.terminated = (m.content r').terminated)
    (hparts : c.participants = (m.content r').participants) (htables : m'.tables = m.tables) :
    Seated m' s channelId r t := by
  refine h.of_same (tables_eq_iff.1 htables).1 ?_ ?_
  · rw [hcontent]
    split
    next hr => rw [hr, hlive]
    next => rfl
  · rw [hcontent]
    split
    next hr => rw [hr, hparts]
    next => rfl

/-- A refused message moves nobody. -/
theorem touched (h : Seated m s channelId r t) (htouched : Touched m m') :
    Seated m' s channelId r t := by
  obtain ⟨lastActivity, hcontent⟩ := htouched.content r
  exact h.of_same (tables_eq_iff.1 htouched.tables).1 (by rw [hcontent]) (by rw [hcontent])

/-- Who joins has a seat. -/
theorem joined {st : RelayServer V} {now : ℕ} {request : JoinRequest}
    {messages : List (RelayPayload V)} {c : Content V} {key : Option String}
    {stale : Option SocketId} (hadmitted : Admitted st now s request m' messages r c key stale) :
    Seated m' s request.channelId r request.clientType := by
  have hcontent := hadmitted.content r
  rw [if_pos rfl, ← hadmitted.stale_eq] at hcontent
  refine ⟨hadmitted.get, ?_, ⟨request.clientType, now⟩, ?_, rfl⟩
  · rw [hcontent]
    unfold Content.joined
    cases sameRoleSocket _ s request.clientType <;> exact hadmitted.live
  · rw [hcontent, participants_joined]
    exact JsMap.get?_set_self _ _ _

variable [Unknown V] {cfg : Config}

theorem drop {k : Core V} (h : Seated k.manager s channelId r t) (hmanaged : Managed cfg k.manager)
    (now : ℕ) {s' : SocketId} (hne : s' ≠ s) : Seated (k.drop now s').manager s channelId r t := by
  unfold Core.drop
  split
  · dsimp only
    split
    · exact h.release s'
    · exact (h.release s').leave (hmanaged.release s').mapSound now fun hs => absurd hs hne
  · exact h

theorem relieve {k : Core V} (h : Seated k.manager s channelId r t)
    (hmanaged : Managed cfg k.manager) {now : ℕ} {target : Option SocketId}
    (hconn : ((k.relieve now target).transport s).isSome = true) :
    Seated (k.relieve now target).manager s channelId r t := by
  unfold Core.relieve at hconn ⊢
  split at hconn
  · exact h
  · split at hconn
    next hhas => rwa [if_pos hhas]
    next hhas =>
      rw [if_neg hhas]
      exact h.drop hmanaged now (Core.connected_drop hconn).1.symm

end Seated

/-! ## Where a join leads -/

/-- A join that waits for its room is for another channel than the current one, and without
a current one it does not switch. -/
def Session.Elsewhere (session : Session V) : Prop :=
  ∀ request resolves, session.joining = some ⟨request, .joiningRoom resolves⟩ →
    session.currentChannelId ≠ some request.channelId ∧
    (request.switchingChannels = false → session.currentChannelId = none)

/-- No join leads to the channel its socket is in. -/
def Elsewhere (k : Core V) : Prop :=
  ∀ s session, k.session s = some session → session.Elsewhere

/-- A settled join leads nowhere any more. -/
theorem Session.Elsewhere.of_settled {session : Session V} (h : Settled session.joining) :
    session.Elsewhere := by
  intro request resolves hjoin
  rw [hjoin] at h
  exact h.elim

/-- The current channel is given up. -/
theorem Session.Elsewhere.left {session : Session V} (h : session.Elsewhere)
    {current : Option String} (hcur : current = session.currentChannelId ∨ current = none) :
    ({ session with currentChannelId := current } : Session V).Elsewhere := by
  intro request resolves hjoin
  rcases hcur with rfl | rfl
  · exact h request resolves hjoin
  · exact ⟨nofun, fun _ => rfl⟩

/-- A switching join leads to another channel than the current one, the others to the
current one or from none. -/
theorem Entering.elsewhere {session : Session V} {request : JoinRequest}
    (hentering : Entering session request) (h : session.Elsewhere) :
    (request.switchingChannels = true → session.currentChannelId ≠ some request.channelId) ∧
    (request.switchingChannels = false → session.currentChannelId = none ∨
      session.currentChannelId = some request.channelId) := by
  cases hentering with
  | rejoin hfree hcur hstay =>
    refine ⟨fun hswitch => ?_, fun _ => .inr hcur⟩
    rw [hstay] at hswitch
    cases hswitch
  | @roomJoined request hjoin =>
    obtain ⟨hne, hnone⟩ := h request true hjoin
    exact ⟨fun _ => hne, fun hstay => .inl (hnone hstay)⟩

namespace Elsewhere

theorem setSession {k : Core V} (h : Elsewhere k) {s : SocketId} {session : Session V}
    (hsession : session.Elsewhere) : Elsewhere (k.setSession s session) := by
  intro s' session' hses
  dsimp only [Core.setSession] at hses
  rw [Function.update_apply] at hses
  split at hses
  · exact Option.some.inj hses ▸ hsession
  · exact h s' session' hses

theorem drop {k : Core V} (h : Elsewhere k) (now : ℕ) (s : SocketId) :
    Elsewhere (k.drop now s) := by
  intro s' session' hses
  by_cases hs : s' = s
  · subst hs
    unfold Core.drop at hses
    split at hses
    · dsimp only at hses
      rw [Function.update_self] at hses
      obtain ⟨session, hsession, rfl⟩ := Option.map_eq_some_iff.1 hses
      exact h s' session hsession
    · exact h s' session' hses
  · rw [Core.session_drop now k hs] at hses
    exact h s' session' hses

theorem relieve {k : Core V} (h : Elsewhere k) (now : ℕ) (target : Option SocketId) :
    Elsewhere (k.relieve now target) := by
  unfold Core.relieve
  split
  · exact h
  · split
    · exact h
    · exact h.drop now _

end Elsewhere

variable [Unknown V] {cfg : Config} {st : RelayServer V} {input : Input V} {k : Core V}

/-- Every turn keeps it so. -/
theorem elsewhere_turn (hturn : Turn cfg st input k) (h : Elsewhere st.core) : Elsewhere k := by
  cases hturn with
  | idle | direct | drained | promoted | released | upgraded | cleaned => exact h
  | opened s clientIp =>
    intro s' session' hses
    dsimp only at hses
    rw [Function.update_apply] at hses
    split at hses
    · exact Option.some.inj hses ▸ .of_settled trivial
    · exact h s' session' hses
  | requested s session request resolves _ _ _ hcur hswitch =>
    refine h.setSession fun request' resolves' hjoin => ?_
    obtain ⟨rfl, -⟩ := PendingJoin.mk.inj (Option.some.inj hjoin)
    refine ⟨hcur, fun hstay => ?_⟩
    rw [hstay] at hswitch
    simpa using hswitch.symm
  | dismissed s session joining _ _ hsettled => exact h.setSession (.of_settled hsettled)
  | refusedJoin s session request error joining _ _ _ hsettled =>
    exact Elsewhere.setSession h (.of_settled hsettled)
  | entered => exact Elsewhere.setSession h (.of_settled trivial)
  | switched =>
    refine Elsewhere.setSession h fun request' resolves' hjoin => ?_
    cases hjoin
  | completed => exact Elsewhere.setSession h (.of_settled trivial)
  | undone s session request messages key roster joining _ _ hsettled =>
    exact Elsewhere.setSession h (.of_settled hsettled)
  | left s session channelId current hleaves hcur =>
    exact Elsewhere.setSession h ((h s session hleaves.found).left (hcur.imp_right And.right))
  | closed s session channelId participant _ hleaves =>
    refine Elsewhere.setSession h ?_
    split
    · exact (h s session hleaves.found).left (.inr rfl)
    · exact h s session hleaves.found
  | refused | buffered =>
    refine Elsewhere.relieve ?_ _ _
    exact h
  | dropped s => exact h.drop _ s

/-- In every state of a run, no join leads to the channel its socket is in. -/
theorem elsewhere_after (cfg : Config) (inputs : List (Input V)) :
    Elsewhere (RelayServer.after cfg inputs).core :=
  Runs.run_invariant (I := fun st : RelayServer V => Elsewhere st.core)
    (fun st input h => elsewhere_turn (turn_of_step cfg st input) h) inputs fun _ _ h => by cases h

end QrlBackend
