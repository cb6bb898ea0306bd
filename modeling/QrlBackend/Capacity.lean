import QrlBackend.Acts
import QrlBackend.Shrinks

/-!
# The caps on live channels

A join creates a channel when its id has no record. The cap per creator address is checked
where the channel is created, and holds in every run (`address_cap_holds`). The cap on all
live channels is checked by the socket handler before it joins the room, and the channel is
created after that await. So it holds in exactly the runs in which no resumed join creates a
channel while the relay is at its cap (`caps_hold_iff`).
-/

set_option autoImplicit false

namespace QrlBackend

variable {V : Type}

open ChannelManager RelayServer

/-! ## Counting live channels -/

/-- Fewer entries, and no channel that was terminated lives. -/
structure Declines (m m' : ChannelManager V) : Prop where
  entries : ∀ id r, m'.channels.get? id = some r → m.channels.get? id = some r
  live : ∀ r, (m'.content r).terminated = false → (m.content r).terminated = false
  creatorIp : ∀ r, (m'.content r).creatorIp = (m.content r).creatorIp

/-- A new live channel under an id that had no record. -/
structure Opens (m m' : ChannelManager V) (channelId : String) (creatorIp : Option String) :
    Prop where
  absent : m.channels.get? channelId = none
  channels : m'.channels = m.channels.set channelId m.objects.next
  live : (m'.content m.objects.next).terminated = false
  creatorIp : (m'.content m.objects.next).creatorIp = creatorIp
  content : ∀ r, r ≠ m.objects.next → m'.content r = m.content r

namespace ChannelManager

/-- The live channels whose creator passes a test. -/
def liveCount (m : ChannelManager V) (p : Option String → Bool) : ℕ :=
  m.channels.values.countP fun r => !(m.content r).terminated && p (m.content r).creatorIp

/-- All live channels. -/
theorem getActiveChannelCount_eq (m : ChannelManager V) :
    m.getActiveChannelCount = m.liveCount fun _ => true := by
  simp only [getActiveChannelCount, liveCount, Bool.and_true]
  rfl

/-- The live channels of one creator. -/
theorem countLiveChannelsCreatedBy_eq (m : ChannelManager V) (ip : String) :
    m.countLiveChannelsCreatedBy ip = m.liveCount fun creatorIp => creatorIp = some ip :=
  rfl

end ChannelManager

/-- While no channel is opened, there are no more of them. -/
theorem Declines.liveCount_le {m m' : ChannelManager V} (h : Declines m m')
    (p : Option String → Bool) : m'.liveCount p ≤ m.liveCount p := by
  refine ((JsMap.values_subperm h.entries).countP_le _).trans (List.countP_mono_left ?_)
  intro r _ hr
  rw [Bool.and_eq_true, Bool.not_eq_true'] at hr ⊢
  exact ⟨h.live r hr.1, h.creatorIp r ▸ hr.2⟩

/-- A channel that is opened is one more of its creator. -/
theorem Opens.liveCount_eq {m m' : ChannelManager V} {channelId : String}
    {creatorIp : Option String} (h : Opens m m' channelId creatorIp) (hsound : MapSound m)
    (p : Option String → Bool) :
    m'.liveCount p = m.liveCount p + if p creatorIp then 1 else 0 := by
  have hold : m.channels.values.countP (fun r =>
      !(m'.content r).terminated && p (m'.content r).creatorIp) = m.liveCount p := by
    refine List.countP_congr fun r hr => ?_
    obtain ⟨id, hget⟩ := JsMap.mem_values.1 hr
    rw [h.content r (hsound.lt_next id r hget).ne]
  rw [liveCount, h.channels, JsMap.values_set_of_none _ h.absent, List.countP_append, hold,
    List.countP_singleton, h.live, h.creatorIp]
  simp

namespace Declines

theorem refl (m : ChannelManager V) : Declines m m := ⟨fun _ _ => id, fun _ => id, fun _ => rfl⟩

theorem trans {m m' m'' : ChannelManager V} (h : Declines m m') (h' : Declines m' m'') :
    Declines m m'' where
  entries id r hget := h.entries id r (h'.entries id r hget)
  live r hlive := h.live r (h'.live r hlive)
  creatorIp r := (h'.creatorIp r).trans (h.creatorIp r)

/-- Where nobody comes or goes, no channel is opened. -/
theorem of_quiet {m m' : ChannelManager V} (h : Quiet m m') : Declines m m' where
  entries := h.entries
  live r hlive := h.terminated r ▸ hlive
  creatorIp := h.creatorIp

/-- A change of one channel that does not revive it. -/
theorem of_ite {m m' : ChannelManager V} {r : ChannelRef} {c : Content V}
    (h : ∀ r', m'.content r' = if r' = r then c else m.content r')
    (hlive : c.terminated = false → (m.content r).terminated = false)
    (hip : c.creatorIp = (m.content r).creatorIp)
    (hentries : ∀ id r, m'.channels.get? id = some r → m.channels.get? id = some r) :
    Declines m m' where
  entries := hentries
  live r' hr' := by
    rw [h] at hr'
    split at hr'
    next hr => exact hr ▸ hlive hr'
    next => exact hr'
  creatorIp r' := by
    rw [h]
    split
    next hr => rw [hr, hip]
    next => rfl

/-- Who leaves opens no channel. -/
theorem leave (now : ℕ) (m : ChannelManager V) (s : SocketId) (channelId : String) :
    Declines m (m.leave now s channelId).2 := by
  have hout := leave_outcome now m s channelId
  generalize m.leave now s channelId = out at hout ⊢
  obtain ⟨result, m'⟩ := out
  cases hout with
  | absent => exact refl _
  | left r p _ _ hcontent htables =>
    exact of_ite hcontent id rfl (Shrinks.entries_of_tables htables)

/-- Neither does who closes one. -/
theorem close (now : ℕ) (m : ChannelManager V) (channelId : String) :
    Declines m (m.close now channelId).2 := by
  have hshrinks := Shrinks.close now m channelId
  have hout := close_outcome now m channelId
  generalize m.close now channelId = out at hout hshrinks ⊢
  obtain ⟨result, m'⟩ := out
  cases hout with
  | refused => exact refl _
  | closed r _ _ hlive hcontent => exact of_ite hcontent (fun _ => hlive) rfl hshrinks.entries

theorem dropStale (m : ChannelManager V) (r : ChannelRef) (e : SocketId) :
    Declines m (m.dropStale r e) :=
  of_ite (m.content_dropStale r e) id rfl (Shrinks.entries_of_tables (m.tables_dropStale r e))

end Declines

/-! ## The cap of the manager -/

namespace ChannelManager

section

variable {m m' : ChannelManager V} (now : ℕ)

theorem maxChannelsPerIp_of_tables (h : m'.tables = m.tables) :
    m'.maxChannelsPerIp = m.maxChannelsPerIp :=
  (tables_eq_iff.1 h).2.2.1

theorem maxChannelsPerIp_releaseAll (m : ChannelManager V) (r : ChannelRef)
    (messages : List (BufferedMessage V)) :
    (m.releaseAll r messages).maxChannelsPerIp = m.maxChannelsPerIp :=
  maxChannelsPerIp_of_tables (m.tables_releaseAll r messages)

theorem maxChannelsPerIp_bindAndAdmit (m : ChannelManager V) (r : ChannelRef) (s : SocketId)
    (t : ClientType) (key : Option String) :
    (bindAndAdmit now m r s t key).2.maxChannelsPerIp = m.maxChannelsPerIp := by
  have hadd : ∀ m : ChannelManager V,
      (addParticipant now m r s t).2.maxChannelsPerIp = m.maxChannelsPerIp :=
    fun _ => maxChannelsPerIp_releaseAll _ _ _
  unfold bindAndAdmit
  dsimp only
  split
  · rfl
  split
  · exact hadd m
  · exact hadd _
  · split
    · rfl
    · exact hadd m

theorem maxChannelsPerIp_joinChannel (isSocketActive : SocketId → Bool) (m : ChannelManager V)
    (r : ChannelRef) (s : SocketId) (t : ClientType) (key : Option String) :
    (joinChannel isSocketActive now m r s t key).2.maxChannelsPerIp = m.maxChannelsPerIp := by
  unfold joinChannel
  dsimp only
  split
  · rfl
  split
  · rfl
  split
  · split
    · rfl
    · exact (maxChannelsPerIp_bindAndAdmit now _ r s t key).trans
        (maxChannelsPerIp_of_tables (m.tables_dropStale r _))
  · exact maxChannelsPerIp_bindAndAdmit now m r s t key

/-- A join leaves the cap as it is. -/
theorem maxChannelsPerIp_join (isSocketActive : SocketId → Bool) (m : ChannelManager V)
    (channelId : String) (s : SocketId) (t : ClientType) (publicKey creatorIp : Option String) :
    (m.join isSocketActive now channelId s t publicKey creatorIp).2.maxChannelsPerIp =
      m.maxChannelsPerIp := by
  unfold join
  split
  · rfl
  split
  · split
    · rfl
    · exact maxChannelsPerIp_joinChannel now _ m _ s t _
  · split
    · rfl
    · exact maxChannelsPerIp_joinChannel now _ _ _ s t _

theorem maxChannelsPerIp_evictTombstones (ids : List String) (m : ChannelManager V) :
    (m.evictTombstones ids).maxChannelsPerIp = m.maxChannelsPerIp := by
  induction ids generalizing m with
  | nil => rfl
  | cons oldest rest ih =>
    unfold evictTombstones
    split
    · rw [ih, evictTombstone]
      split
      · split <;> rfl
      · rfl
    · rfl

/-- So does a close. -/
theorem maxChannelsPerIp_close (m : ChannelManager V) (channelId : String) :
    (m.close now channelId).2.maxChannelsPerIp = m.maxChannelsPerIp := by
  unfold close
  dsimp only
  split
  · rfl
  split
  · rfl
  · exact (maxChannelsPerIp_evictTombstones _ _).trans (maxChannelsPerIp_releaseAll _ _ _)

/-- And so does a cleanup. -/
theorem maxChannelsPerIp_cleanup (m : ChannelManager V) :
    (m.cleanup now).maxChannelsPerIp = m.maxChannelsPerIp := by
  have hfold : ∀ (entries : List (String × ChannelRef)) (m : ChannelManager V),
      (entries.foldl (fun m e => m.cleanupChannel now e.1 e.2) m).maxChannelsPerIp =
        m.maxChannelsPerIp := by
    intro entries
    induction entries with
    | nil => exact fun m => rfl
    | cons e entries ih =>
      intro m
      rw [List.foldl_cons, ih]
      unfold cleanupChannel
      dsimp only
      split
      · split <;> exact maxChannelsPerIp_releaseAll _ _ _
      · split <;> exact maxChannelsPerIp_releaseAll _ _ _
  exact hfold m.channels.entries m

end

/-- No call changes the cap per address. -/
theorem maxChannelsPerIp_step [Unknown V] (cfg : Config) (m : ChannelManager V) (c : Call V) :
    (c.step cfg m).maxChannelsPerIp = m.maxChannelsPerIp := by
  obtain ⟨now, op⟩ := c
  unfold Call.step Call.perform
  cases op with
  | join isSocketActive channelId s t publicKey creatorIp =>
    exact maxChannelsPerIp_join now isSocketActive m channelId s t publicKey creatorIp
  | leave s channelId =>
    have hout := leave_outcome now m s channelId
    dsimp only
    generalize m.leave now s channelId = out at hout ⊢
    obtain ⟨result, m'⟩ := out
    cases hout with
    | absent => rfl
    | left _ _ _ _ _ h => exact maxChannelsPerIp_of_tables h
  | close channelId => exact maxChannelsPerIp_close now m channelId
  | routeMessage canSocketReceive channelId s data sourceIp bufferedAt =>
    have hout := routeMessage_outcome cfg canSocketReceive now bufferedAt m channelId s data
      sourceIp
    dsimp only
    generalize m.routeMessage cfg canSocketReceive now bufferedAt channelId s data sourceIp = out
      at hout ⊢
    obtain ⟨result, m'⟩ := out
    cases hout with
    | refused => rfl
    | refusedLate _ _ _ _ _ _ _ _ h => exact maxChannelsPerIp_of_tables h
    | direct _ _ _ _ _ _ _ _ _ _ _ _ _ _ _ h => exact maxChannelsPerIp_of_tables h
    | buffered _ _ _ _ _ _ _ _ _ _ _ h => exact maxChannelsPerIp_of_tables h
  | releaseDirectDelivery s => exact maxChannelsPerIp_of_tables (m.tables_releaseDirectDelivery s)
  | advanceDirectDelivery s =>
    have hout := advance_outcome m s
    dsimp only
    generalize m.advanceDirectDelivery s = out at hout ⊢
    obtain ⟨result, m'⟩ := out
    cases hout with
    | idle => rfl
    | released _ _ _ _ h => exact maxChannelsPerIp_of_tables h
    | promoted _ _ _ _ _ _ _ _ h => exact maxChannelsPerIp_of_tables h
  | cleanup => exact maxChannelsPerIp_cleanup now m

end ChannelManager

/-- The relay's manager has the configured cap. -/
theorem Managed.maxChannelsPerIp [Unknown V] {cfg : Config} {m : ChannelManager V}
    (h : Managed cfg m) : m.maxChannelsPerIp = some cfg.relayMaxChannelsPerIp := by
  obtain ⟨calls, rfl⟩ := h
  exact Runs.run_invariant
    (I := fun m : ChannelManager V => m.maxChannelsPerIp = some cfg.relayMaxChannelsPerIp)
    (fun m c hm => (maxChannelsPerIp_step cfg m c).trans hm) calls rfl

/-- A creator that is not at the cap is below it. -/
theorem Managed.below_cap [Unknown V] {cfg : Config} {m : ChannelManager V} (h : Managed cfg m)
    {ip : String} (hcap : m.atChannelCap (some ip) = false) :
    m.countLiveChannelsCreatedBy ip < cfg.relayMaxChannelsPerIp := by
  simpa [atChannelCap, h.maxChannelsPerIp] using hcap

/-! ## The join that opens a channel -/

namespace RelayServer

/-- Whether the requested join finds no record, a usable key and room under the cap of its
address, so that it creates a channel. -/
def opensChannel (m : ChannelManager V) (clientIp : String) (request : JoinRequest) : Bool :=
  !m.channels.has request.channelId && !m.atChannelCap (some clientIp) &&
    match canonicalPublicKey request.clientType request.publicKey with
    | .error _ => false
    | .ok _ => true

/-- Nothing refuses the first participant of a new channel. -/
theorem join_created {m : ChannelManager V} {isSocketActive : SocketId → Bool} {now : ℕ}
    {channelId : String} {s : SocketId} {t : ClientType} {publicKey creatorIp key : Option String}
    (habsent : m.channels.get? channelId = none) (hcap : m.atChannelCap creatorIp = false)
    (hkey : canonicalPublicKey t publicKey = .ok key) (error : String) :
    (m.join isSocketActive now channelId s t publicKey creatorIp).1 ≠ .failure error := by
  unfold join
  rw [hkey, habsent, hcap]
  dsimp only
  rw [if_neg Bool.false_ne_true]
  set m₁ := m.createChannel now channelId creatorIp with hm₁
  have hfresh : m₁.channel m.objects.next = Channel.fresh now creatorIp := by
    rw [hm₁, channel, createChannel]
    exact ObjectHeap.get_alloc_next _ _
  have hstale : sameRoleSocket (Channel.fresh (V := V) now creatorIp).participants s t = none := rfl
  unfold joinChannel
  rw [hfresh]
  dsimp only
  rw [if_neg (by simp [Channel.fresh]), if_neg (by simp [Channel.fresh]), hstale]
  dsimp only
  unfold bindAndAdmit
  rw [hfresh]
  dsimp only
  rw [if_neg (by simp [Channel.fresh, JsMap.size, maxParticipants])]
  cases key with
  | none =>
    intro h
    cases h
  | some key =>
    intro h
    cases h

/-- A join that opens a channel succeeds. -/
theorem joinCall_opens {st : RelayServer V} {now : ℕ} {s : SocketId} {session : Session V}
    {request : JoinRequest} (h : opensChannel st.channelManager session.clientIp request = true) :
    (∃ messages key roster,
      (st.joinCall now s session request).1 = .success messages key roster false) ∧
    Opens st.channelManager (st.joinCall now s session request).2 request.channelId
      (some session.clientIp) := by
  unfold opensChannel at h
  rw [Bool.and_eq_true, Bool.and_eq_true, Bool.not_eq_true', Bool.not_eq_true'] at h
  obtain ⟨⟨habsent, hcap⟩, hkey⟩ := h
  have habsent : st.channelManager.channels.get? request.channelId = none := by
    simpa [JsMap.has] using habsent
  have hne : ∀ error, (st.joinCall now s session request).1 ≠ .failure error := by
    cases hcanonical : canonicalPublicKey request.clientType request.publicKey with
    | error error => simp [hcanonical] at hkey
    | ok key => exact join_created habsent hcap hcanonical
  have hout := joinCall_outcome st now s session request
  generalize st.joinCall now s session request = out at hout hne ⊢
  obtain ⟨result, m⟩ := out
  dsimp only at hout hne ⊢
  cases hout with
  | refused error => exact absurd rfl (hne error)
  | refusedAfterStale error => exact absurd rfl (hne error)
  | tombstone r hget =>
    rw [habsent] at hget
    cases hget
  | admitted r c key stale hslot _ hlive _ _ hstale _ hcontent _ _ hres =>
    refine ⟨⟨_, _, _, hres⟩, ?_⟩
    cases hslot with
    | existing _ hget =>
      rw [habsent] at hget
      cases hget
    | created _ hchannels =>
      have hself := hcontent st.channelManager.objects.next
      rw [if_pos rfl] at hself
      refine ⟨habsent, hchannels, ?_, ?_, fun r hr => (hcontent r).trans (if_neg hr)⟩
      · rw [hself]
        cases stale <;> rfl
      · rw [hself]
        cases stale <;> rfl

/-- Any other join opens nothing. -/
theorem joinCall_declines {st : RelayServer V} {now : ℕ} {s : SocketId} {session : Session V}
    {request : JoinRequest} (h : opensChannel st.channelManager session.clientIp request = false) :
    Declines st.channelManager (st.joinCall now s session request).2 := by
  have hcall : st.joinCall now s session request = st.channelManager.join st.isSocketActive now
    request.channelId s request.clientType request.publicKey (some session.clientIp) := rfl
  have hout := joinCall_outcome st now s session request
  generalize hjoin : st.joinCall now s session request = out at hout ⊢
  obtain ⟨result, m⟩ := out
  dsimp only at hout ⊢
  cases hout with
  | refused => exact .refl _
  | refusedAfterStale _ r e => exact .dropStale _ r e
  | tombstone => exact .refl _
  | admitted r c key stale hslot hkey hlive _ _ _ _ hcontent _ _ hres =>
    cases hslot with
    | existing _ hget hchannels =>
      refine .of_ite hcontent (fun _ => hlive) ?_ fun id r' hget' => hchannels ▸ hget'
      cases stale <;> rfl
    | created hget =>
      have hcap : st.channelManager.atChannelCap (some session.clientIp) = true := by
        simpa [opensChannel, JsMap.has, hget, hkey] using h
      rw [hcall] at hjoin
      unfold join at hjoin
      rw [hkey, hget, hcap] at hjoin
      dsimp only at hjoin
      rw [if_pos rfl, hres] at hjoin
      cases hjoin

/-! ## The caps along a run -/

/-- The event resumes a join that creates a channel while the relay is at its cap. -/
def overfills (cfg : Config) (st : RelayServer V) (input : Input V) : Bool :=
  match input.event with
  | .resumeJoin s _ => (st.sessions.get? s).any fun session =>
    match session.joining with
    | some ⟨request, .joiningRoom true⟩ =>
      opensChannel st.channelManager session.clientIp request &&
        decide (cfg.relayMaxActiveChannels ≤ st.channelManager.getActiveChannelCount)
    | _ => false
  | _ => false

end RelayServer

/-- The live channels are within both caps. -/
structure WithinCaps (cfg : Config) (m : ChannelManager V) : Prop where
  total : m.getActiveChannelCount ≤ cfg.relayMaxActiveChannels
  address : ∀ ip, m.countLiveChannelsCreatedBy ip ≤ cfg.relayMaxChannelsPerIp

section Runs

variable [Unknown V] {cfg : Config} {st : RelayServer V} {input : Input V} {k : Scene V}

/-- An act opens at most one channel, at the call of a join. -/
theorem Act.opens_or_declines (hact : Act cfg st input k) :
    Declines st.channelManager k.manager ∨ ∃ s session request resolves,
      st.Enters cfg input s session request resolves ∧
      opensChannel st.channelManager session.clientIp request = true ∧
      Declines (st.joinCall input.now s session request).2 k.manager := by
  have hjoin : ∀ {s session request resolves}, st.Enters cfg input s session request resolves →
      Declines (st.joinCall input.now s session request).2 k.manager →
      Declines st.channelManager k.manager ∨ ∃ s session request resolves,
        st.Enters cfg input s session request resolves ∧
        opensChannel st.channelManager session.clientIp request = true ∧
        Declines (st.joinCall input.now s session request).2 k.manager := by
    intro s session request resolves henters hafter
    cases hopens : opensChannel st.channelManager session.clientIp request with
    | false => exact .inl ((joinCall_declines hopens).trans hafter)
    | true => exact .inr ⟨s, session, request, resolves, henters, hopens, hafter⟩
  have hdrop : ∀ (now : ℕ) (k : Scene V) (s : SocketId),
      Declines k.manager (k.drop now s).manager := by
    intro now k s
    have hrelease := Declines.of_quiet (.release k.manager s)
    unfold Scene.drop
    split
    · dsimp only
      split
      · exact hrelease
      · exact hrelease.trans (.leave now _ s _)
    · exact .refl _
  cases hact with
  | idle | opened | requested | tombstone | completed | ended | reported | aborted =>
    exact .inl (.refl _)
  | turned m hquiet => exact .inl (.of_quiet hquiet)
  | refusedJoin s session request resolves error henters => exact hjoin henters (.refl _)
  | entered s session request resolves _ _ _ henters => exact hjoin henters (.refl _)
  | switched s session request resolves _ _ _ _ henters => exact hjoin henters (.leave _ _ _ _)
  | undone | left => exact .inl (.leave _ _ _ _)
  | messaged s session payload =>
    have hroute : Declines st.channelManager (st.routeCall cfg input s session payload).2 :=
      .of_quiet (.routeCall cfg st input s session payload)
    refine .inl ?_
    unfold Scene.relieve
    split
    · exact hroute
    next target _ =>
      split
      · exact hroute
      · exact hroute.trans (hdrop input.now { st.scene with
          manager := (st.routeCall cfg input s session payload).2 } target)
  | closed => exact .inl ((Declines.leave _ _ _ _).trans (.close _ _ _))
  | dropped s => exact .inl (hdrop input.now st.scene s)

omit [Unknown V] in
theorem Declines.getActiveChannelCount_le {m m' : ChannelManager V} (h : Declines m m') :
    m'.getActiveChannelCount ≤ m.getActiveChannelCount := by
  rw [getActiveChannelCount_eq, getActiveChannelCount_eq]
  exact h.liveCount_le _

omit [Unknown V] in
theorem Declines.countLiveChannelsCreatedBy_le {m m' : ChannelManager V} (h : Declines m m')
    (ip : String) : m'.countLiveChannelsCreatedBy ip ≤ m.countLiveChannelsCreatedBy ip := by
  rw [countLiveChannelsCreatedBy_eq, countLiveChannelsCreatedBy_eq]
  exact h.liveCount_le _

/-- The cap per address is checked where a channel is created. -/
theorem address_step (hmanaged : Managed cfg st.channelManager)
    (h : ∀ ip, st.channelManager.countLiveChannelsCreatedBy ip ≤ cfg.relayMaxChannelsPerIp)
    (ip : String) : (step cfg st input).channelManager.countLiveChannelsCreatedBy ip ≤
      cfg.relayMaxChannelsPerIp := by
  rcases (act_of_step cfg hmanaged input).opens_or_declines with
    hdeclines | ⟨s, session, request, resolves, henters, hopens, hafter⟩
  · exact (hdeclines.countLiveChannelsCreatedBy_le ip).trans (h ip)
  refine (hafter.countLiveChannelsCreatedBy_le ip).trans ?_
  rw [countLiveChannelsCreatedBy_eq, (joinCall_opens hopens).2.liveCount_eq hmanaged.mapSound,
    ← countLiveChannelsCreatedBy_eq]
  split
  next hip =>
    have hip : session.clientIp = ip := by simpa using hip
    simp only [opensChannel, Bool.and_eq_true, Bool.not_eq_true'] at hopens
    exact hip ▸ hmanaged.below_cap hopens.1.2
  next => exact h ip

/-- A step that does not overfill the relay keeps the cap on all channels. -/
theorem total_step (hmanaged : Managed cfg st.channelManager)
    (h : st.channelManager.getActiveChannelCount ≤ cfg.relayMaxActiveChannels)
    (hguard : st.overfills cfg input = false) :
    (step cfg st input).channelManager.getActiveChannelCount ≤ cfg.relayMaxActiveChannels := by
  rcases (act_of_step cfg hmanaged input).opens_or_declines with
    hdeclines | ⟨s, session, request, resolves, henters, hopens, hafter⟩
  · exact hdeclines.getActiveChannelCount_le.trans h
  have hbelow : st.channelManager.getActiveChannelCount < cfg.relayMaxActiveChannels := by
    cases henters with
    | rejoin hasks =>
      -- the check and the join are in one turn
      refine hasks.capacity.resolve_left fun hhas => ?_
      simp [opensChannel, hhas] at hopens
    | @roomJoined request _ hevent hses hjoin =>
      have hopens : opensChannel st.channelManager session.clientIp request = true := hopens
      simp only [overfills, hevent, hses, Option.any_some, hjoin, hopens, Bool.true_and] at hguard
      simpa using hguard
  refine hafter.getActiveChannelCount_le.trans ?_
  rw [getActiveChannelCount_eq, (joinCall_opens hopens).2.liveCount_eq hmanaged.mapSound,
    ← getActiveChannelCount_eq]
  simpa using Nat.succ_le_of_lt hbelow

omit [Unknown V] in
/-- Who leaves a channel leaves it live. -/
theorem liveCount_leave (now : ℕ) (m : ChannelManager V) (s : SocketId) (channelId : String)
    (p : Option String → Bool) :
    (m.leave now s channelId).2.liveCount p = m.liveCount p := by
  have hout := leave_outcome now m s channelId
  generalize m.leave now s channelId = out at hout ⊢
  obtain ⟨result, m'⟩ := out
  cases hout with
  | absent => rfl
  | left r _ _ _ hcontent htables =>
    unfold liveCount
    rw [(tables_eq_iff.1 htables).1]
    refine List.countP_congr fun r' _ => ?_
    rw [hcontent]
    split
    next hr => rw [hr]; rfl
    next => rfl

omit [Unknown V] in
/-- What an admitted join leaves of the manager. -/
theorem manager_enterChannel {now : ℕ} {s : SocketId} {session : Session V}
    {request : JoinRequest} {resolves : Bool} {messages : List (RelayPayload V)}
    {key : Option String} {roster : List ClientType} (hses : st.sessions.get? s = some session)
    (hres : (st.joinCall now s session request).1 = .success messages key roster false) :
    (st.enterChannel now s session request resolves).channelManager =
        (st.joinCall now s session request).2 ∨
      ∃ channelId, (st.enterChannel now s session request resolves).channelManager =
        ((st.joinCall now s session request).2.leave now s channelId).2 := by
  unfold enterChannel
  have hcall : st.channelManager.join st.isSocketActive now request.channelId s
      request.clientType request.publicKey (some session.clientIp) =
      st.joinCall now s session request := rfl
  rw [hcall]
  generalize st.joinCall now s session request = out at hres ⊢
  obtain ⟨result, m⟩ := out
  dsimp only at hres ⊢
  subst hres
  dsimp only
  rw [if_neg Bool.false_ne_true]
  split
  · exact .inl (congrArg Scene.manager (scene_finishJoin _ _ _ _ (by exact hses)))
  next previous _ =>
    refine .inr ⟨previous, ?_⟩
    have hscene := @scene_suspend V (({ st with
      channelManager := (m.leave now s previous).2 }.notifyLeft s previous .leave
        (m.leave now s previous).1).leaveRoom s previous resolves) s request
        (.leavingPrevious messages key roster resolves) session
        (by rw [scene_leaveRoom, scene_notifyLeft]; exact hses)
    rw [scene_leaveRoom, scene_notifyLeft] at hscene
    exact congrArg Scene.manager hscene

/-- A step that overfills the relay breaks the cap. -/
theorem overfilled (hmanaged : Managed cfg st.channelManager)
    (h : st.overfills cfg input = true) :
    cfg.relayMaxActiveChannels < (step cfg st input).channelManager.getActiveChannelCount := by
  unfold overfills at h
  split at h
  next s resolves hevent =>
    rw [Option.any_eq_true] at h
    obtain ⟨session, hses, h⟩ := h
    split at h
    next request hjoin =>
      rw [Bool.and_eq_true, decide_eq_true_eq] at h
      obtain ⟨hopens, hfull⟩ := h
      obtain ⟨⟨messages, key, roster, hres⟩, hgrown⟩ :=
        @joinCall_opens V st input.now s session { request with joinedRoom := true } hopens
      have hcount : (st.joinCall input.now s session
          { request with joinedRoom := true }).2.getActiveChannelCount =
            st.channelManager.getActiveChannelCount + 1 := by
        rw [getActiveChannelCount_eq, hgrown.liveCount_eq hmanaged.mapSound,
          ← getActiveChannelCount_eq]
        rfl
      have hstep : step cfg st input = st.enterChannel input.now s session
          { request with joinedRoom := true } resolves := by
        unfold step
        dsimp only
        rw [hevent]
        dsimp only
        rw [hses]
        dsimp only
        rw [hjoin]
        rfl
      rw [hstep]
      rcases @manager_enterChannel V st input.now s session { request with joinedRoom := true }
        resolves messages key roster hses hres with h | ⟨channelId, h⟩
      · rw [h]
        omega
      · rw [h, getActiveChannelCount_eq, liveCount_leave, ← getActiveChannelCount_eq]
        omega
    next => cases h
  next => cases h

/-- The cap per address holds in every run. -/
theorem address_cap_holds (cfg : Config) (inputs : List (Input V)) (ip : String) :
    (RelayServer.after cfg inputs).channelManager.countLiveChannelsCreatedBy ip ≤
      cfg.relayMaxChannelsPerIp := by
  induction inputs using List.reverseRecOn generalizing ip with
  | nil => exact Nat.zero_le _
  | append_singleton inputs input ih =>
    rw [RelayServer.after, Runs.run_snoc]
    exact address_step (managed_after cfg inputs) ih ip

/-- Along a run the caps hold exactly when no step overfills the relay. -/
theorem caps_hold_iff (cfg : Config) (inputs : List (Input V)) :
    (∀ pre post, inputs = pre ++ post → WithinCaps cfg (RelayServer.after cfg pre).channelManager) ↔
      Runs.Guarded (step cfg) (fun st input => st.overfills cfg input = false) (create cfg)
        inputs := by
  induction inputs using List.reverseRecOn with
  | nil =>
    refine iff_of_true (fun pre post h => ?_) trivial
    obtain ⟨rfl, -⟩ := List.append_eq_nil_iff.1 h.symm
    exact ⟨Nat.zero_le _, fun _ => Nat.zero_le _⟩
  | append_singleton inputs input ih =>
    have hmanaged := managed_after cfg inputs
    have hlast : RelayServer.after cfg (inputs ++ [input]) =
        step cfg (RelayServer.after cfg inputs) input :=
      Runs.run_snoc _ _ _
    rw [Runs.guarded_snoc, ← ih]
    constructor
    · intro h
      refine ⟨fun pre post hsplit => h pre (post ++ [input]) ?_, ?_⟩
      · rw [hsplit, List.append_assoc]
      by_contra hover
      have hbroken := overfilled hmanaged (Bool.not_eq_false _ ▸ hover)
      have hkept := (h (inputs ++ [input]) [] (List.append_nil _).symm).total
      rw [hlast] at hkept
      exact absurd hkept (not_le.2 hbroken)
    · rintro ⟨h, hguard⟩ pre post hsplit
      rcases List.eq_nil_or_concat post with rfl | ⟨post, last, rfl⟩
      · rw [List.append_nil] at hsplit
        rw [← hsplit, hlast]
        have hcaps := h inputs [] (List.append_nil _).symm
        exact ⟨total_step hmanaged hcaps.total hguard, address_step hmanaged hcaps.address⟩
      · rw [List.concat_eq_append, ← List.append_assoc] at hsplit
        exact h pre post (List.append_inj' hsplit rfl).1

end Runs

/-- Two sockets of different addresses ask for different channels, and both handlers pass the
check before either channel is there. -/
def joinsInFlight : List (Input String) :=
  [⟨0, .connection 1 "a" 1⟩, ⟨0, .connection 2 "b" 2⟩,
    ⟨0, .joinChannel 1 ⟨.string "c", .string "dapp", .undefined⟩ true true⟩,
    ⟨0, .joinChannel 2 ⟨.string "d", .string "dapp", .undefined⟩ true true⟩,
    ⟨0, .resumeJoin 1 true⟩, ⟨0, .resumeJoin 2 true⟩]

/-- With a cap of one channel, both are created. -/
theorem cap_overrun : ¬WithinCaps { Config.unset with relayMaxActiveChannels := 1 }
    (RelayServer.after { Config.unset with relayMaxActiveChannels := 1 }
      joinsInFlight).channelManager := by
  intro h
  exact absurd h.total (by decide)

end QrlBackend
