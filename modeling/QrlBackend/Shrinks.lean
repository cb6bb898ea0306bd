import QrlBackend.Reservations
import QrlBackend.Roles

/-!
# What only a join or a message adds to

Of all calls the relay makes, only a join adds a participant and only a routed message adds
to a buffer. The others take away (`Shrinks`), and what the invariants of the relay say of
the participants and the messages there are survives that.

Everybody who takes part in a channel once had a connected socket, so a new socket takes
part in none (`enrolled_after`).
-/

set_option autoImplicit false

namespace QrlBackend

variable {V : Type}

open ChannelManager RelayServer

/-- Nobody joined, no message was buffered, and no channel was created. -/
structure Shrinks (m m' : ChannelManager V) : Prop where
  participants : ∀ r s p, (m'.content r).participants.get? s = some p →
    (m.content r).participants.get? s = some p
  buffers : ∀ r, (m'.content r).messageBuffer.Sublist (m.content r).messageBuffer
  entries : ∀ id r, m'.channels.get? id = some r → m.channels.get? id = some r
  next : m'.objects.next = m.objects.next

namespace Shrinks

theorem refl (m : ChannelManager V) : Shrinks m m where
  participants _ _ _ := id
  buffers _ := .refl _
  entries _ _ := id
  next := rfl

theorem trans {m m' m'' : ChannelManager V} (h : Shrinks m m') (h' : Shrinks m' m'') :
    Shrinks m m'' where
  participants r s p hp := h.participants r s p (h'.participants r s p hp)
  buffers r := (h'.buffers r).trans (h.buffers r)
  entries id r hget := h.entries id r (h'.entries id r hget)
  next := h'.next.trans h.next

/-- The same tables have the same entries. -/
theorem entries_of_tables {m m' : ChannelManager V} (htables : m'.tables = m.tables) (id : String)
    (r : ChannelRef) (hget : m'.channels.get? id = some r) : m.channels.get? id = some r :=
  (tables_eq_iff.1 htables).1 ▸ hget

theorem next_of_tables {m m' : ChannelManager V} (htables : m'.tables = m.tables) :
    m'.objects.next = m.objects.next :=
  (tables_eq_iff.1 htables).2.2.2

/-- The same channel objects under the same tables. -/
theorem of_content {m m' : ChannelManager V} (h : ∀ r, m'.content r = m.content r)
    (htables : m'.tables = m.tables) : Shrinks m m' where
  participants r _ _ hp := h r ▸ hp
  buffers r := h r ▸ .refl _
  entries := entries_of_tables htables
  next := next_of_tables htables

/-- A change of one channel that takes away. -/
theorem of_ite {m m' : ChannelManager V} {r : ChannelRef} {c : Content V}
    (h : ∀ r', m'.content r' = if r' = r then c else m.content r')
    (hparts : ∀ s p, c.participants.get? s = some p → (m.content r).participants.get? s = some p)
    (hbuf : c.messageBuffer.Sublist (m.content r).messageBuffer) (htables : m'.tables = m.tables) :
    Shrinks m m' where
  participants r' s p hp := by
    rw [h] at hp
    split at hp
    next hr => exact hr ▸ hparts s p hp
    next => exact hp
  buffers r' := by
    rw [h]
    split
    next hr => exact hr ▸ hbuf
    next => exact .refl _
  entries := entries_of_tables htables
  next := next_of_tables htables

/-- What is buffered after a call was buffered before it. -/
theorem mem {m m' : ChannelManager V} (h : Shrinks m m') {r : ChannelRef}
    {message : BufferedMessage V} (hmem : message ∈ (m'.content r).messageBuffer) :
    message ∈ (m.content r).messageBuffer :=
  (h.buffers r).subset hmem

theorem of_delete {participants : JsMap SocketId Participant} {e s : SocketId} {p : Participant}
    (h : (participants.delete e).get? s = some p) : participants.get? s = some p := by
  rw [JsMap.get?_delete] at h
  split at h
  · cases h
  · exact h

/-- A stale socket only loses its seat. -/
theorem dropStale (m : ChannelManager V) (r : ChannelRef) (e : SocketId) :
    Shrinks m (m.dropStale r e) :=
  of_ite (m.content_dropStale r e) (fun _ _ => of_delete) (.refl _) (m.tables_dropStale r e)

/-- Who leaves only gives up a seat. -/
theorem leave (now : ℕ) (m : ChannelManager V) (s : SocketId) (channelId : String) :
    Shrinks m (m.leave now s channelId).2 := by
  have hout := leave_outcome now m s channelId
  generalize m.leave now s channelId = out at hout ⊢
  obtain ⟨result, m'⟩ := out
  cases hout with
  | absent => exact refl _
  | left r p _ _ hcontent htables =>
    exact of_ite hcontent (fun _ _ => of_delete) (.refl _) htables

/-- A close empties its channel, and may evict old tombstones. -/
theorem close (now : ℕ) (m : ChannelManager V) (channelId : String) :
    Shrinks m (m.close now channelId).2 := by
  have hout := close_outcome now m channelId
  generalize m.close now channelId = out at hout ⊢
  obtain ⟨result, m'⟩ := out
  cases hout with
  | refused => exact refl _
  | closed r evicted _ _ hcontent _ hgone hkept hnext =>
    refine ⟨fun r' s p hp => ?_, fun r' => ?_, fun id r' hget => ?_, hnext⟩
    · rw [hcontent] at hp
      split at hp
      · simp [Content.closed] at hp
      · exact hp
    · rw [hcontent]
      split
      · exact List.nil_sublist _
      · exact .refl _
    · -- an entry that went away is not there
      by_cases hold : ∀ r', m.channels.get? id = some r' → (m'.content r').terminated = true →
          id ∉ evicted
      · exact (hkept id hold).symm.trans hget
      · push Not at hold
        obtain ⟨r'', hget'', hterm, hmem⟩ := hold
        rw [hgone id r'' hget'' hterm hmem] at hget
        cases hget

/-- A reservation that ends changes no channel. -/
theorem release (m : ChannelManager V) (s : SocketId) : Shrinks m (m.releaseDirectDelivery s) :=
  of_content (m.content_releaseDirectDelivery s) (m.tables_releaseDirectDelivery s)

/-- A cleanup drops expired messages, and channels out of the map. -/
theorem cleanup (now : ℕ) (m : ChannelManager V) : Shrinks m (m.cleanup now) where
  participants r s p hp := by
    rw [(cleanup_spec now m).1] at hp
    split at hp <;> exact hp
  buffers r := by
    rw [(cleanup_spec now m).1]
    split
    · exact List.filter_sublist
    · exact .refl _
  entries id r hget := by
    rw [(cleanup_spec now m).2.1] at hget
    exact (Option.filter_eq_some_iff.1 hget).1
  next := (cleanup_spec now m).2.2.2.1

/-- A socket that goes away leaves its current channel, and joins none. -/
theorem drop (now : ℕ) (k : Core V) (s : SocketId) : Shrinks k.manager (k.drop now s).manager := by
  unfold Core.drop
  split
  · dsimp only
    split
    · exact release _ s
    · exact (release _ s).trans (leave now _ s _)
  · exact refl _

theorem relieve (now : ℕ) (k : Core V) (target : Option SocketId) :
    Shrinks k.manager (k.relieve now target).manager := by
  unfold Core.relieve
  split
  · exact refl _
  · split
    · exact refl _
    · exact drop now k _

end Shrinks

namespace RelayServer

/-- A refused message notes activity at most. -/
theorem Touched.shrinks {m m' : ChannelManager V} (h : Touched m m') : Shrinks m m' where
  participants r s p hp := by
    obtain ⟨lastActivity, hcontent⟩ := h.content r
    rwa [hcontent] at hp
  buffers r := by
    obtain ⟨lastActivity, hcontent⟩ := h.content r
    rw [hcontent]
  entries := Shrinks.entries_of_tables h.tables
  next := Shrinks.next_of_tables h.tables

/-- A direct message is not buffered. -/
theorem Granted.shrinks {m m' : ChannelManager V} {now : ℕ} {s target : SocketId}
    {payload : RelayPayload V} {r : ChannelRef} (h : Granted m m' now s payload target r) :
    Shrinks m m' :=
  .of_ite h.content (fun _ _ => id) (.refl _) h.tables

/-- A promotion takes one message out of a buffer. -/
theorem Promoted.shrinks {m m' : ChannelManager V} {s : SocketId} {payload : RelayPayload V}
    {r : ChannelRef} {p : Participant} {next : BufferedMessage V}
    (h : Promoted m m' s payload r p next) : Shrinks m m' :=
  .of_ite h.content (fun _ _ => id) List.eraseP_sublist h.tables

theorem Exhausted.shrinks {m m' : ChannelManager V} {s : SocketId} (h : Exhausted m m' s) :
    Shrinks m m' :=
  .of_content h.content h.tables

/-- A refused join drops a stale socket at most. -/
theorem RefusedJoin.shrinks {st : RelayServer V} {m : ChannelManager V} (h : RefusedJoin st m) :
    Shrinks st.channelManager m := by
  cases h with
  | unchanged => exact .refl _
  | dropped r e => exact .dropStale _ r e

namespace Admitted

variable {st : RelayServer V} {now : ℕ} {s : SocketId} {request : JoinRequest}
  {m' : ChannelManager V} {messages : List (RelayPayload V)} {r : ChannelRef} {c : Content V}
  {key : Option String} {stale : Option SocketId}

/-- The participants before the join, from whichever slot the channel came. -/
theorem of_slot (h : Admitted st now s request m' messages r c key stale) {s' : SocketId}
    {p : Participant} (hp : c.participants.get? s' = some p) :
    (st.channelManager.content r).participants.get? s' = some p := by
  rcases h.slot with ⟨-, rfl, -⟩ | ⟨-, -, ⟨creatorIp, rfl⟩, -⟩
  · exact hp
  · simp [Content.fresh, Channel.fresh, Channel.content] at hp

/-- Everybody who takes part after a join did before, except who joined. -/
theorem participants (h : Admitted st now s request m' messages r c key stale) {r' : ChannelRef}
    {s' : SocketId} {p : Participant} (hp : (m'.content r').participants.get? s' = some p) :
    (s' = s ∧ r' = r ∧ p = ⟨request.clientType, now⟩) ∨
    (st.channelManager.content r').participants.get? s' = some p := by
  rw [h.content] at hp
  split at hp
  next hr =>
    subst hr
    rw [← h.stale_eq, participants_joined, JsMap.get?_set] at hp
    split at hp
    next hs => exact .inl ⟨hs, rfl, (Option.some.inj hp).symm⟩
    next =>
      refine .inr (h.of_slot ?_)
      unfold withoutStale at hp
      cases hstale : sameRoleSocket c.participants s request.clientType with
      | none =>
        rw [hstale] at hp
        exact hp
      | some e =>
        rw [hstale] at hp
        exact Shrinks.of_delete hp
  next => exact .inr hp

/-- What stays buffered in the channel joined is for the other role. -/
theorem messageBuffer (h : Admitted st now s request m' messages r c key stale) :
    (m'.content r).messageBuffer =
      c.messageBuffer.filter (·.targetClientType ≠ request.clientType) := by
  rw [h.content, if_pos rfl]
  unfold Content.joined
  cases stale <;> rfl

/-- An admission adds to no buffer. -/
theorem buffers (h : Admitted st now s request m' messages r c key stale) (r' : ChannelRef) :
    (m'.content r').messageBuffer.Sublist (st.channelManager.content r').messageBuffer := by
  by_cases hr : r' = r
  · subst hr
    rw [h.messageBuffer]
    rcases h.slot with ⟨-, rfl, -⟩ | ⟨-, -, ⟨creatorIp, rfl⟩, -⟩
    · exact List.filter_sublist
    · exact List.nil_sublist _
  · rw [h.content, if_neg hr]

theorem next_le (h : Admitted st now s request m' messages r c key stale) :
    st.channelManager.objects.next ≤ m'.objects.next := by
  rcases h.slot with ⟨-, -, -, hnext⟩ | ⟨-, -, -, -, hnext⟩
  · exact hnext.ge
  · exact hnext ▸ Nat.le_succ _

/-- Nothing stays buffered for the role that joined. -/
theorem drained (h : Admitted st now s request m' messages r c key stale)
    {message : BufferedMessage V} (hmem : message ∈ (m'.content r).messageBuffer) :
    message.targetClientType ≠ request.clientType := by
  rw [h.messageBuffer] at hmem
  simpa using (List.mem_filter.1 hmem).2

end Admitted

namespace Pushed

variable {m m' : ChannelManager V} {now : ℕ} {s : SocketId} {payload : RelayPayload V}
  {target : Option SocketId} {r : ChannelRef} {message : BufferedMessage V}

/-- Routing a message moves nobody. -/
theorem participants (h : Pushed m m' now s payload target r message) (r' : ChannelRef) :
    (m'.content r').participants = (m.content r').participants := by
  rw [h.content]
  split
  next hr => rw [hr]; rfl
  next => rfl

/-- Only the new message is added to a buffer. -/
theorem mem (h : Pushed m m' now s payload target r message) {r' : ChannelRef}
    {message' : BufferedMessage V} (hmem : message' ∈ (m'.content r').messageBuffer) :
    (r' = r ∧ message' = message) ∨ message' ∈ (m.content r').messageBuffer := by
  rw [h.content] at hmem
  split at hmem
  next hr =>
    rcases List.mem_append.1 hmem with hold | hnew
    · exact .inr (hr ▸ (afterEviction_sublist _).subset hold)
    · exact .inl ⟨hr, List.mem_singleton.1 hnew⟩
  next => exact .inr hmem

end Pushed

end RelayServer

/-! ## Everybody who takes part has a session -/

/-- Participants have sessions, and take part in channels there are. -/
structure Enrolled (k : Core V) : Prop where
  session : ∀ r s p, (k.manager.content r).participants.get? s = some p →
    (k.session s).isSome = true
  allocated : ∀ r s p, (k.manager.content r).participants.get? s = some p →
    r < k.manager.objects.next

namespace Enrolled

/-- Enrolment is kept while no seat is taken and no session ends. -/
theorem of_shrinks {k k' : Core V} (h : Enrolled k) (hshrinks : Shrinks k.manager k'.manager)
    (hsession : ∀ s, (k.session s).isSome = true → (k'.session s).isSome = true) :
    Enrolled k' where
  session r s p hp := hsession s (h.session r s p (hshrinks.participants r s p hp))
  allocated r s p hp := hshrinks.next ▸ h.allocated r s p (hshrinks.participants r s p hp)

theorem isSome_update {session : SocketId → Option (Session V)} (s : SocketId)
    (session' : Session V) (s' : SocketId) (h : (session s').isSome = true) :
    (Function.update session s (some session') s').isSome = true := by
  rw [Function.update_apply]
  split
  · rfl
  · exact h

theorem drop {k : Core V} (h : Enrolled k) (now : ℕ) (s : SocketId) : Enrolled (k.drop now s) := by
  refine h.of_shrinks (Shrinks.drop now k s) fun s' hs' => ?_
  unfold Core.drop
  split
  · dsimp only
    rw [Function.update_apply]
    split
    next hs => rw [Option.isSome_map, ← hs, hs']
    next => exact hs'
  · exact hs'

theorem relieve {k : Core V} (h : Enrolled k) (now : ℕ) (target : Option SocketId) :
    Enrolled (k.relieve now target) := by
  unfold Core.relieve
  split
  · exact h
  · split
    · exact h
    · exact h.drop now _

end Enrolled

variable [Unknown V] {cfg : Config} {st : RelayServer V} {input : Input V} {k : Core V}

/-- Every turn keeps the participants enrolled. -/
theorem enrolled_turn (hturn : Turn cfg st input k) (hmanaged : Managed cfg st.channelManager)
    (h : Enrolled st.core) : Enrolled k := by
  have hjoined : ∀ (session' : Session V) {now : ℕ} {s : SocketId} {session : Session V}
      {request : JoinRequest} {messages : List (RelayPayload V)} {key : Option String}
      {roster : List ClientType},
      (st.joinCall now s session request).1 = .success messages key roster false →
      Enrolled ({ st.core with manager := (st.joinCall now s session request).2 }.setSession s
        session') := by
    intro session' now s session request messages key roster hres
    obtain ⟨r₀, c, key, stale, hadmitted⟩ := admitted_of_success hres
    refine ⟨fun r s' p hp => ?_, fun r s' p hp => ?_⟩
    · rcases hadmitted.participants hp with ⟨rfl, -⟩ | hold
      · dsimp only [Core.setSession]
        rw [Function.update_self]
        rfl
      · exact Enrolled.isSome_update s session' s' (h.session r s' p hold)
    · rcases hadmitted.participants hp with ⟨-, rfl, -⟩ | hold
      · exact (hmanaged.join _ _ _ _ _ _ _).mapSound.lt_next _ _ hadmitted.get
      · exact (h.allocated r s' p hold).trans_le hadmitted.next_le
  cases hturn with
  | idle => exact h
  | drained | upgraded => exact h.of_shrinks (.refl _) fun _ => id
  | opened s => exact h.of_shrinks (.refl _) fun s' => Enrolled.isSome_update s _ s'
  | requested s | dismissed s | completed s =>
    exact h.of_shrinks (.refl _) fun s' => Enrolled.isSome_update s _ s'
  | refusedJoin s _ _ _ _ _ _ hres =>
    exact h.of_shrinks (refusedJoin_of_failure hres).shrinks fun s' => Enrolled.isSome_update s _ s'
  | entered s session request messages key roster delivered _ _ _ hres =>
    exact (hjoined { session with
      currentChannelId := some request.channelId, joining := none } hres).of_shrinks (.refl _)
        fun _ => id
  | switched s session request messages key roster previous resolves _ _ _ hres =>
    exact (hjoined { session with
      joining := some ⟨request, .leavingPrevious messages key roster resolves⟩ } hres).of_shrinks
        (Shrinks.leave _ _ s previous) fun _ => id
  | undone s | left s =>
    exact h.of_shrinks (Shrinks.leave _ _ _ _) fun s' => Enrolled.isSome_update s _ s'
  | closed s =>
    exact h.of_shrinks ((Shrinks.leave _ _ _ _).trans (Shrinks.close _ _ _))
      fun s' => Enrolled.isSome_update s _ s'
  | refused s session payload error _ hres =>
    refine Enrolled.relieve ?_ _ _
    exact h.of_shrinks (touched_of_error hres).shrinks fun _ => id
  | buffered s session payload target _ hres =>
    obtain ⟨r, message, hpushed⟩ := pushed_of_buffered hres
    refine Enrolled.relieve ⟨fun r' s' p hp => ?_, fun r' s' p hp => ?_⟩ _ _
    · dsimp only at hp
      rw [hpushed.participants] at hp
      exact h.session r' s' p hp
    · dsimp only at hp ⊢
      rw [hpushed.participants] at hp
      exact (h.allocated r' s' p hp).trans_eq (Shrinks.next_of_tables hpushed.tables).symm
  | direct s session payload target transport _ hres =>
    obtain ⟨r, hgranted⟩ := granted_of_direct hres
    exact h.of_shrinks hgranted.shrinks fun _ => id
  | dropped s => exact h.drop _ s
  | promoted s transport payload _ _ hres =>
    obtain ⟨r, p, next, hpromoted⟩ := promoted_of_advance hres
    exact h.of_shrinks hpromoted.shrinks fun _ => id
  | released s transport _ _ hres =>
    exact h.of_shrinks (exhausted_of_advance hres).shrinks fun _ => id
  | cleaned => exact h.of_shrinks (Shrinks.cleanup _ _) fun _ => id

omit [Unknown V] in
/-- At first nobody takes part in anything. -/
theorem not_participant_create (cfg : Config) (r : ChannelRef) (s : SocketId) (p : Participant) :
    ((RelayServer.create cfg : RelayServer V).core.manager.content r).participants.get? s ≠
      some p := by
  have hempty : ((RelayServer.create cfg : RelayServer V).core.manager.content r).participants =
    .empty := rfl
  simp [hempty]

/-- In every state of a run, participants have sessions and channels are allocated. -/
theorem enrolled_after (cfg : Config) (inputs : List (Input V)) :
    Enrolled (RelayServer.after cfg inputs).core :=
  Runs.Guarded.run_reached (I := fun st : RelayServer V => Enrolled st.core)
    ⟨fun r s p hp => absurd hp (not_participant_create cfg r s p),
      fun r s p hp => absurd hp (not_participant_create cfg r s p)⟩
    (fun inputs input h _ => enrolled_turn (turn_of_step cfg _ input) (managed_after cfg inputs) h)
    (Runs.guarded_true inputs)

/-- Every channel somebody takes part in has an entry. -/
theorem Enrolled.mapped {k : Core V} (h : Enrolled k) (hmanaged : Managed cfg k.manager)
    {r : ChannelRef} {s : SocketId} {p : Participant}
    (hp : (k.manager.content r).participants.get? s = some p) : Mapped k.manager r := by
  have hlt := h.allocated r s p hp
  obtain ⟨calls, hmanager⟩ := hmanaged
  rw [hmanager] at hp hlt ⊢
  by_contra horphan
  rw [orphan_participants _ _ calls r hlt horphan, JsMap.get?_empty] at hp
  cases hp

end QrlBackend
