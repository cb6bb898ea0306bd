import QrlBackend.Acts
import QrlBackend.Shrinks
import QrlBackend.Tombstones

/-!
# A confirmed close is durable

The `close_channel` handler acks with success exactly when the requester takes part in the
live channel it names, or in its current one. A participant that left once finds its channel
live, and every id in the map is one the handler accepts (`ids_valid_after`), so a close
never fails half way. From then on the channel is a tombstone, and later events find it
sealed until it is old or many channels were closed after it (`close_is_durable`).
-/

set_option autoImplicit false

namespace QrlBackend

variable {V : Type}

open ChannelManager RelayServer

/-! ## The calls of an event -/

section Calls

variable [Unknown V] {cfg : Config} {now : ℕ} {m m' m'' : ChannelManager V}

/-- The manager gets from one state to another by calls at one clock reading. -/
def Reaches (cfg : Config) (now : ℕ) (m m' : ChannelManager V) : Prop :=
  ∃ calls : List (Call V), (∀ c ∈ calls, c.now = now) ∧ m' = Runs.run (Call.step cfg) m calls

namespace Reaches

theorem refl (cfg : Config) (now : ℕ) (m : ChannelManager V) : Reaches cfg now m m :=
  ⟨[], by simp, rfl⟩

theorem op (h : Reaches cfg now m m') (op : Op V) :
    Reaches cfg now m (Call.step cfg m' ⟨now, op⟩) := by
  obtain ⟨calls, hnow, rfl⟩ := h
  refine ⟨calls ++ [⟨now, op⟩], fun c hc => ?_, (Runs.run_snoc _ _ _).symm⟩
  rcases List.mem_append.1 hc with hc | hc
  · exact hnow c hc
  · rw [List.mem_singleton.1 hc]

theorem leave (h : Reaches cfg now m m') (s : SocketId) (channelId : String) :
    Reaches cfg now m (m'.leave now s channelId).2 :=
  h.op (.leave s channelId)

theorem release (h : Reaches cfg now m m') (s : SocketId) :
    Reaches cfg now m (m'.releaseDirectDelivery s) :=
  h.op (.releaseDirectDelivery s)

theorem drop {k : Core V} (h : Reaches cfg now m k.manager) (s : SocketId) :
    Reaches cfg now m (k.drop now s).manager := by
  unfold Core.drop
  split
  · dsimp only
    split
    · exact h.release s
    · exact (h.release s).leave s _
  · exact h

theorem relieve {k : Core V} (h : Reaches cfg now m k.manager) (target : Option SocketId) :
    Reaches cfg now m (k.relieve now target).manager := by
  unfold Core.relieve
  split
  · exact h
  · split
    · exact h
    · exact h.drop _

end Reaches

variable {st : RelayServer V} {input : Input V} {k : Core V}

/-- Every event moves the manager by calls at its clock reading. -/
theorem Turn.reaches (hturn : Turn cfg st input k) :
    Reaches cfg input.now st.channelManager k.manager := by
  have hrefl := Reaches.refl cfg input.now st.channelManager
  have hjoin : ∀ s session request, Reaches cfg input.now st.channelManager
      (st.joinCall input.now s session request).2 := fun s session request =>
    hrefl.op (.join st.isSocketActive request.channelId s request.clientType request.publicKey
      (some session.clientIp))
  have hroute : ∀ s session payload, Reaches cfg input.now st.channelManager
      (st.routeCall cfg input s session payload).2 := fun s session payload =>
    hrefl.op (.routeMessage st.canSocketReceive payload.id s payload session.clientIp
      input.bufferedAt)
  have hadvance : ∀ s, Reaches cfg input.now st.channelManager
      (st.channelManager.advanceDirectDelivery s).2 := fun s => hrefl.op (.advanceDirectDelivery s)
  cases hturn with
  | idle | opened | requested | dismissed | completed | drained | upgraded => exact hrefl
  | refusedJoin s session request | entered s session request => exact hjoin s session request
  | switched s session request => exact (hjoin s session request).leave s _
  | undone s | left s => exact hrefl.leave s _
  | refused s session payload | buffered s session payload =>
    exact Reaches.relieve (hroute s session payload) _
  | direct s session payload => exact hroute s session payload
  | closed s session channelId => exact (hrefl.leave s channelId).op (.close channelId)
  | dropped s => exact Reaches.drop hrefl s
  | promoted s => exact hadvance s
  | released s => exact (hadvance s).release s
  | cleaned => exact hrefl.op .cleanup

/-- A tombstone stays through any later events while it is young and few channels were closed
since. -/
theorem entombed_after {channelId : String} {r : ChannelRef} {t₀ n : ℕ} {inputs : List (Input V)}
    (hmanaged : Managed cfg st.channelManager) (h : Entombed st.channelManager channelId r t₀ n)
    (hnow : ∀ input ∈ inputs, input.now ≤ t₀ + tombstoneTtlMs)
    (hfew : (Runs.run (step cfg) st inputs).channelManager.closedChannels.card <
      n + maxTombstones) :
    Entombed (Runs.run (step cfg) st inputs).channelManager channelId r t₀ n := by
  suffices hreached : ∃ calls : List (Call V), (∀ c ∈ calls, c.now ≤ t₀ + tombstoneTtlMs) ∧
      (Runs.run (step cfg) st inputs).channelManager =
        Runs.run (Call.step cfg) st.channelManager calls by
    obtain ⟨calls, hcalls, hrun⟩ := hreached
    rw [hrun] at hfew ⊢
    obtain ⟨before, hbefore⟩ := hmanaged
    refine h.run cfg ?_ ?_ hcalls hfew
    · exact hbefore ▸ mapSound_after _ _ _
    · exact hbefore ▸ tombstoned_after _ _ _
  clear h hfew hmanaged
  induction inputs using List.reverseRecOn with
  | nil => exact ⟨[], by simp, rfl⟩
  | append_singleton inputs input ih =>
    obtain ⟨calls, hcalls, hrun⟩ := ih fun input hmem => hnow input (List.mem_append_left _ hmem)
    obtain ⟨more, hmore, hstep⟩ := (turn_of_step cfg (Runs.run (step cfg) st inputs) input).reaches
    refine ⟨calls ++ more, fun c hc => ?_, ?_⟩
    · rcases List.mem_append.1 hc with hc | hc
      · exact hcalls c hc
      · rw [hmore c hc]
        exact hnow input (List.mem_append_right _ (List.mem_singleton_self _))
    · rw [Runs.run_snoc, Runs.run_append, ← hrun]
      exact hstep

end Calls

/-! ## The ids of the map -/

/-- An id the handlers accept. -/
structure ValidId (id : String) : Prop where
  accepted : isValidChannelId (.string id) = some id

theorem validId_of_accepted {narrowed : Narrowed} {id : String}
    (h : isValidChannelId narrowed = some id) : ValidId id := by
  cases narrowed with
  | string s => exact ⟨eq_of_isValidChannelId h ▸ h⟩
  | undefined | null | integer | other => cases h

/-- The map, the sessions and the suspended joins have valid ids only. -/
structure IdsValid (k : Scene V) : Prop where
  channels : ∀ id r, k.manager.channels.get? id = some r → ValidId id
  current : ∀ s session id, k.session s = some session → session.currentChannelId = some id →
    ValidId id
  joining : ∀ s session pending, k.session s = some session → session.joining = some pending →
    ValidId pending.request.channelId

namespace IdsValid

/-- One session is replaced. Its ids are valid, or were there before. -/
theorem update {k : Scene V} {m : ChannelManager V} {l : Lobby V} (h : IdsValid k)
    (hentries : ∀ id r, m.channels.get? id = some r → ValidId id) (s : SocketId)
    (session : Session V) (hcurrent : ∀ id, session.currentChannelId = some id → ValidId id)
    (hjoining : ∀ pending, session.joining = some pending → ValidId pending.request.channelId) :
    IdsValid ⟨m, Function.update k.session s (some session), l⟩ where
  channels := hentries
  current s' session' id hses hcur := by
    dsimp only at hses
    rw [Function.update_apply] at hses
    split at hses
    · exact hcurrent id (Option.some.inj hses ▸ hcur)
    · exact h.current s' session' id hses hcur
  joining s' session' pending hses hjoin := by
    dsimp only at hses
    rw [Function.update_apply] at hses
    split at hses
    · exact hjoining pending (Option.some.inj hses ▸ hjoin)
    · exact h.joining s' session' pending hses hjoin

theorem drop {k : Scene V} (h : IdsValid k) (now : ℕ) (s : SocketId) : IdsValid (k.drop now s) := by
  have hentries : ∀ m : ChannelManager V, Shrinks (k.manager.releaseDirectDelivery s) m →
      ∀ id r, m.channels.get? id = some r → ValidId id := fun m hshrinks id r hget =>
    h.channels id r ((Shrinks.release k.manager s).entries id r (hshrinks.entries id r hget))
  have hkeep : ∀ (m : ChannelManager V) (l : Lobby V),
      Shrinks (k.manager.releaseDirectDelivery s) m →
        IdsValid ⟨m, Function.update k.session s ((k.session s).map fun session =>
          { session with releasedSocketCounter := true }), l⟩ := by
    intro m l hshrinks
    cases hses : k.session s with
    | none =>
      rw [Option.map_none, ← hses, Function.update_eq_self]
      exact ⟨hentries m hshrinks, h.current, h.joining⟩
    | some session =>
      exact h.update (hentries m hshrinks) s _ (fun id => h.current s session id hses)
        fun pending => h.joining s session pending hses
  unfold Scene.drop
  split
  · dsimp only
    split
    · exact hkeep _ _ (.refl _)
    · exact hkeep _ _ (.leave _ _ _ _)
  · exact h

theorem relieve {k : Scene V} (h : IdsValid k) (now : ℕ) (target : Option SocketId) :
    IdsValid (k.relieve now target) := by
  unfold Scene.relieve
  split
  · exact h
  · split
    · exact h
    · exact h.drop now _

variable {cfg : Config} {st : RelayServer V} {input : Input V} {s : SocketId}
  {session : Session V} {request : JoinRequest} {resolves : Bool}

/-- The id of a join that is entered is valid. -/
theorem of_enters (h : IdsValid st.scene)
    (henters : st.Enters cfg input s session request resolves) : ValidId request.channelId := by
  cases henters with
  | rejoin hasks =>
    obtain ⟨payload, -, hvalid⟩ := hasks.event
    exact validId_of_accepted hvalid
  | roomJoined _ hses hjoin => exact h.joining s session _ hses hjoin

/-- A join adds no entry but its own. -/
theorem of_joinCall (h : IdsValid st.scene) (hvalid : ValidId request.channelId) (now : ℕ)
    (id : String) (r : ChannelRef)
    (hget : (st.joinCall now s session request).2.channels.get? id = some r) : ValidId id := by
  have hout := joinCall_outcome st now s session request
  generalize st.joinCall now s session request = out at hout hget
  obtain ⟨result, m⟩ := out
  dsimp only at hout hget
  cases hout with
  | refused => exact h.channels id r hget
  | refusedAfterStale _ r' e =>
    have htables := st.channelManager.tables_dropStale r' e
    exact h.channels id r (Shrinks.entries_of_tables htables id r hget)
  | tombstone => exact h.channels id r hget
  | admitted _ _ _ _ hslot =>
    cases hslot with
    | existing _ _ hch => exact h.channels id r (hch ▸ hget)
    | created _ hch =>
      rw [hch, JsMap.get?_set] at hget
      split at hget
      next hid => exact hid ▸ hvalid
      next => exact h.channels id r hget

theorem act [Unknown V] {k : Scene V} (h : IdsValid st.scene) (hact : Act cfg st input k) :
    IdsValid k := by
  have hleave : ∀ (now : ℕ) (m : ChannelManager V) (s : SocketId) (channelId : String),
      (∀ id r, m.channels.get? id = some r → ValidId id) →
      ∀ id r, (m.leave now s channelId).2.channels.get? id = some r → ValidId id :=
    fun now m s channelId hm id r hget =>
      hm id r ((Shrinks.leave now m s channelId).entries id r hget)
  have hwaiting : ∀ {request : JoinRequest} {stage : Stage V} {pending : PendingJoin V},
      ValidId request.channelId → waiting request stage = some pending →
      ValidId pending.request.channelId := by
    intro request stage pending hvalid hpending
    unfold RelayServer.waiting at hpending
    split at hpending
    · cases hpending
      exact hvalid
    · cases hpending
  have hleft : ∀ {s session channelId} (session' : Session V), st.sessions.get? s = some session →
      (session' = if session.currentChannelId = some channelId then
        { session with currentChannelId := none } else session) →
      (∀ id, session'.currentChannelId = some id → ValidId id) ∧
      ∀ pending, session'.joining = some pending → ValidId pending.request.channelId := by
    intro s session channelId session' hses heq
    subst heq
    refine ⟨fun id hcur => ?_, fun pending hjoin => ?_⟩
    · split at hcur
      · cases hcur
      · exact h.current s session id hses hcur
    · refine h.joining s session pending hses ?_
      split at hjoin <;> exact hjoin
  cases hact with
  | idle => exact h
  | turned m hquiet =>
    exact ⟨fun id r hget => h.channels id r (hquiet.entries id r hget), h.current, h.joining⟩
  | opened s clientIp => exact h.update h.channels s _ (fun _ h => nomatch h) fun _ h => nomatch h
  | requested s session request resolves hasks =>
    refine h.update h.channels s _ (fun id => h.current s session id hasks.found) ?_
    rintro pending ⟨⟩
    obtain ⟨payload, -, hvalid⟩ := hasks.event
    exact validId_of_accepted hvalid
  | refusedJoin s session request resolves error henters =>
    have hvalid := h.of_enters henters
    exact h.update (h.of_joinCall hvalid _) s _ (fun id => h.current s session id henters.found)
      fun pending => hwaiting hvalid
  | tombstone s session request resolves henters =>
    exact h.update h.channels s _ (fun id => h.current s session id henters.found)
      fun pending => hwaiting (h.of_enters henters)
  | entered s session request resolves messages key roster henters =>
    have hvalid := h.of_enters henters
    refine h.update (h.of_joinCall hvalid _) s _ ?_ fun pending h => nomatch h
    rintro id ⟨⟩
    exact hvalid
  | switched s session request resolves messages key roster previous henters =>
    have hvalid := h.of_enters henters
    refine h.update (hleave _ _ _ _ (h.of_joinCall hvalid _)) s _
      (fun id => h.current s session id henters.found) ?_
    rintro pending ⟨⟩
    exact hvalid
  | completed s session request resolves messages key roster hevent hses hjoin =>
    refine h.update h.channels s _ ?_ fun pending h => nomatch h
    rintro id ⟨⟩
    exact h.joining s session _ hses hjoin
  | ended s session request stage resolves hevent hses =>
    exact h.update h.channels s _ (fun id => h.current s session id hses) fun _ h => nomatch h
  | reported s session request resolves hevent hses =>
    exact h.update h.channels s _ (fun id => h.current s session id hses) fun _ h => nomatch h
  | aborted s session request stage resolves hevent hses hjoin =>
    exact h.update h.channels s _ (fun id => h.current s session id hses)
      fun pending => hwaiting (h.joining s session _ hses hjoin)
  | undone s session request resolves messages key roster hevent hses hjoin =>
    exact h.update (hleave _ _ _ _ h.channels) s _ (fun id => h.current s session id hses)
      fun pending => hwaiting (h.joining s session _ hses hjoin)
  | messaged s session payload =>
    have hquiet := Quiet.routeCall cfg st input s session payload
    have hrouted : IdsValid { st.scene with
        manager := (st.routeCall cfg input s session payload).2 } :=
      ⟨fun id r hget => h.channels id r (hquiet.entries id r hget), h.current, h.joining⟩
    exact hrouted.relieve _ _
  | left s session channelId hevent hleaves =>
    obtain ⟨hcurrent, hjoining⟩ := hleft _ hleaves.found rfl
    exact h.update (hleave _ _ _ _ h.channels) s _ hcurrent hjoining
  | closed s session channelId participant hevent hleaves =>
    obtain ⟨hcurrent, hjoining⟩ := hleft _ hleaves.found rfl
    refine h.update (fun id r hget => ?_) s _ hcurrent hjoining
    exact hleave _ _ _ _ h.channels id r ((Shrinks.close _ _ _).entries id r hget)
  | dropped s => exact h.drop _ _

end IdsValid

/-- In every state of the relay the ids are valid. -/
theorem ids_valid_after [Unknown V] (cfg : Config) (inputs : List (Input V)) :
    IdsValid (RelayServer.after cfg inputs).scene := by
  induction inputs using List.reverseRecOn with
  | nil =>
    refine ⟨fun id r hget => ?_, fun s session id hses => ?_, fun s session pending hses => ?_⟩
    · cases hget
    · cases hses
    · cases hses
  | append_singleton inputs input ih =>
    rw [RelayServer.after, Runs.run_snoc]
    exact ih.act (act_of_step cfg (managed_after cfg inputs) input)

/-! ## The handler of a close -/

namespace RelayServer

/-- The last packet of a step is the ack of a socket's request. -/
def Answers (st st' : RelayServer V) (s : SocketId) (response : Response V) : Prop :=
  ∃ packets, st'.sent = st.sent ++ packets ++ [(s, .ack response)]

theorem Answers.unique {st st' : RelayServer V} {s : SocketId} {response response' : Response V}
    (h : st.Answers st' s response) (h' : st.Answers st' s response') : response = response' := by
  obtain ⟨packets, hsent⟩ := h
  obtain ⟨packets', hsent'⟩ := h'
  have hlast := (List.append_inj' (hsent.symm.trans hsent') rfl).2
  simpa using hlast

theorem sent_emit (st : RelayServer V) (s : SocketId) (packet : Packet V) :
    ∃ packets, (st.emit s packet).sent = st.sent ++ packets := by
  unfold emit
  split
  · exact ⟨[], (List.append_nil _).symm⟩
  · exact ⟨_, rfl⟩

theorem sent_broadcast (st : RelayServer V) (s : SocketId) (room : String) (packet : Packet V) :
    ∃ packets, (st.broadcast s room packet).sent = st.sent ++ packets := by
  unfold broadcast
  generalize ((st.sockets.entries.filter _).map Prod.fst) = receivers
  induction receivers generalizing st with
  | nil => exact ⟨[], (List.append_nil _).symm⟩
  | cons receiver receivers ih =>
    obtain ⟨packets, hemit⟩ := sent_emit st receiver packet
    obtain ⟨rest, hrest⟩ := ih (st.emit receiver packet)
    exact ⟨packets ++ rest, by rw [List.foldl_cons, hrest, hemit, List.append_assoc]⟩

/-- A connected socket gets the ack it asked for. -/
theorem answers_respond {st st' : RelayServer V} {s : SocketId}
    {packets : List (SocketId × Packet V)} (hsent : st'.sent = st.sent ++ packets)
    (hconn : (st'.sockets.get? s).isSome = true)
    (response : Response V) : st.Answers (st'.respond s true response) s response := by
  refine ⟨packets, ?_⟩
  obtain ⟨socket, hsock⟩ := Option.isSome_iff_exists.1 hconn
  unfold respond emit
  rw [if_pos rfl, hsock, ← hsent]

/-- The socket takes part in the live channel under the id. -/
def TakesPart (st : RelayServer V) (s : SocketId) (channelId : String) : Prop :=
  ∃ r p, st.channelManager.channels.get? channelId = some r ∧
    (st.channelManager.content r).terminated = false ∧
    (st.channelManager.content r).participants.get? s = some p

/-- What a `close_channel` request that passes the rate limit does, at once and for good. -/
structure ClosesDurably [Unknown V] (cfg : Config) (st : RelayServer V) (now : ℕ) (s : SocketId)
    (session : Session V) (requested : Narrowed) (ack : Bool) : Prop where
  acked : ack = true →
    (st.Answers (step cfg st ⟨now, .closeChannel s requested ack⟩) s .closed ↔
      ∃ channelId, resolveChannelId requested session.currentChannelId = some channelId ∧
        st.TakesPart s channelId)
  tombstone : ∀ channelId, resolveChannelId requested session.currentChannelId = some channelId →
    st.TakesPart s channelId → ∃ r, st.channelManager.channels.get? channelId = some r ∧
      Entombed (step cfg st ⟨now, .closeChannel s requested ack⟩).channelManager channelId r now
        (step cfg st ⟨now, .closeChannel s requested ack⟩).channelManager.closedChannels.card
  failed : (¬∃ channelId, resolveChannelId requested session.currentChannelId = some channelId ∧
      st.TakesPart s channelId) →
    (step cfg st ⟨now, .closeChannel s requested ack⟩).channelManager = st.channelManager
  durable : ∀ channelId, resolveChannelId requested session.currentChannelId = some channelId →
    st.TakesPart s channelId → ∀ later : List (Input V),
      (∀ input ∈ later, input.now ≤ now + tombstoneTtlMs) →
      (Runs.run (step cfg) (step cfg st ⟨now, .closeChannel s requested ack⟩)
          later).channelManager.closedChannels.card <
        (step cfg st ⟨now, .closeChannel s requested ack⟩).channelManager.closedChannels.card +
          maxTombstones →
      Sealed (Runs.run (step cfg) (step cfg st ⟨now, .closeChannel s requested ack⟩)
        later).channelManager channelId

section Close

variable [Unknown V] {cfg : Config} {st : RelayServer V} {now : ℕ} {s : SocketId}
  {session : Session V} {requested : Narrowed} {ack : Bool}

/-- The event runs the handler. -/
theorem step_closeChannel (hconn : (st.sockets.get? s).isSome = true)
    (hses : st.sessions.get? s = some session) :
    step cfg st ⟨now, .closeChannel s requested ack⟩ =
      st.onCloseChannel now s session requested ack := by
  obtain ⟨socket, hsock⟩ := Option.isSome_iff_exists.1 hconn
  unfold step
  dsimp only
  rw [hsock, hses]

omit [Unknown V] in
theorem manager_respond (st : RelayServer V) (s : SocketId) (ack : Bool) {response : Response V}
    (h : (Packet.ack response).messages = [] ∧ (Packet.ack response).isPresence = false) :
    (st.respond s ack response).channelManager = st.channelManager :=
  congrArg Scene.manager (scene_respond st s ack h)

/-- A participant of a channel takes part in a live one. -/
theorem takesPart_of_leave (hmanaged : Managed cfg st.channelManager) {channelId : String}
    {participant : Participant}
    (hpart : (st.channelManager.leave now s channelId).1 = some participant) :
    st.TakesPart s channelId := by
  have hleave := leave_outcome now st.channelManager s channelId
  generalize st.channelManager.leave now s channelId = out at hleave hpart
  obtain ⟨result, m⟩ := out
  dsimp only at hleave hpart
  subst hpart
  cases hleave with
  | left r p hget hp =>
    refine ⟨r, _, hget, ?_, hp⟩
    by_contra hterm
    have hempty := (hmanaged.cleanTombstone r).participants (by simpa using hterm)
    rw [hempty, JsMap.get?_empty] at hp
    cases hp

omit [Unknown V] in
theorem leave_of_takesPart {channelId : String} (h : st.TakesPart s channelId) :
    ∃ participant, (st.channelManager.leave now s channelId).1 = some participant := by
  obtain ⟨r, p, hget, -, hp⟩ := h
  have hleave := leave_outcome now st.channelManager s channelId
  generalize st.channelManager.leave now s channelId = out at hleave ⊢
  obtain ⟨result, m⟩ := out
  cases hleave with
  | absent hnot =>
    rw [hnot r hget] at hp
    cases hp
  | left r p => exact ⟨p, rfl⟩

/-- Who takes part in no channel by that name gets a refusal, and nothing changes. -/
theorem close_refused (hmanaged : Managed cfg st.channelManager)
    (hconn : (st.sockets.get? s).isSome = true)
    (hallowed : (st.checkRateLimit now session.clientIp .control rateLimitMaxControlEvents).1 =
      true)
    (hnot : ¬∃ channelId, resolveChannelId requested session.currentChannelId = some channelId ∧
      st.TakesPart s channelId) :
    (st.onCloseChannel now s session requested ack).channelManager = st.channelManager ∧
    (ack = true → st.Answers (st.onCloseChannel now s session requested ack) s
      (.closeFailed "Channel close was not confirmed")) := by
  unfold onCloseChannel
  dsimp only
  set st₁ := (st.checkRateLimit now session.clientIp .control rateLimitMaxControlEvents).2
  have hconn₁ : (st₁.sockets.get? s).isSome = true := hconn
  have hsent₁ : st₁.sent = st.sent ++ [] := (List.append_nil _).symm
  rw [hallowed, if_neg (by simp)]
  split
  · refine ⟨manager_respond st₁ s ack ⟨rfl, rfl⟩, ?_⟩
    rintro rfl
    exact answers_respond hsent₁ hconn₁ _
  next channelId hresolve =>
  have hresolve : resolveChannelId requested session.currentChannelId = some channelId := by
    obtain ⟨channelId', hresolve, hvalid⟩ := Option.bind_eq_some_iff.1 hresolve
    rw [hresolve, eq_of_isValidChannelId hvalid]
  have hnone : ∀ participant, (st.channelManager.leave now s channelId).1 ≠ some participant :=
    fun participant hpart => hnot ⟨channelId, hresolve, takesPart_of_leave hmanaged hpart⟩
  have hcall : st₁.channelManager = st.channelManager := rfl
  rw [hcall]
  have hleave := leave_outcome now st.channelManager s channelId
  generalize st.channelManager.leave now s channelId = out at hleave hnone ⊢
  obtain ⟨result, m⟩ := out
  cases hleave with
  | absent =>
    dsimp only
    refine ⟨manager_respond _ s ack ⟨rfl, rfl⟩, ?_⟩
    rintro rfl
    exact answers_respond hsent₁ hconn₁ _
  | left r p => exact absurd rfl (hnone p)

/-- A participant's request closes the channel, and is acked. -/
theorem close_confirmed (hmanaged : Managed cfg st.channelManager)
    (hconn : (st.sockets.get? s).isSome = true) (hses : st.sessions.get? s = some session)
    (hallowed : (st.checkRateLimit now session.clientIp .control rateLimitMaxControlEvents).1 =
      true) {channelId : String}
    (hresolve : resolveChannelId requested session.currentChannelId = some channelId)
    (hvalid : ValidId channelId) (hpart : st.TakesPart s channelId) :
    ((st.channelManager.leave now s channelId).2.close now channelId).1 = true ∧
    (st.onCloseChannel now s session requested ack).channelManager =
      ((st.channelManager.leave now s channelId).2.close now channelId).2 ∧
    (ack = true → st.Answers (st.onCloseChannel now s session requested ack) s .closed) := by
  obtain ⟨participant, hleave⟩ := @leave_of_takesPart V st now s channelId hpart
  have hclose := close_after_leave cfg hmanaged now hleave
  unfold onCloseChannel
  dsimp only
  set st₁ := (st.checkRateLimit now session.clientIp .control rateLimitMaxControlEvents).2
  have hconn₁ : (st₁.core.transport s).isSome = true := core_connected.2 hconn
  rw [hallowed, if_neg (by simp), hresolve, Option.bind_some, hvalid.accepted]
  dsimp only
  have hcall : st₁.channelManager = st.channelManager := rfl
  rw [hcall]
  generalize st.channelManager.leave now s channelId = out at hleave hclose ⊢
  obtain ⟨result, m⟩ := out
  dsimp only at hleave hclose ⊢
  subst hleave
  dsimp only
  generalize m.close now channelId = out at hclose ⊢
  obtain ⟨confirmed, m'⟩ := out
  dsimp only at hclose ⊢
  subst hclose
  dsimp only
  set st₂ := { st₁ with channelManager := m' }.leaveRoom s channelId true with hst₂
  set st₃ := st₂.broadcast s channelId (.participantsChanged .close participant.clientType)
    with hst₃
  have hcore₃ : st₃.core = { st₁.core with manager := m' } := by
    rw [hst₃, core_broadcast, hst₂, core_leaveRoom, core_setManager]
  have hcore₄ := @core_modifySession_of_some V st₃ s (fun session =>
    if session.currentChannelId = some channelId then { session with currentChannelId := none }
    else session) session (by rw [hcore₃]; exact hses)
  rw [hcore₃] at hcore₄
  refine ⟨rfl, ?_, ?_⟩
  · exact (manager_respond _ s ack ⟨rfl, rfl⟩).trans (congrArg Core.manager hcore₄)
  · rintro rfl
    obtain ⟨packets, hsent₃⟩ := sent_broadcast st₂ s channelId
      (.participantsChanged .close participant.clientType)
    have hsent₂ : st₂.sent = st.sent := by
      rw [hst₂]
      unfold leaveRoom
      split <;> rfl
    refine @answers_respond V st _ s packets ?_ (core_connected.1 ?_) .closed
    · rw [← hsent₂, ← hsent₃]
      unfold modifySession
      split <;> rfl
    · rw [hcore₄]
      exact hconn₁

/-- In every state of the relay, a close_channel request that passes the rate limit is acked
with success exactly when the requester takes part in the channel, turns it into a tombstone
then and changes nothing otherwise, and the tombstone lasts. -/
theorem close_is_durable (cfg : Config) (inputs : List (Input V)) (now : ℕ) (s : SocketId)
    (session : Session V) (requested : Narrowed) (ack : Bool)
    (hconn : ((RelayServer.after cfg inputs).sockets.get? s).isSome = true)
    (hses : (RelayServer.after cfg inputs).sessions.get? s = some session)
    (hallowed : ((RelayServer.after cfg inputs).checkRateLimit now session.clientIp .control
      rateLimitMaxControlEvents).1 = true) :
    ClosesDurably cfg (RelayServer.after cfg inputs) now s session requested ack := by
  have hids := ids_valid_after cfg inputs
  have hmanaged := managed_after cfg inputs
  have hafter : Managed cfg (step cfg (RelayServer.after cfg inputs)
      ⟨now, .closeChannel s requested ack⟩).channelManager := by
    have h := managed_after cfg (inputs ++ [⟨now, .closeChannel s requested ack⟩])
    rwa [RelayServer.after, Runs.run_snoc] at h
  generalize RelayServer.after cfg inputs = st at *
  have hstep := @step_closeChannel V _ cfg st now s session requested ack hconn hses
  have hvalid : ∀ channelId, st.TakesPart s channelId → ValidId channelId :=
    fun channelId ⟨r, _, hget, _⟩ => hids.channels channelId r hget
  have hentombed : ∀ channelId, resolveChannelId requested session.currentChannelId =
      some channelId → st.TakesPart s channelId →
      ∃ r, st.channelManager.channels.get? channelId = some r ∧
        Entombed (step cfg st ⟨now, .closeChannel s requested ack⟩).channelManager channelId r now
          (step cfg st
            ⟨now, .closeChannel s requested ack⟩).channelManager.closedChannels.card := by
    intro channelId hresolve hpart
    obtain ⟨hclosed, hm, -⟩ := @close_confirmed V _ cfg st now s session requested ack hmanaged
      hconn hses hallowed channelId hresolve (hvalid channelId hpart) hpart
    rw [hstep, hm]
    have hleft := hmanaged.leave now s channelId
    obtain ⟨calls, hcalls⟩ := hleft
    obtain ⟨r, hget, hentombed⟩ := entombed_of_close (hcalls ▸ mapSound_after _ _ _)
      (hcalls ▸ tombstoned_after _ _ _) hclosed
    refine ⟨r, ?_, hentombed⟩
    have hout := leave_outcome now st.channelManager s channelId
    generalize st.channelManager.leave now s channelId = out at hout hget
    obtain ⟨result, m⟩ := out
    cases hout with
    | absent => exact hget
    | left _ _ _ _ _ htables => exact (tables_eq_iff.1 htables).1 ▸ hget
  refine ⟨fun hack => ?_, hentombed, fun hnot => ?_,
    fun channelId hresolve hpart later hnow hfew => ?_⟩
  · constructor
    · intro hacked
      by_contra hnot
      rw [hstep] at hacked
      have hrefused := (@close_refused V _ cfg st now s session requested ack hmanaged hconn
        hallowed hnot).2 hack
      cases hacked.unique hrefused
    · rintro ⟨channelId, hresolve, hpart⟩
      rw [hstep]
      exact (@close_confirmed V _ cfg st now s session requested ack hmanaged hconn hses hallowed
        channelId hresolve (hvalid channelId hpart) hpart).2.2 hack
  · rw [hstep]
    exact (@close_refused V _ cfg st now s session requested ack hmanaged hconn hallowed hnot).1
  · obtain ⟨r, -, hentombed⟩ := hentombed channelId hresolve hpart
    exact (entombed_after hafter hentombed hnow hfew).sealed

/-- A dApp alone in its channel closes it. -/
theorem close_is_durable_alone : ClosesDurably (V := String) .unset (RelayServer.after .unset
    [⟨0, .connection 1 "a" 1⟩,
      ⟨0, .joinChannel 1 ⟨.string "c", .string "dapp", .undefined⟩ true true⟩,
      ⟨0, .resumeJoin 1 true⟩]) 1 1 ⟨"a", some "c", false, none⟩ .undefined true :=
  close_is_durable .unset _ 1 1 _ .undefined true (by decide) (by rfl) (by decide)

end Close

end RelayServer

end QrlBackend
