import QrlBackend.Lifetimes
import QrlBackend.TurnCalls

/-!
# Reservations and transport listeners

The relay keeps two tables of deliveries in flight : the reservations of the channel manager
and its own transport listeners. `Agrees` says that they name the same sockets, all of them
connected. Every turn keeps it (`agrees_after`), so a message that is reserved for a
counterparty always finds its transport free (`deliveries_in_step`).

Besides, every connected socket has a session (`known_after`), and the manager of the relay
is one that a run of its own operations reaches (`managed_after`), so what holds after every
run of the manager holds in every state of the relay.
-/

set_option autoImplicit false

namespace QrlBackend

variable {V : Type}

open ChannelManager RelayServer

/-! ## The manager of the relay -/

/-- The manager was reached by a run of calls. -/
def Managed [Unknown V] (cfg : Config) (m : ChannelManager V) : Prop :=
  ∃ calls, m = ChannelManager.after cfg (some cfg.relayMaxChannelsPerIp) calls

namespace Managed

variable [Unknown V] {cfg : Config} {m : ChannelManager V}

/-- Every call keeps the manager in order. -/
theorem step (h : Managed cfg m) (c : Call V) : Managed cfg (c.step cfg m) := by
  obtain ⟨calls, rfl⟩ := h
  exact ⟨calls ++ [c], (after_snoc _ _ _ _).symm⟩

theorem leave (h : Managed cfg m) (now : ℕ) (s : SocketId) (channelId : String) :
    Managed cfg (m.leave now s channelId).2 :=
  h.step ⟨now, .leave s channelId⟩

theorem release (h : Managed cfg m) (s : SocketId) : Managed cfg (m.releaseDirectDelivery s) :=
  h.step ⟨0, .releaseDirectDelivery s⟩

theorem advance (h : Managed cfg m) (s : SocketId) : Managed cfg (m.advanceDirectDelivery s).2 :=
  h.step ⟨0, .advanceDirectDelivery s⟩

theorem join (h : Managed cfg m) (active : SocketId → Bool) (now : ℕ) (channelId : String)
    (s : SocketId) (t : ClientType) (publicKey creatorIp : Option String) :
    Managed cfg (m.join active now channelId s t publicKey creatorIp).2 :=
  h.step ⟨now, .join active channelId s t publicKey creatorIp⟩

theorem route (h : Managed cfg m) (canReceive : SocketId → Bool) (now bufferedAt : ℕ)
    (channelId : String) (s : SocketId) (payload : RelayPayload V) (sourceIp : String) :
    Managed cfg (m.routeMessage cfg canReceive now bufferedAt channelId s payload sourceIp).2 :=
  h.step ⟨now, .routeMessage canReceive channelId s payload sourceIp bufferedAt⟩

/-- No channel has two participants of one role. -/
theorem roleExclusive (h : Managed cfg m) (r : ChannelRef) :
    RoleExclusive (m.content r).participants := by
  obtain ⟨calls, rfl⟩ := h
  exact roleExclusive_after _ _ calls r

/-- A closed channel has nobody and nothing. -/
theorem cleanTombstone (h : Managed cfg m) (r : ChannelRef) : CleanTombstone (m.content r) := by
  obtain ⟨calls, rfl⟩ := h
  exact cleanTombstone_after _ _ calls r

/-- A channel with a message in its buffer is live. -/
theorem live_of_mem (h : Managed cfg m) {r : ChannelRef} {message : BufferedMessage V}
    (hmem : message ∈ (m.content r).messageBuffer) : (m.content r).terminated = false := by
  by_contra hterm
  rw [(h.cleanTombstone r).messageBuffer (by simpa using hterm)] at hmem
  cases hmem

theorem mapSound (h : Managed cfg m) : MapSound m := by
  obtain ⟨calls, rfl⟩ := h
  exact mapSound_after _ _ calls

theorem drop {k : Core V} (h : Managed cfg k.manager) (now : ℕ) (s : SocketId) :
    Managed cfg (k.drop now s).manager := by
  unfold Core.drop
  split
  · dsimp only
    split
    · exact h.release s
    · exact (h.release s).leave now s _
  · exact h

theorem relieve {k : Core V} (h : Managed cfg k.manager) (now : ℕ) (target : Option SocketId) :
    Managed cfg (k.relieve now target).manager := by
  unfold Core.relieve
  split
  · exact h
  · split
    · exact h
    · exact h.drop now _

end Managed

variable [Unknown V] {cfg : Config} {st : RelayServer V} {input : Input V} {k : Core V}

/-- Every turn leaves the manager in order. -/
theorem managed_turn (hturn : Turn cfg st input k) (h : Managed cfg st.channelManager) :
    Managed cfg k.manager := by
  cases hturn with
  | idle | opened | requested | dismissed | completed | drained | upgraded => exact h
  | refusedJoin | entered => exact h.join _ _ _ _ _ _ _
  | switched => exact (h.join _ _ _ _ _ _ _).leave _ _ _
  | undone | left => exact h.leave _ _ _
  | refused | buffered => exact Managed.relieve (h.route _ _ _ _ _ _ _) _ _
  | direct => exact h.route _ _ _ _ _ _ _
  | closed s session channelId => exact (h.leave _ _ _).step ⟨input.now, .close channelId⟩
  | dropped => exact Managed.drop h _ _
  | promoted => exact h.advance _
  | released => exact (h.advance _).release _
  | cleaned => exact h.step ⟨input.now, .cleanup⟩

/-- The manager of every relay state is one its own operations reach. -/
theorem managed_after (cfg : Config) (inputs : List (Input V)) :
    Managed cfg (RelayServer.after cfg inputs).channelManager :=
  Runs.run_invariant (I := fun st : RelayServer V => Managed cfg st.channelManager)
    (fun st input h => managed_turn (turn_of_step cfg st input) h) inputs ⟨[], rfl⟩

/-! ## Reservations under the operations of the manager -/

omit [Unknown V] in
/-- Who leaves keeps its reservation. -/
theorem directDeliveries_leave (now : ℕ) (m : ChannelManager V) (s : SocketId)
    (channelId : String) : (m.leave now s channelId).2.directDeliveries = m.directDeliveries := by
  have hout := leave_outcome now m s channelId
  generalize m.leave now s channelId = out at hout ⊢
  obtain ⟨res, m'⟩ := out
  cases hout with
  | absent => rfl
  | left r p _ _ _ _ hdd => exact hdd

omit [Unknown V] in
/-- A close ends no reservation. -/
theorem directDeliveries_close (now : ℕ) (m : ChannelManager V) (channelId : String) :
    (m.close now channelId).2.directDeliveries = m.directDeliveries := by
  have hout := close_outcome now m channelId
  generalize m.close now channelId = out at hout ⊢
  obtain ⟨res, m'⟩ := out
  cases hout with
  | refused => rfl
  | closed r _ _ _ _ _ _ _ _ hdd => exact hdd

omit [Unknown V] in
/-- Only the socket that goes away loses its reservation. -/
theorem Core.directDeliveries_drop (now : ℕ) (k : Core V) {s s' : SocketId} (hs : s' ≠ s) :
    (k.drop now s).manager.directDeliveries.get? s' = k.manager.directDeliveries.get? s' := by
  have hrelease := k.manager.directDeliveries_releaseDirectDelivery s s'
  rw [if_neg hs] at hrelease
  unfold drop
  split
  · dsimp only
    split
    · exact hrelease
    · rwa [directDeliveries_leave]
  · rfl

omit [Unknown V] in
/-- A socket that stays keeps its reservation, and if it could not take the message, it has
one. -/
theorem Core.connected_relieve {now : ℕ} {k : Core V} {target : Option SocketId} {s : SocketId}
    (h : ((k.relieve now target).transport s).isSome = true) :
    (k.transport s).isSome = true ∧
    (k.relieve now target).manager.directDeliveries.get? s =
      k.manager.directDeliveries.get? s ∧
    (target = some s → k.manager.hasDirectDelivery s = true) := by
  cases target with
  | none => exact ⟨h, rfl, fun hs => by cases hs⟩
  | some target =>
    unfold relieve at h ⊢
    dsimp only at h ⊢
    split at h
    next hhas =>
      rw [if_pos hhas]
      exact ⟨h, rfl, fun hs => Option.some.inj hs ▸ hhas⟩
    next hhas =>
      rw [if_neg hhas]
      obtain ⟨hne, hconn⟩ := connected_drop h
      exact ⟨hconn, directDeliveries_drop now k hne, fun hs => absurd (Option.some.inj hs).symm hne⟩

/-! ## Agreement -/

/-- The sockets with a listener are those with a reservation, and all are connected. -/
structure Agrees (k : Core V) : Prop where
  reserved : ∀ s, (k.listener s).isSome = (k.manager.directDeliveries.get? s).isSome
  connected : ∀ s, (k.listener s).isSome = true → (k.transport s).isSome = true

namespace Agrees

omit [Unknown V] in
/-- A socket that is gone has no reservation. -/
theorem reservation_none {k : Core V} (h : Agrees k) {s : SocketId} (hgone : k.transport s = none) :
    k.manager.directDeliveries.get? s = none := by
  cases hget : k.manager.directDeliveries.get? s with
  | none => rfl
  | some reservation =>
    have hconn := h.connected s (by rw [h.reserved, hget]; rfl)
    simp [hgone] at hconn

omit [Unknown V] in
/-- A change of the manager that keeps every reservation. -/
theorem of_same {k k' : Core V} (h : Agrees k)
    (hdd : ∀ s, k'.manager.directDeliveries.get? s = k.manager.directDeliveries.get? s)
    (hlistener : k'.listener = k.listener)
    (htransport : ∀ s, (k.transport s).isSome = true → (k'.transport s).isSome = true) :
    Agrees k' where
  reserved s := by rw [hlistener, hdd, h.reserved]
  connected s hs := htransport s (h.connected s (hlistener ▸ hs))

omit [Unknown V] in
/-- A reservation and a listener that begin together. -/
theorem of_armed {k k' : Core V} (h : Agrees k) {s : SocketId} {listener : Listener}
    (hlistener : k'.listener = Function.update k.listener s (some listener))
    (hself : (k'.manager.directDeliveries.get? s).isSome = true)
    (hdd : ∀ s', s' ≠ s →
      k'.manager.directDeliveries.get? s' = k.manager.directDeliveries.get? s')
    (htransport : k'.transport = k.transport) (hconn : (k.transport s).isSome = true) :
    Agrees k' where
  reserved s' := by
    rw [hlistener]
    by_cases hs : s' = s
    · subst hs
      rw [Function.update_self, hself]
      rfl
    · rw [Function.update_of_ne hs, hdd s' hs, h.reserved]
  connected s' hs' := by
    rw [htransport]
    by_cases hs : s' = s
    · exact hs ▸ hconn
    · rw [hlistener, Function.update_of_ne hs] at hs'
      exact h.connected s' hs'

omit [Unknown V] in
/-- A reservation and a listener that end together. -/
theorem of_released {k k' : Core V} (h : Agrees k) {s : SocketId}
    (hlistener : k'.listener = Function.update k.listener s none)
    (hself : k'.manager.directDeliveries.get? s = none)
    (hdd : ∀ s', s' ≠ s →
      k'.manager.directDeliveries.get? s' = k.manager.directDeliveries.get? s')
    (htransport : ∀ s', s' ≠ s → k'.transport s' = k.transport s') : Agrees k' where
  reserved s' := by
    rw [hlistener]
    by_cases hs : s' = s
    · subst hs
      rw [Function.update_self, hself]
      rfl
    · rw [Function.update_of_ne hs, hdd s' hs, h.reserved]
  connected s' hs' := by
    by_cases hs : s' = s
    · subst hs
      simp [hlistener] at hs'
    · rw [hlistener, Function.update_of_ne hs] at hs'
      rw [htransport s' hs]
      exact h.connected s' hs'

omit [Unknown V] in
/-- A join releases the reservation of a stale socket only, which has none. -/
theorem directDeliveries_joinCall {st : RelayServer V} (h : Agrees st.core) (now : ℕ)
    (s : SocketId) (session : Session V) (request : JoinRequest) (s' : SocketId) :
    (st.joinCall now s session request).2.directDeliveries.get? s' =
      st.channelManager.directDeliveries.get? s' := by
  have hgone : ∀ e, st.sockets.get? e = none → st.channelManager.directDeliveries.get? e = none :=
    fun e he => h.reservation_none (s := e) (by simp [core, he])
  cases hres : (st.joinCall now s session request).1 with
  | failure error =>
    have hrefused := refusedJoin_of_failure hres
    generalize (st.joinCall now s session request).2 = m at hrefused ⊢
    cases hrefused with
    | unchanged => rfl
    | dropped r e he =>
      refine (directDeliveries_dropStale _ r e s').trans ?_
      split
      next hs => rw [hs, hgone e he]
      next => rfl
  | success messages key roster terminated =>
    cases terminated with
    | true => rw [tombstone_of_success hres]
    | false =>
      obtain ⟨r, c, key, stale, hadmitted⟩ := admitted_of_success hres
      rw [hadmitted.directDeliveries]
      split
      next hs => rw [hgone s' (hadmitted.inactive s' hs)]
      next => rfl

omit [Unknown V] in
theorem drop {k : Core V} (h : Agrees k) (now : ℕ) (s : SocketId) : Agrees (k.drop now s) := by
  unfold Core.drop
  split
  · have hdd : ∀ m : ChannelManager V, m.directDeliveries =
        (k.manager.releaseDirectDelivery s).directDeliveries →
        ∀ s', m.directDeliveries.get? s' =
          if s' = s then none else k.manager.directDeliveries.get? s' := by
      intro m hm s'
      rw [hm]
      exact k.manager.directDeliveries_releaseDirectDelivery s s'
    refine h.of_released rfl ?_ (fun s' hs => ?_) fun s' hs => Function.update_of_ne hs _ _
    · refine (hdd _ ?_ s).trans (if_pos rfl)
      dsimp only
      split
      · rfl
      · exact directDeliveries_leave _ _ _ _
    · refine (hdd _ ?_ s').trans (if_neg hs)
      dsimp only
      split
      · rfl
      · exact directDeliveries_leave _ _ _ _
  · exact h

omit [Unknown V] in
theorem relieve {k : Core V} (h : Agrees k) (now : ℕ) (target : Option SocketId) :
    Agrees (k.relieve now target) := by
  unfold Core.relieve
  split
  · exact h
  · split
    · exact h
    · exact h.drop now _

end Agrees

/-- Listeners and reservations agree after every turn. -/
theorem agrees_turn (hturn : Turn cfg st input k) (h : Agrees st.core) : Agrees k := by
  cases hturn with
  | idle => exact h
  | requested | dismissed | completed => exact h.of_same (fun _ => by rfl) rfl fun _ => id
  | opened s =>
    refine h.of_same (fun _ => by rfl) rfl fun s' hs' => ?_
    dsimp only
    rw [Function.update_apply]
    split
    · rfl
    · exact hs'
  | upgraded s =>
    refine h.of_same (fun _ => by rfl) rfl fun s' hs' => ?_
    dsimp only
    rw [Function.update_apply]
    split
    · rfl
    · exact hs'
  | refusedJoin | entered => exact h.of_same (h.directDeliveries_joinCall _ _ _ _) rfl fun _ => id
  | switched =>
    refine h.of_same (fun s' => ?_) rfl fun _ => id
    dsimp only [Core.setSession]
    rw [directDeliveries_leave]
    exact h.directDeliveries_joinCall _ _ _ _ s'
  | undone | left =>
    refine h.of_same (fun s' => ?_) rfl fun _ => id
    dsimp only [Core.setSession]
    rw [directDeliveries_leave]
    rfl
  | closed =>
    refine h.of_same (fun s' => ?_) rfl fun _ => id
    dsimp only [Core.setSession]
    rw [directDeliveries_close, directDeliveries_leave]
    rfl
  | cleaned =>
    refine h.of_same (fun s' => ?_) rfl fun _ => id
    dsimp only
    rw [(cleanup_spec _ _).2.2.2.2]
    rfl
  | refused s session payload error _ hres =>
    have htouched := touched_of_error hres
    refine Agrees.relieve ?_ _ _
    refine h.of_same (fun s' => ?_) rfl fun _ => id
    dsimp only
    rw [htouched.directDeliveries]
    rfl
  | buffered s session payload target _ hres =>
    obtain ⟨r, message, hpushed⟩ := pushed_of_buffered hres
    refine Agrees.relieve ?_ _ _
    refine h.of_same (fun s' => ?_) rfl fun _ => id
    dsimp only
    rw [hpushed.directDeliveries]
    rfl
  | direct s session payload target transport _ hres htransport =>
    obtain ⟨r, hgranted⟩ := granted_of_direct hres
    obtain ⟨reservation, -, hdd⟩ := hgranted.directDeliveries
    refine h.of_armed rfl ?_ (fun s' hs => ?_) rfl (by rw [htransport]; rfl)
    · dsimp only [Core.hand]
      rw [hdd, JsMap.get?_set_self]
      rfl
    · dsimp only [Core.hand]
      rw [hdd, JsMap.get?_set_of_ne _ _ hs]
      rfl
  | dropped s => exact h.drop _ _
  | drained s transport htransport hlistener =>
    refine h.of_armed rfl ?_ (fun _ _ => rfl) rfl (by rw [htransport]; rfl)
    dsimp only
    rw [← h.reserved, hlistener]
    rfl
  | promoted s transport payload htransport hlistener hres =>
    obtain ⟨r, p, next, hpromoted⟩ := promoted_of_advance hres
    refine h.of_armed rfl ?_ (fun s' hs => ?_) rfl (by rw [htransport]; rfl)
    · obtain ⟨reservation, -, hdd⟩ := hpromoted.directDeliveries s
      dsimp only [Core.hand]
      rw [hdd, if_pos rfl]
      rfl
    · obtain ⟨reservation, -, hdd⟩ := hpromoted.directDeliveries s'
      dsimp only [Core.hand]
      rw [hdd, if_neg hs]
      rfl
  | released s transport htransport hlistener hres =>
    have hexhausted := exhausted_of_advance hres
    refine h.of_released rfl ?_ (fun s' hs => ?_) fun _ _ => rfl
    · exact (hexhausted.directDeliveries s).trans (if_pos rfl)
    · exact (hexhausted.directDeliveries s').trans (if_neg hs)

/-- Between the events of a run, listeners and reservations agree. -/
theorem agrees_after (cfg : Config) (inputs : List (Input V)) :
    Agrees (RelayServer.after cfg inputs).core :=
  Runs.run_invariant (I := fun st : RelayServer V => Agrees st.core)
    (fun st input h => agrees_turn (turn_of_step cfg st input) h) inputs
    ⟨fun _ => rfl, fun _ h => by cases h⟩

/-! ## Arming -/

namespace RelayServer

/-- The state in which the `message` handler routes. -/
def beforeRouting (now : ℕ) (st : RelayServer V) (session : Session V) : RelayServer V :=
  { (st.checkRateLimit now session.clientIp .message rateLimitMaxMessages).2 with
    payloads := st.payloads + 1 }

/-- What the `message` handler routes, and the state in which it reads the result. -/
def afterRouting (cfg : Config) (now bufferedAt : ℕ) (st : RelayServer V) (s : SocketId)
    (session : Session V) (canonicalPayload : RelayPayload V) : RouteResult × RelayServer V :=
  let (result, m) := st.channelManager.routeMessage cfg st.canSocketReceive now bufferedAt
    canonicalPayload.id s canonicalPayload session.clientIp
  (result, { st with channelManager := m }.disconnectSlow now result.backpressuredSocketId)

/-- A message that is reserved for a socket finds its transport free. -/
theorem armDirectDelivery_afterRouting {now bufferedAt : ℕ} {s target : SocketId}
    {session : Session V} {payload : RelayPayload V}
    (h : (st.afterRouting cfg now bufferedAt s session payload).1.targetSocketId = some target) :
    ((st.afterRouting cfg now bufferedAt s session payload).2.armDirectDelivery target).1 =
      true := by
  have hout := routeMessage_outcome cfg st.canSocketReceive now bufferedAt st.channelManager
    payload.id s payload session.clientIp
  unfold afterRouting at h ⊢
  generalize st.channelManager.routeMessage cfg st.canSocketReceive now bufferedAt payload.id s
    payload session.clientIp = out at hout h ⊢
  obtain ⟨result, m⟩ := out
  cases hout with
  | refused | refusedLate | buffered => cases h
  | direct r sender target' size _ _ _ _ _ _ _ hreceive =>
    obtain rfl : target' = target := Option.some.inj h
    rw [canSocketReceive, Bool.and_eq_true, Bool.not_eq_true'] at hreceive
    obtain ⟨socket, hsock, hwritable⟩ := (Option.any_eq_true _ _).1 hreceive.1
    exact (@core_armDirectDelivery V { st with channelManager := m } target' socket hsock hwritable
      hreceive.2).1

end RelayServer

/-- Between two turns the sockets with a listener are the sockets with a reservation, all of
them connected, and whenever the handler of a message is given a target it can arm it. -/
theorem deliveries_in_step (cfg : Config) (inputs : List (Input V)) :
    (∀ s, s ∈ (RelayServer.after cfg inputs).directTransportListeners.keys ↔
      s ∈ (RelayServer.after cfg inputs).channelManager.directDeliveries.keys) ∧
    (∀ s ∈ (RelayServer.after cfg inputs).directTransportListeners.keys,
      (RelayServer.after cfg inputs).isSocketActive s = true) ∧
    ∀ now bufferedAt s session payload target,
      (((RelayServer.after cfg inputs).beforeRouting now session).afterRouting cfg now bufferedAt s
        session payload).1.targetSocketId = some target →
      ((((RelayServer.after cfg inputs).beforeRouting now session).afterRouting cfg now bufferedAt s
        session payload).2.armDirectDelivery target).1 = true := by
  have hagrees := agrees_after cfg inputs
  refine ⟨fun s => ?_, fun s hs => ?_, fun _ _ _ _ _ _ => armDirectDelivery_afterRouting⟩
  · rw [← JsMap.has_iff_mem_keys, ← JsMap.has_iff_mem_keys]
    exact Eq.congr_left (hagrees.reserved s)
  · have hconn := hagrees.connected s ((JsMap.has_iff_mem_keys _ _).2 hs)
    simpa [core, isSocketActive, JsMap.has] using hconn

/-- A dapp writes to a wallet whose transport is ready. -/
theorem deliveries_in_step_ready :
    let st := RelayServer.after .unset
      [⟨0, .connection 1 "a" 1⟩, ⟨0, .connection 2 "b" 2⟩,
        ⟨0, .joinChannel 1 ⟨.string "c", .string "dapp", .undefined⟩ true true⟩,
        ⟨0, .resumeJoin 1 true⟩,
        ⟨0, .joinChannel 2 ⟨.string "c", .string "wallet", .undefined⟩ true true⟩,
        ⟨0, .resumeJoin 2 true⟩, ⟨0, .drain 2⟩, ⟨0, .ready 2 false⟩]
    let session := ⟨"a", some "c", false, none⟩
    (((st.beforeRouting 1 session).afterRouting .unset 1 1 1 session
      ⟨"c", .dapp, "hello", none, ⟨1, 0⟩⟩).2.armDirectDelivery 2).1 = true :=
  (deliveries_in_step .unset _).2.2 1 1 1 _ _ 2 (by decide)

/-! ## Sessions -/

/-- Every connected socket has a session. -/
def Known (k : Core V) : Prop := ∀ s, (k.transport s).isSome = true → (k.session s).isSome = true

namespace Known

omit [Unknown V] in
theorem setSession {k : Core V} (h : Known k) (s : SocketId) (session : Session V) :
    Known (k.setSession s session) := by
  intro s' hs'
  dsimp only [Core.setSession]
  rw [Function.update_apply]
  split
  · rfl
  · exact h s' hs'

omit [Unknown V] in
theorem drop {k : Core V} (h : Known k) (now : ℕ) (s : SocketId) : Known (k.drop now s) := by
  intro s' hs'
  obtain ⟨hne, hconn⟩ := Core.connected_drop hs'
  unfold Core.drop
  split
  · exact (congrArg Option.isSome (Function.update_of_ne hne _ _)).trans (h s' hconn)
  · exact h s' hconn

omit [Unknown V] in
theorem relieve {k : Core V} (h : Known k) (now : ℕ) (target : Option SocketId) :
    Known (k.relieve now target) := by
  unfold Core.relieve
  split
  · exact h
  · split
    · exact h
    · exact h.drop now _

end Known

/-- After every turn, who is connected has a session. -/
theorem known_turn (hturn : Turn cfg st input k) (h : Known st.core) : Known k := by
  cases hturn with
  | idle | direct | drained | promoted | released | cleaned => exact h
  | requested s | dismissed s | refusedJoin s | entered s | switched s | completed s | undone s
  | left s | closed s => exact h.setSession s _
  | refused | buffered =>
    refine Known.relieve ?_ _ _
    exact h
  | dropped s => exact h.drop _ s
  | opened s =>
    intro s' hs'
    dsimp only at hs' ⊢
    rw [Function.update_apply] at hs' ⊢
    split
    · rfl
    next hs => exact h s' (by rwa [if_neg hs] at hs')
  | upgraded s _ _ hconn =>
    intro s' hs'
    dsimp only at hs' ⊢
    rw [Function.update_apply] at hs'
    split at hs'
    next hs => exact h s' (hs ▸ by simpa [core] using hconn)
    next => exact h s' hs'

theorem known_after (cfg : Config) (inputs : List (Input V)) :
    Known (RelayServer.after cfg inputs).core :=
  Runs.run_invariant (I := fun st : RelayServer V => Known st.core)
    (fun st input h => known_turn (turn_of_step cfg st input) h) inputs fun _ h => by cases h

end QrlBackend
