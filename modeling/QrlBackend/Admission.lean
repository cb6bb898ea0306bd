import Mathlib.Data.List.ReduceOption
import QrlBackend.RequestRules
import QrlBackend.RpcService

/-!
# Exact admission slots

The counters of the RPC service and of the IPFS proxy are those of the calls under way, in
every state a run reaches. A slot is taken when a call starts and released on each of the
ways it ends, and nothing else holds one (`Slots.Holds`). So a call that has ended counts
for nothing (`admission_slots_exact`).
-/

set_option autoImplicit false

namespace QrlBackend

/-! ## Slots with holders -/

namespace Slots

/-- The counters are those of the slots that these clients hold, within the limits. -/
structure Accounts (limits : SlotLimits) (st : Slots) (clientKeys : List (Option String)) :
    Prop where
  active : st.active = clientKeys.length
  reservedBytes : st.reservedBytes = clientKeys.length * limits.reservation
  activeByClient : st.activeByClient.Tallies clientKeys.reduceOption
  concurrent : st.active ≤ limits.maxConcurrent
  bytes : st.reservedBytes ≤ limits.maxInflightBytes

/-- The outstanding slots are the ones of the list, each held by its client. -/
structure Holds (limits : SlotLimits) (st : Slots) (held : List (ℕ × Option String)) : Prop where
  exact : Exact limits st
  outstanding : (outstanding st.closures).Perm (held.map Prod.fst)
  clientKey : ∀ slot ∈ held, (st.closures.get slot.1).clientKey = slot.2

theorem holds_empty (limits : SlotLimits) : Holds limits empty [] where
  exact := exact_empty limits
  outstanding := .refl _
  clientKey := nofun

variable {limits : SlotLimits} {st : Slots} {held held' : List (ℕ × Option String)}
  {clientKey : Option String} {slot : ℕ}

theorem Holds.perm (h : Holds limits st held) (hperm : held.Perm held') :
    Holds limits st held' where
  exact := h.exact
  outstanding := h.outstanding.trans (hperm.map Prod.fst)
  clientKey slot hslot := h.clientKey slot (hperm.mem_iff.2 hslot)

/-- Slots that are held have been given out. -/
theorem Holds.lt_next (h : Holds limits st held) {slot : ℕ × Option String} (hslot : slot ∈ held) :
    slot.1 < st.closures.next :=
  (mem_outstanding.1 (h.outstanding.mem_iff.2 (List.mem_map_of_mem hslot))).1

/-- A slot taken is held from then on. -/
theorem Holds.acquire (h : Holds limits st held)
    (htaken : (st.acquire limits clientKey).1 = some slot) :
    Holds limits (st.acquire limits clientKey).2 ((slot, clientKey) :: held) := by
  obtain ⟨hslot, hclosures⟩ := closures_acquire htaken
  refine ⟨h.exact.acquire clientKey, ?_, ?_⟩
  · rw [hclosures, outstanding_alloc rfl, List.map_cons, hslot]
    exact (List.perm_append_singleton _ _).trans (h.outstanding.cons _)
  · rw [hclosures, List.forall_mem_cons]
    refine ⟨by rw [hslot, ObjectHeap.get_alloc_next], fun slot' hslot' => ?_⟩
    rw [ObjectHeap.get_alloc_of_ne _ _ (h.lt_next hslot').ne]
    exact h.clientKey slot' hslot'

/-- A slot released is not held any longer. -/
theorem Holds.release (h : Holds limits st ((slot, clientKey) :: held)) :
    Holds limits (st.release slot) held := by
  have hmem : slot ∈ Slots.outstanding st.closures :=
    h.outstanding.mem_iff.2 (List.mem_cons_self ..)
  obtain ⟨hlt, hheld⟩ := mem_outstanding.1 hmem
  have hclosures : (st.release slot).closures = releasedBy st.closures slot := by
    unfold Slots.release
    dsimp only
    rw [hheld]
    rfl
  refine ⟨h.exact.release hlt, ?_, fun slot' hslot' => ?_⟩
  · rw [hclosures]
    exact (outstanding_perm hmem).symm.trans h.outstanding |>.cons_inv
  · rw [hclosures, clientKey_releasedBy]
    exact h.clientKey slot' (List.mem_cons_of_mem _ hslot')

/-- The clients of the slots are those of their holders. -/
theorem Holds.clients (h : Holds limits st held) :
    (clients st.closures).Perm (held.map Prod.snd).reduceOption := by
  have hkeys : held.filterMap (fun slot => (st.closures.get slot.1).clientKey) =
      held.filterMap Prod.snd :=
    List.filterMap_congr h.clientKey
  have hperm := h.outstanding.filterMap fun slot => (st.closures.get slot).clientKey
  rw [List.filterMap_map] at hperm
  refine hperm.trans (.of_eq (hkeys.trans ?_))
  rw [List.reduceOption, List.filterMap_map]
  rfl

/-- The counters are those of the holders. -/
theorem Holds.accounts (h : Holds limits st held) : Accounts limits st (held.map Prod.snd) where
  active := by rw [h.exact.active, h.outstanding.length_eq, List.length_map, List.length_map]
  reservedBytes := by
    rw [h.exact.reservedBytes, h.outstanding.length_eq, List.length_map, List.length_map]
  activeByClient := h.exact.activeByClient.perm h.clients
  concurrent := h.exact.concurrent
  bytes := h.exact.bytes

end Slots

/-! ## Slots of the RPC service -/

/-- The counters are exact, and no client holds more than its share. -/
structure RpcExact (cfg : RpcConfig) (st : Slots) : Prop where
  exact : st.Exact cfg.slotLimits
  perClient : ∀ key, (Slots.clients st.closures).count key ≤ cfg.maxConcurrentPerClient

section RpcSlots

variable {cfg : RpcConfig} {st : Slots} {clientKey : Option String} {slot : ℕ}

/-- A slot is taken by a client below its share, or nothing changes. -/
theorem acquireRpcCallSlot_cases (cfg : RpcConfig) (st : Slots) (clientKey : Option String) :
    ((acquireRpcCallSlot cfg st clientKey).2 = st ∧
      ∀ slot, (acquireRpcCallSlot cfg st clientKey).1 ≠ .ok (some slot)) ∨
    ∃ slot, (∀ key, clientKey = some key →
        (st.activeByClient.get? key).getD 0 < cfg.maxConcurrentPerClient) ∧
      (st.acquire cfg.slotLimits clientKey).1 = some slot ∧
      acquireRpcCallSlot cfg st clientKey =
        (.ok (some slot), (st.acquire cfg.slotLimits clientKey).2) := by
  unfold acquireRpcCallSlot
  split
  next => exact .inl ⟨rfl, nofun⟩
  next hshare =>
    rcases htaken : (st.acquire cfg.slotLimits clientKey).1 with _ | slot
    · refine .inl ⟨Slots.acquire_refused htaken, fun slot h => ?_⟩
      cases (Except.ok.inj h).symm.trans htaken
    · refine .inr ⟨slot, fun key hkey => ?_, rfl, ?_⟩
      · rw [hkey, Option.any_some, decide_eq_true_eq, not_le] at hshare
        exact hshare
      · dsimp only
        rw [htaken]

/-- A slot more is counted. -/
theorem RpcExact.acquireRpcCallSlot (h : RpcExact cfg st) (clientKey : Option String) :
    RpcExact cfg (acquireRpcCallSlot cfg st clientKey).2 := by
  obtain ⟨hsame, -⟩ | ⟨slot, hshare, htaken, heq⟩ := acquireRpcCallSlot_cases cfg st clientKey
  · rwa [hsame]
  · rw [heq]
    refine ⟨h.exact.acquire clientKey, fun key => ?_⟩
    rw [(Slots.closures_acquire htaken).2, Slots.clients_alloc rfl, List.count_append]
    rcases clientKey with _ | key'
    · simpa using h.perClient key
    · have hlt := hshare key' rfl
      rw [h.exact.activeByClient.getD] at hlt
      have hle := h.perClient key
      by_cases hkey : key = key'
      · subst hkey
        simpa using hlt
      · have hzero : [key'].count key = 0 := List.count_eq_zero.2 (by simpa using hkey)
        simpa [hzero] using hle

/-- A slot that is given back is not. -/
theorem RpcExact.release (h : RpcExact cfg st) (hlt : slot < st.closures.next) :
    RpcExact cfg (st.release slot) := by
  refine ⟨h.exact.release hlt, fun key => ?_⟩
  unfold Slots.release
  dsimp only
  split
  · exact h.perClient key
  next hfirst =>
    rw [Bool.not_eq_true] at hfirst
    have hperm := Slots.clients_perm (Slots.mem_outstanding.2 ⟨hlt, hfirst⟩)
    refine le_trans ?_ (h.perClient key)
    rw [hperm.count_eq, List.count_append]
    exact Nat.le_add_left _ _

end RpcSlots

/-- What concurrent RPC calls do with slots. -/
inductive SlotEvent where
  | acquire (clientKey : Option String)
  /-- A callback is called, again or for the first time. -/
  | release (slot : ℕ)

/-- Only a callback that was handed out can be called. -/
def slotStep (cfg : RpcConfig) (st : Slots) : SlotEvent → Slots
  | .acquire clientKey => (acquireRpcCallSlot cfg st clientKey).2
  | .release slot => if slot < st.closures.next then st.release slot else st

theorem rpcExact_empty (cfg : RpcConfig) : RpcExact cfg .empty :=
  ⟨Slots.exact_empty _, fun _ => Nat.zero_le _⟩

/-- Whatever is done with slots, the counts are exact. -/
theorem RpcExact.slotStep {cfg : RpcConfig} {st : Slots} (h : RpcExact cfg st) (e : SlotEvent) :
    RpcExact cfg (slotStep cfg st e) := by
  rcases e with clientKey | slot
  · exact h.acquireRpcCallSlot clientKey
  · unfold QrlBackend.slotStep
    dsimp only
    split
    next hlt => exact h.release hlt
    next => exact h

/-! ## Calls of the RPC service -/

/-- The slot of a call whose attempt is under way, and its client. -/
def RpcCall.held? (call : RpcCall) : Option (ℕ × Option String) :=
  match call.stage with
  | .attempting slot => some (slot, call.clientKey)
  | .retrying => none

namespace RpcService

/-- The calls that have an attempt under way. -/
def inFlight (st : RpcService) : List RpcCall :=
  st.calls.values.filter fun call => call.held?.isSome

/-- The slots that calls hold. -/
def held (calls : JsMap ℕ RpcCall) : List (ℕ × Option String) :=
  calls.values.filterMap RpcCall.held?

/-- A call holds its slot, and the others hold theirs. -/
theorem held_set (calls : JsMap ℕ RpcCall) (i : ℕ) (call : RpcCall) :
    (held (calls.set i call)).Perm (call.held?.toList ++ held (calls.delete i)) := by
  refine ((calls.values_perm_set i call).filterMap _).trans (.of_eq ?_)
  rw [List.filterMap_cons]
  rcases call.held? with _ | slot <;> rfl

theorem held_delete {calls : JsMap ℕ RpcCall} {i : ℕ} {call : RpcCall}
    (h : calls.get? i = some call) :
    (held calls).Perm (call.held?.toList ++ held (calls.delete i)) := by
  refine ((JsMap.values_perm_delete h).filterMap _).trans (.of_eq ?_)
  rw [List.filterMap_cons]
  rcases call.held? with _ | slot <;> rfl

/-- The slots held are counted under the clients of the calls in flight. -/
theorem keys_held (st : RpcService) :
    (held st.calls).map Prod.snd = st.inFlight.map RpcCall.clientKey := by
  unfold held inFlight
  induction st.calls.values with
  | nil => rfl
  | cons call calls ih =>
    rw [List.filterMap_cons, List.filter_cons, RpcCall.held?]
    rcases call.stage with slot | _
    · simpa using ih
    · simpa using ih

/-- Every slot is held by an attempt under way. -/
structure Held (cfg : RpcConfig) (st : RpcService) : Prop where
  holds : st.slots.Holds cfg.slotLimits (held st.calls)
  exact : RpcExact cfg st.slots
  fresh : ∀ i, st.next ≤ i → st.calls.get? i = none

/-- The call has no slot, whatever its entry says. -/
structure Between (cfg : RpcConfig) (st : RpcService) (i : ℕ) : Prop where
  holds : st.slots.Holds cfg.slotLimits (held (st.calls.delete i))
  exact : RpcExact cfg st.slots
  fresh : ∀ i, st.next ≤ i → st.calls.get? i = none
  lt_next : i < st.next

variable {cfg : RpcConfig} {st : RpcService} {i : ℕ} {call : RpcCall}

theorem Between.set_fresh (h : Between cfg st i) (call : RpcCall) (i' : ℕ) (hi' : st.next ≤ i') :
    (st.calls.set i call).get? i' = none := by
  rw [JsMap.get?_set_of_ne _ _ (by have := h.lt_next; omega)]
  exact h.fresh i' hi'

/-- A call without a slot can be answered. -/
theorem Between.reply (h : Between cfg st i) (result : Except RpcFailure Json) :
    Held cfg (st.reply i result) where
  holds := h.holds
  exact := h.exact
  fresh i' hi' := by
    have hnone := h.fresh i' hi'
    unfold RpcService.reply
    dsimp only
    rw [JsMap.get?_delete, hnone, ite_self]

/-- A call waits for its next turn without a slot. -/
theorem Between.retrying (h : Between cfg st i) (hstage : call.stage = .retrying) :
    Held cfg { st with calls := st.calls.set i call } where
  holds := by
    refine h.holds.perm ((held_set st.calls i call).trans (.of_eq ?_)).symm
    rw [RpcCall.held?, hstage]
    rfl
  exact := h.exact
  fresh := h.set_fresh call

/-- An attempt holds the slot it was admitted with. -/
theorem Between.attempt (h : Between cfg st i) (call : RpcCall) (hstage : call.stage = .retrying)
    (hentry : st.calls.get? i = some call ∨ st.calls.get? i = none) :
    Held cfg (st.attempt cfg i call) := by
  unfold RpcService.attempt
  split
  next horder =>
    refine ⟨h.holds.perm ?_, h.exact, h.fresh⟩
    rcases hentry with hentry | hentry
    · refine ((held_delete hentry).trans (.of_eq ?_)).symm
      rw [RpcCall.held?, hstage]
      rfl
    · exact ((JsMap.values_delete_of_none hentry).filterMap _).symm
  next url order horder =>
    unfold admitCall
    have hexact := h.exact.acquireRpcCallSlot call.clientKey
    obtain ⟨hsame, hrefused⟩ | ⟨slot, -, htaken, heq⟩ :=
      acquireRpcCallSlot_cases cfg st.slots call.clientKey
    · have hbetween : ∀ err, Held cfg (RpcService.reply
          { st with slots := (acquireRpcCallSlot cfg st.slots call.clientKey).2 } i err) := by
        intro err
        rw [hsame]
        exact h.reply err
      rcases hresult : acquireRpcCallSlot cfg st.slots call.clientKey with ⟨_ | _ | slot, slots⟩
      · rw [hresult] at hbetween
        exact hbetween _
      · rw [hresult] at hbetween
        exact hbetween _
      · exact absurd (by rw [hresult]) (hrefused slot)
    · rw [heq] at hexact ⊢
      dsimp only
      refine ⟨(h.holds.acquire htaken).perm ?_, hexact, h.set_fresh _⟩
      exact List.Perm.symm (held_set st.calls i { call with order, stage := .attempting slot })

/-- A call that starts has no entry yet. -/
theorem Held.start (h : Held cfg st) : Between cfg { st with next := st.next + 1 } st.next where
  holds := h.holds.perm ((JsMap.values_delete_of_none (h.fresh _ le_rfl)).filterMap _)
  exact := h.exact
  fresh i hi := h.fresh i (by dsimp only at hi; omega)
  lt_next := Nat.lt_succ_self _

/-- A new call waits for an endpoint with a slot, or is answered. -/
theorem Held.execute {V : Type} [Unknown V] (h : Held cfg st) (now : ℕ) (network method : String)
    (params : V) (id : RpcId) (clientKey : Option String) :
    Held cfg (st.execute cfg now network method params id clientKey) := by
  have hstart := h.start
  unfold RpcService.execute
  dsimp only
  split
  · exact hstart.reply _
  · split
    · exact hstart.reply _
    · split
      · exact hstart.reply _
      · split
        · exact hstart.reply _
        · split
          · exact hstart.reply _
          · exact hstart.attempt _ rfl (.inr (h.fresh _ le_rfl))

/-- An attempt that ends gives its slot back. -/
theorem Held.settle (h : Held cfg st) {slot : ℕ} (hcall : st.calls.get? i = some call)
    (hstage : call.stage = .attempting slot) (answer : Fetched) :
    Held cfg (st.settle i call slot answer) := by
  have hheld : st.slots.Holds cfg.slotLimits
      ((slot, call.clientKey) :: held (st.calls.delete i)) := by
    refine h.holds.perm ((held_delete hcall).trans (.of_eq ?_))
    rw [RpcCall.held?, hstage]
    rfl
  have hlt : i < st.next := by
    by_contra hle
    rw [h.fresh i (not_lt.1 hle)] at hcall
    cases hcall
  have hbetween : ∀ cache, Between cfg { st with slots := st.slots.release slot, cache } i :=
    fun _ => ⟨hheld.release, h.exact.release (hheld.lt_next (List.mem_cons_self ..)), h.fresh, hlt⟩
  unfold RpcService.settle
  dsimp only
  split
  · split
    · split
      · exact (hbetween _).reply _
      · exact (hbetween _).reply _
    · exact (hbetween _).reply _
  · split
    · exact (hbetween _).reply _
    · exact (hbetween _).retrying rfl

theorem Held.step {V : Type} [Unknown V] (h : Held cfg st) (e : RpcEvent V) :
    Held cfg (st.step cfg e) := by
  unfold RpcService.step
  split
  · exact ⟨h.holds, h.exact, h.fresh⟩
  · exact h.execute ..
  · split
    · exact h
    next call hcall =>
      split
      next slot hstage => exact h.settle hcall hstage _
      next => exact h
  · split
    · exact h
    next call hcall =>
      split
      next => exact h
      next hstage =>
        have hlt : ∀ i, st.calls.get? i = some call → i < st.next := by
          intro i hi
          by_contra hle
          rw [h.fresh i (not_lt.1 hle)] at hi
          cases hi
        refine Between.attempt ⟨h.holds.perm ((held_delete hcall).trans (.of_eq ?_)), h.exact,
          h.fresh, hlt _ hcall⟩ call hstage (.inl hcall)
        rw [RpcCall.held?, hstage]
        rfl
  · exact ⟨h.holds, h.exact, h.fresh⟩

theorem held_init (now : ℕ) (cfg : RpcConfig)
    (expectedIdentities : NetworkName → Option RpcIdentity) :
    Held cfg (init now cfg expectedIdentities) where
  holds := Slots.holds_empty _
  exact := rpcExact_empty cfg
  fresh _ _ := rfl

end RpcService

/-! ## Requests of the IPFS proxy -/

namespace IpfsProxy

/-- The slots of requests. The proxy does not tell clients apart. -/
def held (requests : JsMap ℕ IpfsRequest) : List (ℕ × Option String) :=
  requests.values.map fun req => (req.slot, none)

/-- Every slot is held by a request under way. -/
structure Held (cfg : IpfsConfig) (st : IpfsProxy) : Prop where
  holds : st.slots.Holds cfg.slotLimits (held st.requests)
  fresh : ∀ r, st.next ≤ r → st.requests.get? r = none

/-- The request holds the slot, whatever its entry says. -/
structure Handling (cfg : IpfsConfig) (st : IpfsProxy) (r slot : ℕ) : Prop where
  holds : st.slots.Holds cfg.slotLimits ((slot, none) :: held (st.requests.delete r))
  fresh : ∀ r, st.next ≤ r → st.requests.get? r = none
  lt_next : r < st.next

variable {cfg : IpfsConfig} {st : IpfsProxy} {r slot : ℕ} {req : IpfsRequest}

/-- The slot of a request, while the handler is at it. -/
theorem Held.handling (h : Held cfg st) (hreq : st.requests.get? r = some req) :
    Handling cfg st r req.slot where
  holds := h.holds.perm ((JsMap.values_perm_delete hreq).map _)
  fresh := h.fresh
  lt_next := by
    by_contra hle
    rw [h.fresh r (not_lt.1 hle)] at hreq
    cases hreq

/-- A handler that waits keeps its slot. -/
theorem Handling.await (h : Handling cfg st r slot) (hslot : req.slot = slot) :
    Held cfg (st.await r req) where
  holds := by
    subst hslot
    exact h.holds.perm (List.Perm.symm ((st.requests.values_perm_set r req).map _))
  fresh r' hr' := by
    unfold IpfsProxy.await
    rw [JsMap.get?_set_of_ne _ _ (by have := h.lt_next; dsimp only [IpfsProxy.await] at hr'; omega)]
    exact h.fresh r' hr'

/-- Whatever the client has got, the slot is released. -/
theorem Handling.finish (h : Handling cfg st r slot) (hslot : req.slot = slot) :
    Held cfg (st.finish r req) where
  holds := by
    subst hslot
    exact h.holds.release
  fresh r' hr' := by
    have hnone := h.fresh r' hr'
    unfold IpfsProxy.finish
    dsimp only
    rw [JsMap.get?_delete, hnone, ite_self]

theorem slot_answerFailure (gateways : List GatewayState) (now : Clock) (req : IpfsRequest) :
    (answerFailure gateways now req).slot = req.slot := by
  unfold answerFailure
  split <;> rfl

/-- The loop goes on with the same slot. -/
theorem slot_nextAttempt (now : Clock) (req : IpfsRequest) (later : List (GatewayState × ℕ)) :
    match nextAttempt now req later with
    | .attempt req' _ _ => req'.slot = req.slot
    | .over req' => req'.slot = req.slot := by
  induction later with
  | nil => rfl
  | cons entry later ih =>
    unfold nextAttempt
    by_cases hgone : req.clientDisconnected
    · rw [if_pos hgone]
    · rw [if_neg hgone]
      dsimp only
      by_cases hover : (req.aborted || decide (req.deadline - now.performance ≤ 0)) = true
      · rw [if_pos hover]
      · rw [if_neg hover]
        by_cases hcool : now.date < entry.1.cooldownUntil
        · rw [if_pos hcool]
          exact ih
        · rw [if_neg hcool]

/-- The loop keeps the slot, or gives it back with the answer. -/
theorem Handling.advance (h : Handling cfg st r slot) (hslot : req.slot = slot) (now : Clock)
    (index : ℕ) : Held cfg (st.advance cfg r now req index) := by
  have hkept := slot_nextAttempt now req (st.gateways.zipIdx.drop index)
  unfold IpfsProxy.advance
  split
  next req' gateway remaining hturn =>
    rw [hturn] at hkept
    have hawait := h.await (hkept.trans hslot)
    exact ⟨hawait.holds, hawait.fresh⟩
  next req' hturn =>
    rw [hturn] at hkept
    exact h.finish ((slot_answerFailure ..).trans (hkept.trans hslot))

theorem Handling.attemptThrew (h : Handling cfg st r slot) (hslot : req.slot = slot) (now : Clock)
    (readingBody : Bool) (errorName : String) :
    Held cfg (st.attemptThrew cfg r now req readingBody errorName) := by
  unfold IpfsProxy.attemptThrew
  dsimp only
  split
  · exact h.finish hslot
  · split
    · exact h.finish hslot
    · exact h.advance (by exact hslot) now _

/-- So does a refusal of the gateway. -/
theorem Handling.upstreamError (h : Handling cfg st r req.slot)
    (parseDate : String → Option ℤ) (now : Clock) (gateway : GatewayState)
    (response : GatewayResponse) :
    Held cfg (st.upstreamError parseDate cfg r now req gateway response) := by
  have hcooled : ∀ gateways, Handling cfg { st with gateways } r req.slot := fun _ =>
    ⟨h.holds, h.fresh, h.lt_next⟩
  unfold IpfsProxy.upstreamError
  dsimp only
  split
  · exact (hcooled _).advance (by rfl) now _
  · exact h.finish (slot_answerFailure ..)

theorem Handling.streamGatewayResponse (h : Handling cfg st r req.slot)
    (response : GatewayResponse) : Held cfg (st.streamGatewayResponse cfg r req response) := by
  unfold IpfsProxy.streamGatewayResponse
  split
  · exact h.finish rfl
  · split
    · exact h.finish rfl
    · exact h.await rfl

/-- And so does whatever a gateway answers. -/
theorem Held.fetched (h : Held cfg st) (hreq : st.requests.get? r = some req)
    (parseDate : String → Option ℤ) (now : Clock) (answer : Except String GatewayResponse) :
    Held cfg (st.fetched parseDate cfg r now req answer) := by
  have hhandling := h.handling hreq
  unfold IpfsProxy.fetched
  rcases answer with errorName | response
  · exact hhandling.attemptThrew rfl now false errorName
  · dsimp only
    split
    · exact hhandling.attemptThrew rfl now false _
    · split
      · exact hhandling.streamGatewayResponse response
      · split
        · exact hhandling.upstreamError parseDate now _ response
        · exact h

theorem Handling.read (h : Handling cfg st r req.slot) (now : Clock) (stream : StreamState)
    (result : Except String Chunk) : Held cfg (st.read cfg r now req stream result) := by
  unfold IpfsProxy.read
  rcases result with errorName | chunk
  · exact h.attemptThrew rfl now true errorName
  · dsimp only
    split
    · exact h.attemptThrew rfl now true _
    · split
      · exact h.finish rfl
      · split
        · exact h.finish rfl
        · split
          · exact h.await rfl
          · split
            · exact h.attemptThrew (by rfl) now true _
            · exact h.await rfl
      · exact h.finish rfl

theorem Handling.written (h : Handling cfg st r req.slot) (now : Clock) (stream : StreamState)
    (result : Except String Unit) : Held cfg (st.written cfg r now req stream result) := by
  unfold IpfsProxy.written
  split
  · exact h.attemptThrew rfl now true _
  · split
    · exact h.attemptThrew rfl now true _
    · exact h.await rfl

/-- A request that is not refused has a slot. -/
theorem Held.request (h : Held cfg st) (opened : ℚ) (now : Clock) (cid rest : String) :
    Held cfg (st.request cfg opened now cid rest) := by
  have hfresh : ∀ r, st.next + 1 ≤ r → st.requests.get? r = none := fun r hr =>
    h.fresh r (Nat.le_of_succ_le hr)
  unfold IpfsProxy.request
  dsimp only
  split
  · exact ⟨h.holds, hfresh⟩
  · split
    · exact ⟨h.holds, hfresh⟩
    · split
      next slots hacquire =>
        have hsame := Slots.acquire_refused (congrArg Prod.fst hacquire)
        rw [hacquire] at hsame
        dsimp only at hsame
        rw [hsame]
        exact ⟨h.holds, hfresh⟩
      next slot slots hacquire =>
        have hheld := h.holds.acquire (congrArg Prod.fst hacquire)
        rw [hacquire] at hheld
        have hsame := JsMap.values_delete_of_none (h.fresh _ le_rfl)
        have hhandling : Handling cfg { st with slots, next := st.next + 1 } st.next slot :=
          ⟨hheld.perm ((hsame.map _).cons _), hfresh, Nat.lt_succ_self _⟩
        exact hhandling.advance (by rfl) now 0

theorem Held.step (h : Held cfg st) (parseDate : String → Option ℤ) (e : IpfsEvent) :
    Held cfg (st.step parseDate cfg e) := by
  cases habout : e.about? with
  | none =>
    cases e with
    | request opened now cid splat => exact h.request opened now cid _
    | fetched | read | written | attemptTimeout | deadline | disconnect => cases habout
  | some r =>
    cases hreq : st.requests.get? r with
    | none => rwa [step_of_none parseDate cfg habout hreq]
    | some req =>
      have hhandling := h.handling hreq
      have hreacts := reacts parseDate cfg habout hreq
      generalize st.step parseDate cfg e = st' at hreacts ⊢
      cases hreacts with
      | fetched now answer hstage => exact h.fetched hreq parseDate now answer
      | read now result stream hstage => exact hhandling.read now stream result
      | written now result stream hstage => exact hhandling.written now stream result
      | attemptTimeout hstarted => exact hhandling.await rfl
      | deadline => exact hhandling.await rfl
      | disconnect => exact hhandling.await rfl
      | ignored e hfetched hread => exact h

theorem held_init (cfg : IpfsConfig) : Held cfg (init cfg) where
  holds := Slots.holds_empty _
  fresh _ _ := rfl

end IpfsProxy

/-! ## Both services -/

/-- The counters are the same. -/
structure Slots.SameCounters (st st' : Slots) : Prop where
  active : st.active = st'.active
  reservedBytes : st.reservedBytes = st'.reservedBytes
  activeByClient : ∀ key, st.activeByClient.get? key = st'.activeByClient.get? key

/-- A slot taken and released leaves the counters as they were. -/
theorem Slots.Exact.sameCounters {limits : SlotLimits} {st : Slots} (h : st.Exact limits)
    {clientKey : Option String} {slot : ℕ} (htaken : (st.acquire limits clientKey).1 = some slot) :
    SameCounters st ((st.acquire limits clientKey).2.release slot) := by
  let held := (outstanding st.closures).map fun slot => (slot, (st.closures.get slot).clientKey)
  have hheld : st.Holds limits held := by
    refine ⟨h, .of_eq ?_, fun entry hentry => ?_⟩
    · rw [List.map_map]
      exact (List.map_id _).symm
    · obtain ⟨slot, -, rfl⟩ := List.mem_map.1 hentry
      rfl
  have hbefore := hheld.accounts
  have hafter := (hheld.acquire htaken).release.accounts
  exact {
    active := hbefore.active.trans hafter.active.symm
    reservedBytes := hbefore.reservedBytes.trans hafter.reservedBytes.symm
    activeByClient := fun key =>
      (hbefore.activeByClient key).trans (hafter.activeByClient key).symm }

/-- A call that was admitted has taken a slot. -/
theorem acquire_of_admitCall {cfg : RpcConfig} {st : Slots} {clientKey : Option String} {slot : ℕ}
    (h : (admitCall cfg st clientKey).1 = .ok slot) :
    (st.acquire cfg.slotLimits clientKey).1 = some slot ∧
      (admitCall cfg st clientKey).2 = (st.acquire cfg.slotLimits clientKey).2 := by
  unfold admitCall at h ⊢
  obtain ⟨-, hrefused⟩ | ⟨slot', -, htaken, heq⟩ := acquireRpcCallSlot_cases cfg st clientKey
  · rcases hresult : acquireRpcCallSlot cfg st clientKey with ⟨_ | _ | slot', slots⟩
    · rw [hresult] at h
      cases h
    · rw [hresult] at h
      cases h
    · exact absurd (by rw [hresult]) (hrefused slot')
  · rw [heq] at h ⊢
    cases h
    exact ⟨htaken, rfl⟩

/-- However slots are taken and released, the counters of the RPC service are those of the
slots outstanding, and a refused acquisition changes nothing. In every state of the RPC
service they are those of the attempts under way, and an attempt that nothing interrupts
leaves them as they were. In every state of the IPFS proxy they are those of the requests
under way. -/
theorem admission_slots_exact :
    (∀ (cfg : RpcConfig) (es : List SlotEvent) (clientKey : Option String),
      RpcExact cfg (Runs.run (slotStep cfg) .empty es) ∧
      let st := Runs.run (slotStep cfg) .empty es
      (∀ slot, (acquireRpcCallSlot cfg st clientKey).1 ≠ .ok (some slot)) →
        (acquireRpcCallSlot cfg st clientKey).2 = st) ∧
    (∀ {V : Type} [Unknown V] (cfg : RpcConfig) (now : ℕ)
        (expectedIdentities : NetworkName → Option RpcIdentity) (es : List (RpcEvent V)),
      let st := Runs.run (RpcService.step cfg) (.init now cfg expectedIdentities) es
      RpcExact cfg st.slots ∧
      st.slots.Accounts cfg.slotLimits (st.inFlight.map RpcCall.clientKey) ∧
      ∀ clientKey slot, (admitCall cfg st.slots clientKey).1 = .ok slot →
        st.slots.SameCounters ((admitCall cfg st.slots clientKey).2.release slot)) ∧
    ∀ (parseDate : String → Option ℤ) (cfg : IpfsConfig) (es : List IpfsEvent),
      let st := Runs.run (IpfsProxy.step parseDate cfg) (.init cfg) es
      st.slots.Exact cfg.slotLimits ∧
      st.slots.active = st.requests.size ∧
      st.slots.reservedBytes = st.requests.size * cfg.maxSizeBytes ∧
      ((st.slots.acquire cfg.slotLimits none).1 = none →
        (st.slots.acquire cfg.slotLimits none).2 = st.slots) := by
  refine ⟨fun cfg es clientKey => ?_, fun {V} _ cfg now identities es => ?_,
    fun parseDate cfg es => ?_⟩
  · refine ⟨Runs.run_invariant (fun _ e h => h.slotStep e) es (rpcExact_empty cfg),
      fun hrefused => ?_⟩
    obtain ⟨hsame, -⟩ | ⟨slot, -, -, heq⟩ := acquireRpcCallSlot_cases cfg
      (Runs.run (slotStep cfg) .empty es) clientKey
    · exact hsame
    · exact absurd (by rw [heq]) (hrefused slot)
  · have hheld : RpcService.Held cfg
        (Runs.run (RpcService.step cfg) (.init now cfg identities) es) :=
      Runs.run_invariant (fun _ e h => h.step e) es (RpcService.held_init now cfg identities)
    refine ⟨hheld.exact, ?_, fun clientKey slot hresult => ?_⟩
    · rw [← RpcService.keys_held]
      exact hheld.holds.accounts
    · obtain ⟨htaken, hslots⟩ := acquire_of_admitCall hresult
      rw [hslots]
      exact hheld.exact.exact.sameCounters htaken
  · have hheld : IpfsProxy.Held cfg (Runs.run (IpfsProxy.step parseDate cfg) (.init cfg) es) :=
      Runs.run_invariant (fun _ e h => h.step parseDate e) es (IpfsProxy.held_init cfg)
    have hcounters := hheld.holds.accounts
    refine ⟨hheld.holds.exact, ?_, ?_, Slots.acquire_refused⟩
    · rw [hcounters.active, List.length_map, IpfsProxy.held, List.length_map]
      simp [JsMap.values, JsMap.size]
    · rw [hcounters.reservedBytes, List.length_map, IpfsProxy.held, List.length_map]
      simp [JsMap.values, JsMap.size, IpfsConfig.slotLimits]

end QrlBackend
