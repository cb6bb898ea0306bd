import QrlBackend.RpcService

/-!
# Turns of the RPC calls

What one event does to the service (`steps`). A turn of a call ends it with a reply, contacts an
endpoint for it, or leaves it waiting (`Turn`), and has no effect on the health monitor or on the
other calls.

The loop over the endpoints stops at the statuses 429 and 503, which are those of a refused
admission (`status_admitCall`). Every way an upstream can fail is an error of status 502
(`status_callResult`), so an upstream's own 429 or 503 does not stop it.
-/

set_option autoImplicit false

namespace QrlBackend

/-! ## Failures -/

/-- Why an attempt is not admitted. -/
theorem admitCall_eq_error {cfg : RpcConfig} {slots : Slots} {clientKey : Option String}
    {err : HttpError} (h : (admitCall cfg slots clientKey).1 = .error err) :
    err = ⟨429, clientBusyMessage⟩ ∨ err = ⟨503, "RPC proxy busy"⟩ := by
  unfold admitCall acquireRpcCallSlot at h
  split at h
  next hslot =>
    cases h
    split at hslot
    · cases hslot
      exact .inl rfl
    · cases hslot
  next =>
    cases h
    exact .inr rfl
  next => cases h

/-- A refused admission is a 429 or a 503. -/
theorem status_admitCall {cfg : RpcConfig} {slots : Slots} {clientKey : Option String}
    {err : HttpError} (h : (admitCall cfg slots clientKey).1 = .error err) :
    err.status = 429 ∨ err.status = 503 := by
  rcases admitCall_eq_error h with rfl | rfl
  · exact .inl rfl
  · exact .inr rfl

theorem status_httpError (err : JsError) : err.httpError.status = 502 := by
  unfold JsError.httpError
  split <;> rfl

/-- Whatever an upstream does, its failure is a 502. -/
theorem status_callResult {answer : Fetched} {err : HttpError}
    (h : callResult answer = .error err) : err.status = 502 := by
  unfold callResult at h
  split at h
  next err' =>
    cases h
    exact status_httpError err'
  next =>
    split at h
    · cases h
      rfl
    · split at h
      next => cases h
      next err' =>
        split at h
        next failure _ =>
          cases h
          cases failure <;> rfl
        next =>
          cases h
          exact status_httpError err'

/-- What a call rejects with. -/
inductive Fails : RpcFailure → Prop
  | unknownNetwork : Fails (.http ⟨404, "Unknown network"⟩)
  | clientBusy : Fails (.http ⟨429, clientBusyMessage⟩)
  | unavailable {err : HttpError} (h : err.status = 502 ∨ err.status = 503) : Fails (.http err)
  | unserializable : Fails .unserializable

theorem fails_admitCall {cfg : RpcConfig} {slots : Slots} {clientKey : Option String}
    {err : HttpError} (h : (admitCall cfg slots clientKey).1 = .error err) :
    Fails (.http err) := by
  rcases admitCall_eq_error h with rfl | rfl
  · exact .clientBusy
  · exact .unavailable (.inr rfl)

namespace RpcService

/-! ## Turns -/

/-- What a turn of the call `i` does to the service. -/
inductive Turn (st : RpcService) (i : ℕ) : RpcService → Prop
  | replies (slots : Slots) (cache : JsMap String Json) {result : Except RpcFailure Json}
      (h : ∀ failure, result = .error failure → Fails failure) :
      Turn st i ({ st with slots, cache }.reply i result)
  | contacts (slots : Slots) (call : RpcCall) (url : String) :
      Turn st i { st with
        slots
        calls := st.calls.set i call
        contacted := st.contacted ++ [(i, url)] }
  | awaits (slots : Slots) (call : RpcCall) :
      Turn st i { st with slots, calls := st.calls.set i call }
  | idle : Turn st i st

variable {cfg : RpcConfig} {st st' : RpcService} {i : ℕ}

theorem Turn.monitor (h : Turn st i st') : st'.monitor = st.monitor := by
  cases h <;> rfl

theorem Turn.next (h : Turn st i st') : st'.next = st.next := by
  cases h <;> rfl

/-- A turn takes no reply back. -/
theorem Turn.replies_mono (h : Turn st i st') : st.replies <+: st'.replies := by
  cases h with
  | replies => exact List.prefix_append _ _
  | contacts | awaits | idle => exact List.prefix_rfl

/-- A call that fails does so in one of a few ways. -/
theorem Turn.failure (h : Turn st i st') {e : ℕ × Except RpcFailure Json} {failure : RpcFailure}
    (he : e ∈ st'.replies) (hfailure : e.2 = .error failure) : e ∈ st.replies ∨ Fails failure := by
  cases h with
  | replies slots cache hresult =>
    rcases List.mem_append.1 he with he | he
    · exact .inl he
    · obtain rfl := List.mem_singleton.1 he
      exact .inr (hresult failure hfailure)
  | contacts | awaits | idle => exact .inl he

/-- A reply with an error. -/
theorem Turn.rejects (slots : Slots) {failure : RpcFailure} (h : Fails failure) :
    Turn st i ({ st with slots }.reply i (.error failure)) := by
  refine .replies slots st.cache fun failure' hfailure => ?_
  cases hfailure
  exact h

theorem turn_attempt (cfg : RpcConfig) (st : RpcService) (i : ℕ) (call : RpcCall) :
    Turn st i (st.attempt cfg i call) := by
  unfold attempt
  split
  · exact .idle
  next url rest horder =>
    have hfails := fun err => @fails_admitCall cfg st.slots call.clientKey err
    generalize admitCall cfg st.slots call.clientKey = out at hfails
    obtain ⟨result, slots⟩ := out
    cases result with
    | error err => exact .rejects slots (hfails err rfl)
    | ok slot => exact .contacts slots _ url

theorem turn_settle (st : RpcService) (i : ℕ) (call : RpcCall) (slot : ℕ) (answer : Fetched) :
    Turn st i (st.settle i call slot answer) := by
  unfold settle
  dsimp only
  split
  next json hresult =>
    have hreplies : ∀ cache, Turn st i
        ({ st with slots := st.slots.release slot, cache }.reply i (.ok json)) := fun cache =>
      .replies _ cache fun failure hfailure => by cases hfailure
    split
    · split
      · exact hreplies _
      · exact hreplies _
    · exact hreplies _
  next err hresult =>
    split
    · exact .rejects _ (.unavailable (.inl (status_callResult hresult)))
    · exact .awaits _ _

theorem turn_execute {V : Type} [Unknown V] (cfg : RpcConfig) (now : ℕ) (st : RpcService)
    (text method : String) (params : V) (id : RpcId) (clientKey : Option String) :
    Turn { st with next := st.next + 1 } st.next
      (st.execute cfg now text method params id clientKey) := by
  unfold execute
  dsimp only
  split
  · exact .rejects st.slots .unknownNetwork
  · split
    · exact .rejects st.slots (.unavailable (.inr rfl))
    · split
      · exact .rejects st.slots .unserializable
      · split
        · exact .replies st.slots st.cache fun failure hfailure => by cases hfailure
        · split
          · exact .rejects st.slots (.unavailable (.inr rfl))
          · exact turn_attempt cfg { st with next := st.next + 1 } _ _

/-! ## Events -/

/-- What an event does to the service. -/
inductive Steps {V : Type} (cfg : RpcConfig) (st : RpcService) : RpcEvent V → RpcService → Prop
  | monitor (event : HealthMonitor.Event) :
      Steps cfg st (.monitor event) { st with monitor := st.monitor.step cfg.health event }
  | execute (now : ℕ) (text method : String) (params : V) (id : RpcId)
      (clientKey : Option String) {st' : RpcService}
      (h : Turn { st with next := st.next + 1 } st.next st') :
      Steps cfg st (.execute now text method params id clientKey) st'
  | settle (i : ℕ) (answer : Fetched) {st' : RpcService} (h : Turn st i st') :
      Steps cfg st (.settle i answer) st'
  | retry (i : ℕ) {st' : RpcService} (h : Turn st i st') : Steps cfg st (.retry i) st'
  | expire (key : String) :
      Steps cfg st (.expire key) { st with cache := st.cache.delete key }

theorem steps {V : Type} [Unknown V] (cfg : RpcConfig) (st : RpcService) (event : RpcEvent V) :
    Steps cfg st event (st.step cfg event) := by
  cases event with
  | monitor event => exact .monitor event
  | execute now text method params id clientKey =>
    exact .execute _ _ _ _ _ _ (turn_execute cfg now st text method params id clientKey)
  | settle i answer =>
    refine .settle i answer ?_
    unfold step
    dsimp only
    split
    · exact .idle
    · split
      · exact turn_settle _ _ _ _ _
      · exact .idle
  | retry i =>
    refine .retry i ?_
    unfold step
    dsimp only
    split
    · exact .idle
    · split
      · exact .idle
      · exact turn_attempt _ _ _ _
  | expire key => exact .expire key

end RpcService

end QrlBackend
