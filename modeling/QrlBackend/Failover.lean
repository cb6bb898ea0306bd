import QrlBackend.RpcTurns

/-!
# Failover of an RPC call

A call of `executeRPC` that is not served from the cache tries the first two endpoints that
are ready, or the configured primary for a primary-only method (`Request.Attempts`), one after
the other (`Trying`) : it goes on to the next one exactly when an attempt failed upstream, ends
where admission refuses an attempt, and comes to the first body or the last error
(`Disciplined`). This holds whatever other calls, polls and expiries come in between
(`failover_discipline`).

A configuration may list the primary more than once, and a primary-only method then tries it
as often (`primary_thrice`).
-/

set_option autoImplicit false

namespace QrlBackend

namespace RpcService

/-! ## What a call does -/

/-- What a turn of a call does to an upstream, or learns from it. -/
inductive Attempt where
  | refused (err : HttpError)
  | contacted (url : String)
  | answered (answer : Fetched)

/-- The endpoint an attempt contacts. -/
def Attempt.url? : Attempt → Option String
  | .contacted url => some url
  | .refused _ | .answered _ => none

/-- What a call of `executeRPC` finds when it starts. -/
structure Request where
  network : NetworkName
  method : String
  ready : List String
  params : Option String
  /-- The result the cache has for it. -/
  cached : Option Json

namespace Request

/-- The endpoints the call is to try, in order. -/
inductive Attempts (cfg : RpcConfig) (r : Request) : List String → Prop
  | firstTwo (h : isPrimaryOnlyMethod r.method = false) : Attempts cfg r (r.ready.take 2)
  /-- The primary is the first endpoint of the configuration. It is tried once for each time it
  is listed, if it is ready. -/
  | primary {primary : String} (h : isPrimaryOnlyMethod r.method = true)
      (hprimary : (cfg.endpoints r.network).head? = some primary) :
      Attempts cfg r (List.replicate (r.ready.count primary) primary)
  | noEndpoints (h : isPrimaryOnlyMethod r.method = true) (hnone : cfg.endpoints r.network = []) :
      Attempts cfg r []

/-- The endpoints the call tries. -/
def order (cfg : RpcConfig) (r : Request) : List String :=
  callOrder cfg r.network r.method r.ready

/-- The order that the code computes is the one it should. -/
theorem attempts_order (cfg : RpcConfig) (r : Request) : r.Attempts cfg (r.order cfg) := by
  unfold order callOrder
  cases hmethod : isPrimaryOnlyMethod r.method with
  | false => exact .firstTwo hmethod
  | true =>
    rw [if_pos rfl]
    cases hendpoints : cfg.endpoints r.network with
    | nil =>
      have hnone : r.ready.filter (fun url => ([] : List String).head? = some url) = [] := by simp
      rw [hnone]
      exact .noEndpoints hmethod hendpoints
    | cons primary rest =>
      have hprimary : r.ready.filter (fun url => (primary :: rest).head? = some url) =
          List.replicate (r.ready.count primary) primary := by
        simpa [eq_comm] using @List.filter_eq String _ _ _ r.ready primary
      rw [hprimary]
      exact .primary hmethod (by rw [hendpoints]; rfl)

theorem Attempts.unique {cfg : RpcConfig} {r : Request} {order order' : List String}
    (h : r.Attempts cfg order) (h' : r.Attempts cfg order') : order = order' := by
  cases h with
  | firstTwo hmethod =>
    cases h' with
    | firstTwo => rfl
    | primary hmethod' | noEndpoints hmethod' => simp [hmethod] at hmethod'
  | primary hmethod hprimary =>
    cases h' with
    | firstTwo hmethod' => simp [hmethod] at hmethod'
    | primary _ hprimary' =>
      obtain rfl := Option.some.inj (hprimary.symm.trans hprimary')
      rfl
    | noEndpoints _ hnone => simp [hnone] at hprimary
  | noEndpoints hmethod hnone =>
    cases h' with
    | firstTwo hmethod' => simp [hmethod] at hmethod'
    | primary _ hprimary => simp [hnone] at hprimary
    | noEndpoints => rfl

theorem Attempts.eq_order {cfg : RpcConfig} {r : Request} {order : List String}
    (h : r.Attempts cfg order) : order = r.order cfg :=
  h.unique (attempts_order cfg r)

/-- The call gets as far as its loop over the endpoints. -/
structure Tries (cfg : RpcConfig) (r : Request) : Prop where
  ready : r.ready ≠ []
  params : r.params.isSome = true
  uncached : r.cached = none
  order : r.order cfg ≠ []

/-- Why a call ends before its loop, and with what. -/
inductive Untried (cfg : RpcConfig) (r : Request) : Except RpcFailure Json → Prop
  | noneReady (h : r.ready = []) :
      Untried cfg r (.error (.http ⟨503, "No ready RPC endpoint for this network"⟩))
  | unserializable (hready : r.ready ≠ []) (h : r.params = none) :
      Untried cfg r (.error .unserializable)
  | cached (hready : r.ready ≠ []) (result : Json) (h : r.cached = some result)
      (response : Json) : Untried cfg r (.ok response)
  | noPrimary (hready : r.ready ≠ []) (hparams : r.params.isSome = true)
      (huncached : r.cached = none) (h : r.order cfg = []) :
      Untried cfg r (.error (.http ⟨503, "Primary RPC endpoint is not ready"⟩))

theorem Untried.not_tries {cfg : RpcConfig} {r : Request} {reply : Except RpcFailure Json}
    (h : Untried cfg r reply) : ¬r.Tries cfg := by
  intro htries
  cases h with
  | noneReady h => exact htries.ready h
  | unserializable _ h => simpa [h] using htries.params
  | cached _ result h => simpa [h] using htries.uncached
  | noPrimary _ _ _ h => exact htries.order h

end Request

section Trace

variable {V : Type} [Unknown V] (cfg : RpcConfig) (i : ℕ) (st : RpcService)

/-- What a call on a known network finds. -/
def requestOf (now : ℕ) (network : NetworkName) (method : String) (params : V) : Request where
  network := network
  method := method
  ready := st.monitor.readyEndpointsForAttempt cfg.health now network
  params := paramsText params
  cached := (paramsText params).bind fun params =>
    if cacheableMethods.contains method then
      st.cache.get? (cacheKey network (st.monitor.expectedIdentities network) method params)
    else none

/-- The start of the call. -/
def request? : RpcEvent V → Option Request
  | .execute now text method params _ _ =>
    if st.next = i then
      (isNetworkName text).map fun network => st.requestOf cfg now network method params
    else none
  | .monitor _ | .settle _ _ | .retry _ | .expire _ => none

/-- What admission makes of an attempt at the next endpoint. -/
def admission (clientKey : Option String) (url : String) : Attempt :=
  match (admitCall cfg st.slots clientKey).1 with
  | .error err => .refused err
  | .ok _ => .contacted url

instance (r : Request) : Decidable (r.Tries cfg) :=
  decidable_of_iff (r.ready ≠ [] ∧ r.params.isSome = true ∧ r.cached.isNone = true ∧
    r.order cfg ≠ []) ⟨fun h => ⟨h.1, h.2.1, Option.isNone_iff_eq_none.1 h.2.2.1, h.2.2.2⟩,
      fun h => ⟨h.ready, h.params, Option.isNone_iff_eq_none.2 h.uncached, h.order⟩⟩

/-- What an event makes the call do. -/
def attempt? (event : RpcEvent V) : Option Attempt :=
  match event with
  | .execute _ _ _ _ _ clientKey =>
    match request? cfg i st event with
    | none => none
    | some r =>
      if r.Tries cfg then (r.order cfg).head?.map (st.admission cfg clientKey) else none
  | .settle j answer =>
    if j = i then
      match st.calls.get? i with
      | none => none
      | some call =>
        match call.stage with
        | .attempting _ => some (.answered answer)
        | .retrying => none
    else none
  | .retry j =>
    if j = i then
      match st.calls.get? i with
      | none => none
      | some call =>
        match call.stage with
        | .attempting _ => none
        | .retrying => call.order.head?.map (st.admission cfg call.clientKey)
    else none
  | .monitor _ | .expire _ => none

end Trace

/-! ## The discipline -/

/-- Every attempt so far failed upstream, and these endpoints are left. -/
inductive Trying (order : List String) : List Attempt → List String → Prop
  | start : Trying order [] order
  | failed {trace : List Attempt} {url : String} {rest : List String} {answer : Fetched}
      {err : HttpError} (h : Trying order trace (url :: rest))
      (hfail : callResult answer = .error err) :
      Trying order (trace ++ [.contacted url, .answered answer]) rest

/-- What a call may have done, and the replies it has made. -/
inductive Disciplined (order : List String) :
    List Attempt → List (Except RpcFailure Json) → Prop
  /-- There is a next endpoint, and its turn comes. -/
  | next {trace : List Attempt} {url : String} {rest : List String}
      (h : Trying order trace (url :: rest)) : Disciplined order trace []
  | waiting {trace : List Attempt} {url : String} {rest : List String}
      (h : Trying order trace (url :: rest)) :
      Disciplined order (trace ++ [.contacted url]) []
  | refused {trace : List Attempt} {url : String} {rest : List String} {err : HttpError}
      (h : Trying order trace (url :: rest)) (hstatus : err.status = 429 ∨ err.status = 503) :
      Disciplined order (trace ++ [.refused err]) [.error (.http err)]
  | succeeded {trace : List Attempt} {url : String} {rest : List String} {answer : Fetched}
      {json : Json} (h : Trying order trace (url :: rest)) (hok : callResult answer = .ok json) :
      Disciplined order (trace ++ [.contacted url, .answered answer]) [.ok json]
  | exhausted {trace : List Attempt} {url : String} {answer : Fetched} {err : HttpError}
      (h : Trying order trace [url]) (hfail : callResult answer = .error err) :
      Disciplined order (trace ++ [.contacted url, .answered answer]) [.error (.http err)]

/-- The endpoints contacted are those before the ones that are left. -/
theorem Trying.contacted {order rest : List String} {trace : List Attempt}
    (h : Trying order trace rest) : order = trace.filterMap Attempt.url? ++ rest := by
  induction h with
  | start => rfl
  | failed _ _ ih => simpa [Attempt.url?, List.filterMap_cons] using ih

/-- A call contacts its endpoints in order. -/
theorem Disciplined.contacted_prefix {order : List String} {trace : List Attempt}
    {replies : List (Except RpcFailure Json)} (h : Disciplined order trace replies) :
    trace.filterMap Attempt.url? <+: order := by
  cases h with
  | next h => exact ⟨_, h.contacted.symm⟩
  | @refused trace url rest _ h =>
    refine ⟨url :: rest, ?_⟩
    simpa [Attempt.url?, List.filterMap_cons] using h.contacted.symm
  | @waiting trace url rest h =>
    refine ⟨rest, ?_⟩
    simpa [Attempt.url?, List.filterMap_cons] using h.contacted.symm
  | @succeeded trace url rest _ _ h =>
    refine ⟨rest, ?_⟩
    simpa [Attempt.url?, List.filterMap_cons] using h.contacted.symm
  | @exhausted trace url _ _ h =>
    refine ⟨[], ?_⟩
    simpa [Attempt.url?, List.filterMap_cons] using h.contacted.symm

/-! ## What the service holds of a call -/

structure Standing where
  call : Option RpcCall
  replies : List (Except RpcFailure Json)
  contacted : List String

def standing (st : RpcService) (i : ℕ) : Standing where
  call := st.calls.get? i
  replies := (st.replies.filter (·.1 = i)).map (·.2)
  contacted := (st.contacted.filter (·.1 = i)).map (·.2)

variable {cfg : RpcConfig} {st : RpcService} {i : ℕ}

theorem standing_reply (st : RpcService) (i j : ℕ) (result : Except RpcFailure Json) :
    (st.reply i result).standing j = if j = i then
      ⟨none, (st.standing i).replies ++ [result], (st.standing i).contacted⟩
    else st.standing j := by
  unfold reply standing
  split
  next h => simp [h]
  next h => simp [JsMap.get?_delete_of_ne _ h, Ne.symm h]

/-- An attempt is refused, and the call ends with why, or contacts the next endpoint. -/
theorem attempt_cases {call : RpcCall} {url : String} {rest : List String}
    (horder : call.order = url :: rest) :
    (∃ err : HttpError, st.admission cfg call.clientKey url = .refused err ∧
      (err.status = 429 ∨ err.status = 503) ∧ (st.attempt cfg i call).standing i =
        ⟨none, (st.standing i).replies ++ [.error (.http err)], (st.standing i).contacted⟩) ∨
    (∃ slot, st.admission cfg call.clientKey url = .contacted url ∧
      (st.attempt cfg i call).standing i =
        ⟨some { call with order := rest, stage := .attempting slot }, (st.standing i).replies,
          (st.standing i).contacted ++ [url]⟩) := by
  unfold admission attempt
  rw [horder]
  have hstatus := fun err => @status_admitCall cfg st.slots call.clientKey err
  generalize admitCall cfg st.slots call.clientKey = out at hstatus
  obtain ⟨result, slots⟩ := out
  cases result with
  | error err =>
    refine .inl ⟨err, rfl, hstatus err rfl, ?_⟩
    dsimp only
    rw [standing_reply, if_pos rfl]
    rfl
  | ok slot =>
    refine .inr ⟨slot, rfl, ?_⟩
    simp [standing]

/-- A turn of a call leaves the other ones as they are. -/
theorem Turn.standing_of_ne {st' : RpcService} (h : Turn st i st') {j : ℕ} (hj : j ≠ i) :
    st'.standing j = st.standing j := by
  cases h with
  | replies =>
    rw [standing_reply, if_neg hj]
    rfl
  | contacts => simp [standing, JsMap.get?_set_of_ne _ _ hj, Ne.symm hj]
  | awaits => simp [standing, JsMap.get?_set_of_ne _ _ hj]
  | idle => rfl

/-- An answer ends the call with the body, or with the error of the last endpoint, and else
leaves it to the next one. -/
theorem settle_cases' {call : RpcCall} (slot : ℕ) (answer : Fetched) :
    (∃ json, callResult answer = .ok json ∧ (st.settle i call slot answer).standing i =
      ⟨none, (st.standing i).replies ++ [.ok json], (st.standing i).contacted⟩) ∨
    ∃ err, callResult answer = .error err ∧
      (call.order = [] ∧ (st.settle i call slot answer).standing i =
        ⟨none, (st.standing i).replies ++ [.error (.http err)], (st.standing i).contacted⟩ ∨
      call.order ≠ [] ∧ (st.settle i call slot answer).standing i =
        ⟨some { call with stage := .retrying }, (st.standing i).replies,
          (st.standing i).contacted⟩) := by
  unfold settle
  cases hresult : callResult answer with
  | ok json =>
    refine .inl ⟨json, rfl, ?_⟩
    dsimp only
    rw [standing_reply, if_pos rfl]
    split
    · split <;> rfl
    · rfl
  | error err =>
    have hstatus := status_callResult hresult
    refine .inr ⟨err, rfl, ?_⟩
    dsimp only
    by_cases horder : call.order = []
    · refine .inl ⟨horder, ?_⟩
      rw [if_pos (by simp [horder]), standing_reply, if_pos rfl]
      rfl
    · refine .inr ⟨horder, ?_⟩
      rw [if_neg (by simp [horder, hstatus])]
      simp [standing]

/-! ## Steps -/

/-- Where a call stands that has started. -/
inductive Phase (cfg : RpcConfig) : List Request → List Attempt → Standing → Prop
  | unknown (reply : Except RpcFailure Json) : Phase cfg [] [] ⟨none, [reply], []⟩
  | untried {r : Request} {reply : Except RpcFailure Json} (h : r.Untried cfg reply) :
      Phase cfg [r] [] ⟨none, [reply], []⟩
  | next {r : Request} {trace : List Attempt} {url : String} {rest : List String}
      {call : RpcCall} (htries : r.Tries cfg) (h : Trying (r.order cfg) trace (url :: rest))
      (hstage : call.stage = .retrying) (horder : call.order = url :: rest) :
      Phase cfg [r] trace ⟨some call, [], trace.filterMap Attempt.url?⟩
  | waiting {r : Request} {trace : List Attempt} {url : String} {rest : List String}
      {call : RpcCall} {slot : ℕ} (htries : r.Tries cfg)
      (h : Trying (r.order cfg) trace (url :: rest)) (hstage : call.stage = .attempting slot)
      (horder : call.order = rest) :
      Phase cfg [r] (trace ++ [.contacted url])
        ⟨some call, [], trace.filterMap Attempt.url? ++ [url]⟩
  | ended {r : Request} {trace : List Attempt} {reply : Except RpcFailure Json}
      (htries : r.Tries cfg) (h : Disciplined (r.order cfg) trace [reply]) :
      Phase cfg [r] trace ⟨none, [reply], trace.filterMap Attempt.url?⟩

/-- An attempt moves a call whose turn it is. -/
theorem Phase.attempt {r : Request} {trace : List Attempt} {url : String} {rest : List String}
    {call : RpcCall} {call? : Option RpcCall} (htries : r.Tries cfg)
    (h : Trying (r.order cfg) trace (url :: rest)) (horder : call.order = url :: rest)
    (hstanding : st.standing i = ⟨call?, [], trace.filterMap Attempt.url?⟩) :
    Phase cfg [r] (trace ++ [st.admission cfg call.clientKey url])
      ((st.attempt cfg i call).standing i) := by
  rcases @attempt_cases cfg st i call url rest horder with
    ⟨err, hadmission, hstatus, hafter⟩ | ⟨slot, hadmission, hafter⟩
  · have hended := Phase.ended htries (.refused h hstatus)
    rw [hadmission, hafter, hstanding]
    simpa [Attempt.url?, List.filterMap_cons] using hended
  · rw [hadmission, hafter, hstanding]
    exact .waiting htries h rfl rfl

/-- An answer moves a call that waits for it. -/
theorem Phase.settle {r : Request} {trace : List Attempt} {url : String} {rest : List String}
    {call : RpcCall} {call? : Option RpcCall} (htries : r.Tries cfg)
    (h : Trying (r.order cfg) trace (url :: rest)) (horder : call.order = rest)
    (hstanding : st.standing i = ⟨call?, [], trace.filterMap Attempt.url? ++ [url]⟩) (slot : ℕ)
    (answer : Fetched) :
    Phase cfg [r] (trace ++ [.contacted url] ++ [.answered answer])
      ((st.settle i call slot answer).standing i) := by
  have hurls : trace.filterMap Attempt.url? ++ [url] =
      (trace ++ [Attempt.contacted url, .answered answer]).filterMap Attempt.url? := by
    simp [Attempt.url?, List.filterMap_cons]
  rw [List.append_assoc, List.cons_append, List.nil_append]
  rcases @settle_cases' st i call slot answer with
    ⟨json, hresult, hafter⟩ | ⟨err, hresult, ⟨hlast, hafter⟩ | ⟨hmore, hafter⟩⟩
  · rw [hafter, hstanding, hurls]
    exact .ended htries (.succeeded h hresult)
  · rw [hafter, hstanding, hurls]
    obtain rfl : rest = [] := horder.symm.trans hlast
    exact .ended htries (.exhausted h hresult)
  · rw [hafter, hstanding, hurls]
    obtain ⟨url', rest', rfl⟩ := List.exists_cons_of_ne_nil (horder ▸ hmore)
    exact @Phase.next cfg r _ url' rest' { call with stage := .retrying } htries
      (.failed h hresult) rfl horder

variable {V : Type} [Unknown V]

/-- A call that starts : it is answered at once, or its first attempt is made. -/
theorem phase_execute (hnew : st.standing st.next = ⟨none, [], []⟩) (now : ℕ)
    (text method : String) (params : V) (id : RpcId) (clientKey : Option String) :
    Phase cfg (request? cfg st.next st (.execute now text method params id clientKey)).toList
      (attempt? cfg st.next st (.execute now text method params id clientKey)).toList
      ((st.execute cfg now text method params id clientKey).standing st.next) := by
  have hreply : ∀ result, ({ st with next := st.next + 1 }.reply st.next result).standing st.next =
      ⟨none, [result], []⟩ := by
    intro result
    rw [standing_reply, if_pos rfl]
    change Standing.mk none ((st.standing st.next).replies ++ _) (st.standing st.next).contacted = _
    rw [hnew]
    rfl
  unfold attempt? execute
  dsimp only
  rw [request?, if_pos rfl]
  cases isNetworkName text with
  | none =>
    dsimp only [Option.map_none]
    rw [hreply]
    exact .unknown _
  | some network =>
    dsimp only [Option.map_some]
    have hready' : (st.requestOf cfg now network method params).ready =
        st.monitor.readyEndpointsForAttempt cfg.health now network := rfl
    have hparams' : (st.requestOf cfg now network method params).params = paramsText params := rfl
    have hcached' : (st.requestOf cfg now network method params).cached =
        (paramsText params).bind fun params => if cacheableMethods.contains method then
          st.cache.get? (cacheKey network (st.monitor.expectedIdentities network) method params)
        else none := rfl
    have horder' : (st.requestOf cfg now network method params).order cfg = callOrder cfg network
        method (st.monitor.readyEndpointsForAttempt cfg.health now network) := rfl
    rw [← hready', ← hparams', ← horder'] at *
    generalize st.requestOf cfg now network method params = r at *
    have huntried : ∀ reply, r.Untried cfg reply → Phase cfg [r] (if r.Tries cfg then
        (r.order cfg).head?.map (st.admission cfg clientKey) else none).toList
          ⟨none, [reply], []⟩ := by
      intro reply h
      rw [if_neg h.not_tries]
      exact .untried h
    by_cases hready : r.ready = []
    · rw [hready, List.isEmpty_nil, if_pos rfl, hreply]
      exact huntried _ (.noneReady hready)
    rw [List.isEmpty_eq_false_iff.2 hready, if_neg Bool.false_ne_true]
    cases hparams : r.params with
    | none =>
      dsimp only
      rw [hreply]
      exact huntried _ (.unserializable hready hparams)
    | some paramsJson =>
      rw [hparams, Option.bind_some] at hcached'
      dsimp only
      rw [← hcached']
      cases hcached : r.cached with
      | some result =>
        dsimp only
        rw [hreply]
        exact huntried _ (.cached hready result hcached _)
      | none =>
        dsimp only
        by_cases horder : r.order cfg = []
        · rw [List.isEmpty_iff.2 horder, if_pos rfl, hreply]
          exact huntried _ (.noPrimary hready (by rw [hparams]; rfl) hcached horder)
        · have htries : r.Tries cfg := ⟨hready, by rw [hparams]; rfl, hcached, horder⟩
          rw [List.isEmpty_eq_false_iff.2 horder, if_neg Bool.false_ne_true, if_pos htries]
          obtain ⟨url, rest, hsplit⟩ := List.exists_cons_of_ne_nil horder
          rw [hsplit]
          exact @Phase.attempt cfg { st with next := st.next + 1 } st.next r [] url rest
            ⟨network, st.monitor.expectedIdentities network, method, paramsJson, id, clientKey,
              url :: rest, .retrying⟩ none htries (hsplit ▸ .start) rfl hnew

/-- A call has not started, or stands where its trace says. -/
def Tracked (cfg : RpcConfig) (i : ℕ) (st : RpcService) (requests : List Request)
    (trace : List Attempt) : Prop :=
  (st.next ≤ i ∧ requests = [] ∧ trace = [] ∧ st.standing i = ⟨none, [], []⟩) ∨
    (i < st.next ∧ Phase cfg requests trace (st.standing i))

/-- An event that neither starts the call nor moves it. -/
theorem Tracked.of_idle {requests : List Request} {trace : List Attempt} {st' : RpcService}
    (h : Tracked cfg i st requests trace) (hnext : st'.next = st.next)
    (hstanding : st'.standing i = st.standing i) :
    Tracked cfg i st' (requests ++ (none : Option Request).toList)
      (trace ++ (none : Option Attempt).toList) := by
  rw [Option.toList_none, Option.toList_none, List.append_nil, List.append_nil]
  unfold Tracked
  rwa [hnext, hstanding]

/-- A call under way has a phase. -/
theorem Tracked.phase {requests : List Request} {trace : List Attempt} {call : RpcCall}
    (h : Tracked cfg i st requests trace) (hcall : st.calls.get? i = some call) :
    i < st.next ∧ Phase cfg requests trace (st.standing i) := by
  rcases h with ⟨-, -, -, hnew⟩ | h
  · exact absurd (hcall.symm.trans (congrArg Standing.call hnew)) nofun
  · exact h

/-- A call whose turn it is makes an attempt. -/
theorem Phase.retry {requests : List Request} {trace : List Attempt} {call : RpcCall}
    (h : Phase cfg requests trace (st.standing i)) (hcall : st.calls.get? i = some call)
    (hstage : call.stage = .retrying) :
    Phase cfg requests (trace ++ (call.order.head?.map (st.admission cfg call.clientKey)).toList)
      ((st.attempt cfg i call).standing i) := by
  have hself : (st.standing i).call = some call := hcall
  generalize hstanding : st.standing i = standing at h hself
  cases h with
  | unknown | untried | ended => cases hself
  | waiting _ _ hwaiting =>
    cases hself
    rw [hstage] at hwaiting
    cases hwaiting
  | next htries htrying _ horder =>
    cases hself
    rw [horder]
    exact Phase.attempt htries htrying horder hstanding

/-- A call that waits for an answer gets it. -/
theorem Phase.answer {requests : List Request} {trace : List Attempt} {call : RpcCall} {slot : ℕ}
    (h : Phase cfg requests trace (st.standing i)) (hcall : st.calls.get? i = some call)
    (hstage : call.stage = .attempting slot) (answer : Fetched) :
    Phase cfg requests (trace ++ [.answered answer])
      ((st.settle i call slot answer).standing i) := by
  have hself : (st.standing i).call = some call := hcall
  generalize hstanding : st.standing i = standing at h hself
  cases h with
  | unknown | untried | ended => cases hself
  | next _ _ hretrying =>
    cases hself
    rw [hstage] at hretrying
    cases hretrying
  | waiting htries htrying _ horder =>
    cases hself
    exact Phase.settle htries htrying horder hstanding slot answer

theorem tracked_execute {requests : List Request} {trace : List Attempt}
    (h : Tracked cfg i st requests trace) (now : ℕ) (text method : String) (params : V)
    (id : RpcId) (clientKey : Option String) :
    let event : RpcEvent V := .execute now text method params id clientKey
    Tracked cfg i (st.step cfg event) (requests ++ (request? cfg i st event).toList)
      (trace ++ (attempt? cfg i st event).toList) := by
  intro event
  by_cases hi : st.next = i
  · subst hi
    rcases h with ⟨-, rfl, rfl, hnew⟩ | ⟨hlt, -⟩
    · refine .inr ⟨?_, phase_execute hnew now text method params id clientKey⟩
      rw [step, (turn_execute ..).next]
      exact Nat.lt_succ_self _
    · exact absurd hlt (lt_irrefl _)
  · have hnone : request? cfg i st event = none := if_neg hi
    rw [attempt?, hnone, Option.toList_none, List.append_nil]
    dsimp only
    rw [Option.toList_none, List.append_nil]
    have hturn := turn_execute cfg now st text method params id clientKey
    have hnext : (st.step cfg event).next = st.next + 1 := hturn.next
    have hstanding : (st.step cfg event).standing i = st.standing i :=
      hturn.standing_of_ne (Ne.symm hi)
    unfold Tracked
    rw [hstanding, hnext]
    rcases h with ⟨hle, h⟩ | ⟨hlt, h⟩
    · exact .inl ⟨by omega, h⟩
    · exact .inr ⟨by omega, h⟩

theorem tracked_settle {requests : List Request} {trace : List Attempt}
    (h : Tracked cfg i st requests trace) (j : ℕ) (answer : Fetched) :
    let event : RpcEvent V := .settle j answer
    Tracked cfg i (st.step cfg event) (requests ++ (request? cfg i st event).toList)
      (trace ++ (attempt? cfg i st event).toList) := by
  dsimp only
  unfold attempt? step
  by_cases hj : j = i
  · subst hj
    simp only [if_true]
    cases hcall : st.calls.get? j with
    | none => exact h.of_idle rfl rfl
    | some call =>
      dsimp only
      cases hstage : call.stage with
      | retrying => exact h.of_idle rfl rfl
      | attempting slot =>
        obtain ⟨hlt, hphase⟩ := h.phase hcall
        refine .inr ⟨by rwa [(turn_settle ..).next], ?_⟩
        rw [request?, Option.toList_none, List.append_nil, Option.toList_some]
        exact hphase.answer hcall hstage answer
  · simp only [if_neg hj]
    split
    · exact h.of_idle rfl rfl
    · split
      · have hturn := turn_settle st j
        exact h.of_idle (hturn _ _ _).next ((hturn _ _ _).standing_of_ne (Ne.symm hj))
      · exact h.of_idle rfl rfl

theorem tracked_retry {requests : List Request} {trace : List Attempt}
    (h : Tracked cfg i st requests trace) (j : ℕ) :
    let event : RpcEvent V := .retry j
    Tracked cfg i (st.step cfg event) (requests ++ (request? cfg i st event).toList)
      (trace ++ (attempt? cfg i st event).toList) := by
  dsimp only
  unfold attempt? step
  by_cases hj : j = i
  · subst hj
    simp only [if_true]
    cases hcall : st.calls.get? j with
    | none => exact h.of_idle rfl rfl
    | some call =>
      dsimp only
      cases hstage : call.stage with
      | attempting => exact h.of_idle rfl rfl
      | retrying =>
        obtain ⟨hlt, hphase⟩ := h.phase hcall
        refine .inr ⟨by rwa [(turn_attempt ..).next], ?_⟩
        rw [request?, Option.toList_none, List.append_nil]
        exact hphase.retry hcall hstage
  · simp only [if_neg hj]
    split
    · exact h.of_idle rfl rfl
    · split
      · exact h.of_idle rfl rfl
      · have hturn := turn_attempt cfg st j
        exact h.of_idle (hturn _).next ((hturn _).standing_of_ne (Ne.symm hj))

theorem tracked_step {requests : List Request} {trace : List Attempt}
    (h : Tracked cfg i st requests trace) (event : RpcEvent V) :
    Tracked cfg i (st.step cfg event) (requests ++ (request? cfg i st event).toList)
      (trace ++ (attempt? cfg i st event).toList) := by
  cases event with
  | monitor | expire => exact h.of_idle rfl rfl
  | execute now text method params id clientKey =>
    exact tracked_execute h now text method params id clientKey
  | settle j answer => exact tracked_settle h j answer
  | retry j => exact tracked_retry h j

/-! ## Runs -/

/-- The call's start in a run, if it has one. -/
def requests (cfg : RpcConfig) (st : RpcService) (events : List (RpcEvent V)) (i : ℕ) :
    List Request :=
  Runs.collect (step cfg) (request? cfg i) st events

/-- What the call did in a run. -/
def trace (cfg : RpcConfig) (st : RpcService) (events : List (RpcEvent V)) (i : ℕ) :
    List Attempt :=
  Runs.collect (step cfg) (attempt? cfg i) st events

theorem tracked_after (cfg : RpcConfig) (now : ℕ)
    (expectedIdentities : NetworkName → Option RpcIdentity) (events : List (RpcEvent V)) (i : ℕ) :
    Tracked cfg i (Runs.run (step cfg) (init now cfg expectedIdentities) events)
      (requests cfg (init now cfg expectedIdentities) events i)
      (trace cfg (init now cfg expectedIdentities) events i) := by
  induction events using List.reverseRecOn with
  | nil => exact .inl ⟨Nat.zero_le i, rfl, rfl, rfl⟩
  | append_singleton events event ih =>
    rw [Runs.run_snoc, requests, trace, Runs.collect_snoc, Runs.collect_snoc]
    exact tracked_step ih event

/-- What holds of a call, by the request it started with, what it did and how it stands. -/
structure FailsOver (cfg : RpcConfig) (requests : List Request) (trace : List Attempt)
    (standing : Standing) : Prop where
  contacted : standing.contacted = trace.filterMap Attempt.url?
  /-- A call on no network contacts nothing. -/
  unknown : requests = [] → trace = []
  /-- Nor does a call that finds no ready endpoint, or not the primary it needs. -/
  noneReady : ∀ r ∈ requests, r.ready = [] → trace = [] ∧
    standing.replies = [.error (.http ⟨503, "No ready RPC endpoint for this network"⟩)]
  noPrimary : ∀ r ∈ requests, r.ready ≠ [] → r.params.isSome = true → r.cached = none →
    r.Attempts cfg [] → trace = [] ∧
      standing.replies = [.error (.http ⟨503, "Primary RPC endpoint is not ready"⟩)]
  /-- Any other call that the cache does not serve tries its endpoints. -/
  tries : ∀ r ∈ requests, r.ready ≠ [] → r.params.isSome = true → r.cached = none →
    ∀ order, r.Attempts cfg order → order ≠ [] → Disciplined order trace standing.replies
  /-- No call contacts anything else. -/
  inOrder : ∀ r ∈ requests, ∀ order, r.Attempts cfg order → standing.contacted <+: order
  ready : ∀ r ∈ requests, ∀ url ∈ standing.contacted, url ∈ r.ready

/-- The endpoints a call tries are ready. -/
theorem mem_of_mem_order {r : Request} {url : String} (h : url ∈ r.order cfg) : url ∈ r.ready := by
  unfold Request.order callOrder at h
  split at h
  · exact List.mem_of_mem_filter h
  · exact List.mem_of_mem_take h

/-- No call, or a call on no network. -/
theorem failsOver_none {replies : List (Except RpcFailure Json)} :
    FailsOver cfg [] [] ⟨none, replies, []⟩ where
  contacted := rfl
  unknown _ := rfl
  noneReady _ hr := by cases hr
  noPrimary _ hr := by cases hr
  tries _ hr := by cases hr
  inOrder _ hr := by cases hr
  ready _ hr := by cases hr

theorem failsOver_untried {r : Request} {reply : Except RpcFailure Json}
    (h : r.Untried cfg reply) : FailsOver cfg [r] [] ⟨none, [reply], []⟩ where
  contacted := rfl
  unknown hnone := by cases hnone
  noneReady r' hr hready := by
    obtain rfl := List.mem_singleton.1 hr
    cases h with
    | noneReady => exact ⟨rfl, rfl⟩
    | unserializable h | cached h | noPrimary h => exact absurd hready h
  noPrimary r' hr hready hparams huncached _ := by
    obtain rfl := List.mem_singleton.1 hr
    cases h with
    | noneReady h => exact absurd h hready
    | unserializable _ h => simp [h] at hparams
    | cached _ result h => simp [h] at huncached
    | noPrimary => exact ⟨rfl, rfl⟩
  tries r' hr hready hparams huncached order hattempts horder := by
    obtain rfl := List.mem_singleton.1 hr
    exact absurd ⟨hready, hparams, huncached, hattempts.eq_order ▸ horder⟩ h.not_tries
  inOrder _ _ _ _ := List.nil_prefix
  ready _ _ _ hurl := by cases hurl

theorem failsOver_tries {r : Request} {trace : List Attempt} {standing : Standing}
    (htries : r.Tries cfg) (hcontacted : standing.contacted = trace.filterMap Attempt.url?)
    (h : Disciplined (r.order cfg) trace standing.replies) :
    FailsOver cfg [r] trace standing := by
  have hpre : standing.contacted <+: r.order cfg := hcontacted ▸ h.contacted_prefix
  refine ⟨hcontacted, ?_, fun r' hr hready => ?_, fun r' hr _ _ _ hattempts => ?_,
    fun r' hr _ _ _ order hattempts _ => ?_, fun r' hr order hattempts => ?_,
    fun r' hr url hurl => ?_⟩
  · intro hnone
    cases hnone
  all_goals obtain rfl := List.mem_singleton.1 hr
  · exact absurd hready htries.ready
  · exact absurd hattempts.eq_order.symm htries.order
  · rwa [hattempts.eq_order]
  · rwa [hattempts.eq_order]
  · exact mem_of_mem_order (hpre.subset hurl)

theorem Phase.failsOver {requests : List Request} {trace : List Attempt} {standing : Standing}
    (h : Phase cfg requests trace standing) : FailsOver cfg requests trace standing := by
  cases h with
  | unknown => exact failsOver_none
  | untried h => exact failsOver_untried h
  | next htries h => exact failsOver_tries htries rfl (.next h)
  | waiting htries h => exact failsOver_tries htries (by simp [Attempt.url?]) (.waiting h)
  | ended htries h => exact failsOver_tries htries rfl h

/-- A trace of failures ends with an answer. -/
theorem Trying.not_contacted {order rest : List String} {trace : List Attempt} {url : String} :
    ¬Trying order (trace ++ [.contacted url]) rest := by
  intro h
  generalize hlast : trace ++ [.contacted url] = trace' at h
  cases h with
  | start => simp at hlast
  | failed =>
    have h := congrArg List.getLast? hlast
    simp at h

/-- After a failure with an endpoint left, the next turn of the call is an attempt at it. -/
theorem Tracked.retry {requests : List Request} {trace : List Attempt} {r : Request}
    {order : List String} {url : String} {rest : List String}
    (h : Tracked cfg i st requests trace) (hr : r ∈ requests) (hattempts : r.Attempts cfg order)
    (htrying : Trying order trace (url :: rest))
    (hreplies : (st.standing i).replies = []) :
    ∃ clientKey, attempt? cfg i st (.retry i : RpcEvent V) =
      some (st.admission cfg clientKey url) := by
  obtain rfl := hattempts.eq_order
  rcases h with ⟨-, rfl, -⟩ | ⟨-, hphase⟩
  · cases hr
  generalize hstanding : st.standing i = standing at hphase hreplies
  cases hphase with
  | unknown => cases hr
  | untried | ended => cases hreplies
  | waiting => exact absurd htrying Trying.not_contacted
  | @next r' _ url' rest' call _ htrying' hstage horder =>
    obtain rfl := List.mem_singleton.1 hr
    obtain ⟨rfl, rfl⟩ : url = url' ∧ rest = rest' := by
      have h := htrying.contacted.symm.trans htrying'.contacted
      simpa using h
    have hcall : st.calls.get? i = some call := congrArg Standing.call hstanding
    refine ⟨call.clientKey, ?_⟩
    unfold attempt?
    dsimp only
    rw [if_pos rfl, hcall]
    dsimp only
    rw [hstage, horder]
    rfl

/-- In every run every call fails over as it should, its next turn after a failure is an
attempt at the next endpoint, and an upstream's failure never has the status of a refused
admission. -/
theorem failover_discipline (cfg : RpcConfig) (now : ℕ)
    (expectedIdentities : NetworkName → Option RpcIdentity) (events : List (RpcEvent V)) (i : ℕ) :
    FailsOver cfg (requests cfg (init now cfg expectedIdentities) events i)
      (trace cfg (init now cfg expectedIdentities) events i)
      ((Runs.run (step cfg) (init now cfg expectedIdentities) events).standing i) ∧
    (∀ r ∈ requests cfg (init now cfg expectedIdentities) events i, ∀ order,
      r.Attempts cfg order → ∀ url rest,
      Trying order (trace cfg (init now cfg expectedIdentities) events i) (url :: rest) →
      ((Runs.run (step cfg) (init now cfg expectedIdentities) events).standing i).replies = [] →
      ∃ clientKey, attempt? cfg i (Runs.run (step cfg) (init now cfg expectedIdentities) events)
        (.retry i : RpcEvent V) =
          some ((Runs.run (step cfg) (init now cfg expectedIdentities) events).admission cfg
            clientKey url)) ∧
    ∀ answer err, callResult answer = .error err → err.status ≠ 429 ∧ err.status ≠ 503 := by
  have htracked := tracked_after cfg now expectedIdentities events i
  refine ⟨?_, fun r hr order hattempts url rest => htracked.retry hr hattempts,
    fun answer err h => ?_⟩
  swap
  · rw [status_callResult h]
    exact ⟨by decide, by decide⟩
  rcases htracked with ⟨-, hrequests, htrace, hstanding⟩ | ⟨-, hphase⟩
  · rw [hrequests, htrace, hstanding]
    exact failsOver_none
  · exact hphase.failsOver

/-- A good poll of a testnet endpoint. -/
def goodPoll (i : ℕ) : List (RpcEvent String) :=
  let answer := fun id result => Fetched.responded 200 (.ok (.object [("jsonrpc", .string "2.0"),
    ("id", id), ("result", result)]))
  [.monitor (.begin .testnet i 5), .monitor (.respond .testnet i 200 7 7),
    .monitor (.finish .testnet i
      { height := .ok (.object [("jsonrpc", .string "2.0"), ("id", .number 5),
          ("result", .string "0x2a")])
        chainId := answer .null .null
        genesis := answer .null .null
        syncing := answer (.string "qrl_syncing") (.bool false)
        block := answer (.string "qrl_getBlockByNumber") (.object [("number", .string "0x2a"),
          ("timestamp", .string "0x0")]) } (.error "") 9 9 9)]

/-- Two endpoints are polled. The first answers a call with a 429. -/
def rateLimitedFirst : List (RpcEvent String) :=
  goodPoll 0 ++ goodPoll 1 ++
    [.execute 10 "testnet" "qrl_blockNumber" "params" (.number 1) (some "a"),
      .settle 0 (.responded 429 (.error (.error "")))]

/-- Two endpoints, and room for one upstream call. -/
def twoEndpoints : RpcConfig where
  health := .unset
  endpoints _ := ["http://a", "http://b"]
  maxResponseBytes := 1
  maxConcurrent := 1
  maxConcurrentPerClient := 1
  maxInflightBytes := 1

/-- The call goes on to the second endpoint. -/
theorem failover_rate_limited :
    (∃ clientKey, attempt? twoEndpoints 0
      (Runs.run (step twoEndpoints) (init 0 twoEndpoints fun _ => none) rateLimitedFirst)
      (.retry 0 : RpcEvent String) = some ((Runs.run (step twoEndpoints)
        (init 0 twoEndpoints fun _ => none) rateLimitedFirst).admission twoEndpoints clientKey
          "http://b")) ∧
    502 ≠ 429 := by
  have h := failover_discipline twoEndpoints 0 (fun _ => none) rateLimitedFirst 0
  refine ⟨h.2.1 _ List.mem_cons_self _ (.firstTwo rfl) "http://b" [] ?_ rfl,
    (h.2.2 (.responded 429 (.error (.error ""))) _ rfl).1⟩
  exact .failed .start rfl

/-- The primary is listed three times, and fails a primary-only call each time. -/
def listedThrice : List (RpcEvent String) :=
  goodPoll 0 ++ goodPoll 1 ++ goodPoll 2 ++
    [.execute 10 "testnet" "txpool_content" "params" (.number 1) (some "a"),
      .settle 0 (.responded 429 (.error (.error ""))), .retry 0,
      .settle 0 (.responded 429 (.error (.error ""))), .retry 0]

/-- A call may contact the primary more than twice. -/
theorem primary_thrice :
    let cfg := { twoEndpoints with endpoints := fun _ => ["http://a", "http://a", "http://a"] }
    let contacted := ((Runs.run (step cfg) (init 0 cfg fun _ => none) listedThrice).standing
      0).contacted
    contacted = ["http://a", "http://a", "http://a"] ∧
      ∃ r ∈ requests cfg (init 0 cfg fun _ => none) listedThrice 0,
        isPrimaryOnlyMethod r.method = true ∧ ¬contacted <+: r.ready.take 2 := by
  refine ⟨rfl, _, List.mem_cons_self, by decide, ?_⟩
  change ¬["http://a", "http://a", "http://a"] <+: ["http://a", "http://a"]
  decide

end RpcService

end QrlBackend
