import QrlBackend.CacheIsolation
import QrlBackend.Evidence
import QrlBackend.ReadySet
import QrlBackend.RpcRoutes

/-!
# Only vetted requests reach an upstream

`upstream_vetted` is what the order of the middleware is for : whatever requests come in and
however calls, polls and answers interleave, an upstream is contacted only for a request that
every check let through (`Vetted`), and only at an endpoint of the network it names.

The middleware decides about each request by itself (`vetted_of_vet`), and the service takes the
steps of a run of its own (`service_after`). A call that contacted an upstream was started by an
event of that run, and only a request that passed is such an event.
-/

set_option autoImplicit false

namespace QrlBackend

/-! ## What the checks let through -/

/-- What a method is forwarded with. -/
inductive ParamsFor (shake256 : String → ℕ → List UInt8) (method : String) : Option Json → Prop
  | account {address : String} (rest : List Json)
      (hmethod : method ∈ ["qrl_getBalance", "qrl_getTransactionCount", "qrl_getCode"])
      (haddress : QrlAddress shake256 address) :
      ParamsFor shake256 method (some (.array (.string address :: rest)))
  | rawTransaction {tx : String} {bytes : ℕ} (rest : List Json)
      (hmethod : method = "qrl_sendRawTransaction") (htx : HexWord ['x'] (bytes + 1) tx) :
      ParamsFor shake256 method (some (.array (.string tx :: rest)))
  | noParams {params : Option Json} (hmethod : method = "qrl_maxPriorityFeePerGas")
      (hparams : params = none ∨ params = some .null ∨ params = some (.array [])) :
      ParamsFor shake256 method params
  | transactionHash {hash : String} (rest : List Json)
      (hmethod : method = "qrl_getTransactionReceipt" ∨
        method = "qrl_getTransactionByHash" ∧ rest = [])
      (hhash : HexWord ['x'] 32 hash) :
      ParamsFor shake256 method (some (.array (.string hash :: rest)))
  | transactionObject (fields : List (String × Json)) (rest : List Json)
      (hmethod : method ∈ ["qrl_call", "qrl_estimateGas"]) :
      ParamsFor shake256 method (some (.array (.object fields :: rest)))
  | logs {fields : List (String × Json)} (hmethod : method = "qrl_getLogs")
      (hfilter : LogFilter shake256 ['x', 'X'] fields) :
      ParamsFor shake256 method (some (.array [.object fields]))
  | plain {params : Option Json}
      (hmethod : method ∈ ["net_listening", "qrl_gasPrice", "qrl_chainId", "qrl_blockNumber",
        "qrl_getBlockByNumber", "net_version"])
      (hparams : params = none ∨ params = some .null ∨ ∃ items, params = some (.array items)) :
      ParamsFor shake256 method params

/-- A request that every check let through, with the call it makes. -/
structure Vetted (app : RpcApp)
    (post : RpcPost) (x : RpcExecution) : Prop where
  admitted : post.admitted = true
  origin : corsAllows app.allowedOrigins post.origin = true
  body : ∃ fields, post.body = .json (.object fields) ∧
    fields.lookup "method" = some (.string x.method) ∧ x.id = normalizeRpcId (fields.lookup "id")
  method : x.method ∈ allowedRpcMethods
  writes : x.method = "qrl_sendRawTransaction" → post.writeAdmitted = true
  params : ParamsFor app.shake256 x.method x.params

/-- No allowed method is only for a node of our own, so each may fail over. -/
theorem not_primaryOnly_of_allowed : ∀ method ∈ allowedRpcMethods,
    isPrimaryOnlyMethod method = false := by
  decide

theorem isByteAlignedHex_iff (s : String) :
    isByteAlignedHex s = true ↔ ∃ bytes, HexWord ['x'] (bytes + 1) s := by
  unfold isByteAlignedHex
  rw [Option.any_eq_true]
  constructor
  · rintro ⟨digits, hdigits, hlength⟩
    rw [Bool.and_eq_true, decide_eq_true_eq, decide_eq_true_eq] at hlength
    obtain ⟨x, hx, hs, hall⟩ := hexDigits?_eq_some.1 hdigits
    exact ⟨digits.length / 2 - 1, x, hx, digits, hs, hall, by omega⟩
  · rintro ⟨bytes, x, hx, digits, hs, hall, hlength⟩
    refine ⟨digits, hexDigits?_eq_some.2 ⟨x, hx, hs, hall⟩, ?_⟩
    rw [Bool.and_eq_true, decide_eq_true_eq, decide_eq_true_eq]
    omega

section Params

variable {shake256 : String → ℕ → List UInt8} {params : Option (List Json)} {value : Option Json}

theorem firstString?_eq_some {s : String} :
    firstString? params = some s ↔ ∃ rest, params = some (.string s :: rest) := by
  unfold firstString?
  split
  next s' rest =>
    simp
  next hnone =>
    constructor
    · intro h
      cases h
    · rintro ⟨rest, rfl⟩
      exact absurd rfl (hnone s rest)

/-- The `params` an array is read from. -/
theorem of_paramsArray? (h : paramsArray? value = some params) :
    params = none ∧ (value = none ∨ value = some .null) ∨
      ∃ items, params = some items ∧ value = some (.array items) := by
  unfold paramsArray? at h
  split at h
  · cases h
    exact .inl ⟨rfl, .inl rfl⟩
  · cases h
    exact .inl ⟨rfl, .inr rfl⟩
  next items =>
    cases h
    exact .inr ⟨items, rfl, rfl⟩
  · cases h

/-- `params` with a first item are that array. -/
theorem value_of_cons (h : paramsArray? value = some params) {item : Json} {rest : List Json}
    (hparams : params = some (item :: rest)) : value = some (.array (item :: rest)) := by
  subst hparams
  exact paramsArray?_eq_some.1 h

variable {method : String} (hvalue : paramsArray? value = some params)

include hvalue

theorem paramsFor_account
    (hmethod : method ∈ ["qrl_getBalance", "qrl_getTransactionCount", "qrl_getCode"])
    (h : addressRefusal shake256 params = none) : ParamsFor shake256 method value := by
  unfold addressRefusal at h
  split at h
  · cases h
  next address hfirst =>
    obtain ⟨rest, hparams⟩ := firstString?_eq_some.1 hfirst
    rw [value_of_cons hvalue hparams]
    split at h
    · cases h
    next haddress =>
      rw [Bool.not_eq_true', Bool.not_eq_false, isQrlAddress_iff] at haddress
      exact .account rest hmethod haddress

theorem paramsFor_rawTransaction (hmethod : method = "qrl_sendRawTransaction")
    (h : rawTransactionRefusal params = none) : ParamsFor shake256 method value := by
  unfold rawTransactionRefusal at h
  split at h
  · cases h
  next tx hfirst =>
    obtain ⟨rest, hparams⟩ := firstString?_eq_some.1 hfirst
    rw [value_of_cons hvalue hparams]
    split at h
    · cases h
    next htx =>
      rw [Bool.not_eq_true', Bool.not_eq_false, isByteAlignedHex_iff] at htx
      obtain ⟨bytes, htx⟩ := htx
      exact .rawTransaction rest hmethod htx

theorem paramsFor_noParams (hmethod : method = "qrl_maxPriorityFeePerGas")
    (h : noParamsRefusal params = none) : ParamsFor shake256 method value := by
  refine .noParams hmethod ?_
  rcases of_paramsArray? hvalue with ⟨rfl, hnone | hnull⟩ | ⟨items, rfl, hitems⟩
  · exact .inl hnone
  · exact .inr (.inl hnull)
  · cases items with
    | nil => exact .inr (.inr hitems)
    | cons item items => cases h

theorem paramsFor_transactionHash
    (hmethod : method ∈ ["qrl_getTransactionReceipt", "qrl_getTransactionByHash"])
    (h : transactionHashRefusal params method = none) : ParamsFor shake256 method value := by
  unfold transactionHashRefusal at h
  split at h
  · cases h
  next hone =>
    split at h
    · cases h
    next hash hfirst =>
      obtain ⟨rest, hparams⟩ := firstString?_eq_some.1 hfirst
      rw [value_of_cons hvalue hparams]
      split at h
      · cases h
      next hhash =>
        rw [Bool.not_eq_true', Bool.not_eq_false, isHash_iff] at hhash
        refine .transactionHash rest ?_ hhash
        rcases List.mem_pair.1 hmethod with hmethod | hmethod
        · exact .inl hmethod
        · refine .inr ⟨hmethod, ?_⟩
          rw [hparams] at hone
          by_contra hrest
          exact hone ⟨hmethod, by simpa using hrest⟩

theorem paramsFor_transactionObject (hmethod : method ∈ ["qrl_call", "qrl_estimateGas"])
    (h : transactionObjectRefusal params = none) : ParamsFor shake256 method value := by
  unfold transactionObjectRefusal at h
  split at h
  next fields rest =>
    rw [value_of_cons hvalue rfl]
    exact .transactionObject fields rest hmethod
  · cases h

/-- The checks of the methods other than `qrl_getLogs`. -/
theorem paramsFor_of_methodRefusal (hallowed : method ∈ allowedRpcMethods)
    (hlogs : method ≠ "qrl_getLogs") (h : methodRefusal shake256 method params = none) :
    ParamsFor shake256 method value := by
  unfold methodRefusal at h
  split at h
  next hmethod => exact paramsFor_account hvalue hmethod h
  next haccount =>
    split at h
    next hmethod => exact paramsFor_rawTransaction hvalue hmethod h
    next hraw =>
      split at h
      next hmethod => exact paramsFor_noParams hvalue hmethod h
      next hfee =>
        split at h
        next hmethod => exact paramsFor_transactionHash hvalue hmethod h
        next hhash =>
          split at h
          next hmethod => exact paramsFor_transactionObject hvalue hmethod h
          next hobject =>
            refine .plain ?_ ?_
            · simp only [allowedRpcMethods, List.mem_cons, List.not_mem_nil, or_false, not_or]
                at hallowed haccount hhash hobject ⊢
              tauto
            · rcases of_paramsArray? hvalue with ⟨-, hnone | hnull⟩ | ⟨items, -, hitems⟩
              · exact .inl hnone
              · exact .inr (.inl hnull)
              · exact .inr (.inr ⟨items, hitems⟩)

end Params

/-- The check of `qrl_getLogs`. -/
theorem paramsFor_getLogs {shake256 : String → ℕ → List UInt8} {params : Option (List Json)}
    {forwarded : Json} (h : getLogsParams shake256 params = .ok forwarded) :
    ParamsFor shake256 "qrl_getLogs" (some forwarded) := by
  obtain ⟨filter, -, hrefusal, rfl⟩ := getLogsParams_eq_ok.1 h
  exact .logs rfl (logFilter_canonicalFilter shake256 filter hrefusal)

variable {app : RpcApp}

theorem admitPost_eq_ok {post : RpcPost} {body : Json} (h : admitPost app post = .ok body) :
    post.admitted = true ∧ corsAllows app.allowedOrigins post.origin = true ∧
      post.body.value = body := by
  unfold admitPost at h
  split at h
  · cases h
  next hadmitted =>
    rw [Bool.not_eq_true', Bool.not_eq_false] at hadmitted
    exact ⟨hadmitted, acceptBody_eq_ok h⟩

/-- What the whitelist lets through : a record with an allowed method. -/
theorem rpcMethodWhitelist_eq_ok {body : Json} {write : Bool}
    (h : rpcMethodWhitelist body = .ok write) : ∃ fields method, body = .object fields ∧
      fields.lookup "method" = some (.string method) ∧ method ∈ allowedRpcMethods ∧
      write = writeMethods.contains method := by
  unfold rpcMethodWhitelist at h
  dsimp only at h
  split at h
  next method hmethod =>
    split at h
    · cases h
    · split at h
      · cases h
      next hallowed =>
        cases h
        rw [Bool.not_eq_true', Bool.not_eq_false, List.contains_iff_mem] at hallowed
        cases body with
        | object fields => exact ⟨fields, method, rfl, hmethod, hallowed, rfl⟩
        | null | bool | number | infinite | string | array => cases hmethod
  · cases h

/-- What the validator lets through, for an allowed method. -/
theorem rpcParamsValidator_eq_ok {fields : List (String × Json)} {method : String} {body : Json}
    (hmethod : fields.lookup "method" = some (.string method))
    (hallowed : method ∈ allowedRpcMethods)
    (h : rpcParamsValidator app.shake256 (.object fields) = .ok body) :
    ∃ fields', body = .object fields' ∧ (∀ key, key ≠ "params" →
      fields'.lookup key = fields.lookup key) ∧
      ParamsFor app.shake256 method (fields'.lookup "params") := by
  unfold rpcParamsValidator at h
  simp only [readRpcBody, Json.isRecord, Bool.not_true, Bool.false_eq_true, if_false,
    Json.field?, hmethod] at h
  split at h
  · cases h
  next params hparams =>
    split at h
    next hlogs =>
      split at h
      · cases h
      next forwarded hforwarded =>
        cases h
        refine ⟨_, rfl, fun key hkey => ?_, ?_⟩
        · rw [lookup_withField, if_neg hkey]
          rfl
        · rw [lookup_withField, if_pos rfl, hlogs]
          exact paramsFor_getLogs hforwarded
    next hlogs =>
      split at h
      · cases h
      next hrefusal =>
        cases h
        exact ⟨fields, rfl, fun _ _ => rfl,
          paramsFor_of_methodRefusal hparams hallowed hlogs hrefusal⟩

/-- What the middleware lets through. -/
theorem vetted_of_vet {post : RpcPost} {x : RpcExecution} (h : vet app post = .ok x) :
    Vetted app post x := by
  obtain ⟨body, hadmit, h⟩ : ∃ body, admitPost app post = .ok body ∧
      checkBody app.shake256 post.writeAdmitted body = .ok x := by
    unfold vet at h
    split at h
    · cases h
    next body hadmit => exact ⟨body, hadmit, h⟩
  obtain ⟨hadmitted, horigin, rfl⟩ := admitPost_eq_ok hadmit
  unfold checkBody at h
  split at h
  · cases h
  · split at h
    · cases h
    next write hwhitelist =>
      obtain ⟨fields, method, hvalue, hmethod, hallowed, rfl⟩ := rpcMethodWhitelist_eq_ok hwhitelist
      split at h
      · cases h
      next hwrite =>
        split at h
        · cases h
        next body hvalid =>
          cases h
          rw [hvalue] at hvalid
          obtain ⟨fields', rfl, hothers, hparams⟩ :=
            rpcParamsValidator_eq_ok hmethod hallowed hvalid
          have hmethod' : (readExecution (.object fields')).method = method := by
            simp only [readExecution, Json.field?, hothers "method" (by decide), hmethod]
          refine ⟨hadmitted, horigin, ⟨fields, ParsedBody.eq_json hvalue, ?_, ?_⟩, ?_,
            fun hsend => ?_, ?_⟩
          · rw [hmethod', hmethod]
          · exact congrArg normalizeRpcId (hothers "id" (by decide))
          · rwa [hmethod']
          · rw [hmethod'] at hsend
            subst hsend
            simpa [writeMethods] using hwrite
          · rw [hmethod']
            exact hparams

/-! ## The requests of a run -/

namespace RpcProxy

/-- The request an event brings. -/
def post? : RpcProxyEvent → Option RpcPost
  | .post post => some post
  | .monitor _ | .settle _ _ | .retry _ | .expire _ => none

/-- The requests of a run, oldest first. -/
def posted (events : List RpcProxyEvent) : List RpcPost := events.filterMap post?

/-- What an event is to the service. -/
def serviceEvent? (app : RpcApp) :
    RpcProxyEvent → Option (RpcEvent (Option Json))
  | .post post =>
    match vet app post with
    | .error _ => none
    | .ok x => some (execution post x)
  | .monitor event => some (.monitor event)
  | .settle call answer => some (.settle call answer)
  | .retry call => some (.retry call)
  | .expire key => some (.expire key)

variable [Unknown (Option Json)] {now : ℕ}
variable {expectedIdentities : NetworkName → Option RpcIdentity}

/-- What becomes of a request. -/
def outcome (app : RpcApp) (st : RpcProxy)
    (post : RpcPost) : PostOutcome :=
  match vet app post with
  | .error response => .refused response
  | .ok _ => .called st.service.next

theorem service_step (st : RpcProxy) (event : RpcProxyEvent) :
    (st.step app event).service =
      (serviceEvent? app event).elim st.service (st.service.step app.rpc) := by
  cases event with
  | post post =>
    unfold step onPost serviceEvent?
    dsimp only
    cases vet app post <;> rfl
  | monitor | settle | retry | expire => rfl

theorem posts_step (st : RpcProxy) (event : RpcProxyEvent) :
    (st.step app event).posts =
      st.posts ++ ((post? event).map (outcome app st)).toList := by
  cases event with
  | post post =>
    unfold step onPost post? outcome
    dsimp only [Option.map_some]
    cases vet app post <;> rfl
  | monitor | settle | retry | expire => exact (List.append_nil _).symm

/-- The service takes the steps of a run of its own. -/
theorem service_after (events : List RpcProxyEvent) :
    (after app now expectedIdentities events).service =
      Runs.run (RpcService.step app.rpc) (.init now app.rpc expectedIdentities)
        (events.filterMap (serviceEvent? app)) :=
  Runs.part_run service_step events _

theorem after_snoc (events : List RpcProxyEvent) (event : RpcProxyEvent) :
    after app now expectedIdentities (events ++ [event]) =
      (after app now expectedIdentities events).step app event :=
  Runs.run_snoc _ _ _

theorem length_posts_after (events : List RpcProxyEvent) :
    (after app now expectedIdentities events).posts.length = (posted events).length := by
  induction events using List.reverseRecOn with
  | nil => rfl
  | append_singleton events event ih =>
    rw [after_snoc, posts_step, posted, List.filterMap_append, List.length_append, ih,
      List.length_append]
    cases hpost : post? event <;> simp [posted, hpost]

/-- Every request has its place among the outcomes. -/
theorem posts_after (before rest : List RpcProxyEvent) (post : RpcPost) :
    (after app now expectedIdentities
      (before ++ .post post :: rest)).posts[(posted before).length]? =
        some (outcome app (after app now expectedIdentities before) post) := by
  induction rest using List.reverseRecOn with
  | nil =>
    rw [after_snoc, posts_step, ← @length_posts_after app _ now expectedIdentities before]
    exact List.getElem?_concat_length
  | append_singleton rest event ih =>
    rw [← List.cons_append, ← List.append_assoc, after_snoc, posts_step, List.getElem?_append_left]
    · exact ih
    · exact (List.getElem?_eq_some_iff.1 ih).1

/-! ## Contacts -/

/-- What is an event of the health monitor to the service. -/
def monitorEvent? : RpcEvent (Option Json) → Option HealthMonitor.Event
  | .monitor event => some event
  | .execute _ _ _ _ _ _ | .settle _ _ | .retry _ | .expire _ => none

theorem monitor_step (st : RpcService) (event : RpcEvent (Option Json)) :
    (st.step app.rpc event).monitor =
      (monitorEvent? event).elim st.monitor (st.monitor.step app.rpc.health) := by
  have hsteps := RpcService.steps app.rpc st event
  generalize st.step app.rpc event = st' at hsteps
  cases hsteps with
  | monitor | expire => rfl
  | execute _ _ _ _ _ _ h => exact h.monitor
  | settle _ _ h | retry _ h => exact h.monitor

/-- What the health monitor sees of an event. -/
def monitored? : RpcProxyEvent → Option HealthMonitor.Event
  | .monitor event => some event
  | .post _ | .settle _ _ | .retry _ | .expire _ => none

/-- The health monitor takes the steps of a run of its own. -/
theorem monitor_after (events : List RpcProxyEvent) :
    (after app now expectedIdentities events).service.monitor =
      Runs.run (HealthMonitor.step app.rpc.health)
        (.init now app.rpc.endpoints expectedIdentities) (events.filterMap monitored?) := by
  have hevent : ∀ event, (serviceEvent? app event).bind monitorEvent? = monitored? event := by
    intro event
    cases event with
    | monitor | settle | retry | expire => rfl
    | post post =>
      unfold serviceEvent?
      dsimp only
      cases vet app post <;> rfl
  rw [service_after, Runs.part_run monitor_step, List.filterMap_filterMap]
  congr 1
  exact List.filterMap_congr fun event _ => hevent event

/-- A ready endpoint is one of those configured for its network. -/
theorem mem_endpoints_of_ready (events : List RpcProxyEvent) {t : ℕ} {network : NetworkName}
    {url : String} (h : url ∈ (after app now expectedIdentities
      events).service.monitor.readyEndpointsForAttempt app.rpc.health t network) :
    url ∈ app.rpc.endpoints network := by
  obtain ⟨i, ep, hep, rfl, -⟩ := HealthMonitor.exists_of_ready h
  rw [monitor_after] at hep
  have hurl := HealthMonitor.urls_after app.rpc.health now app.rpc.endpoints expectedIdentities
    (events.filterMap monitored?) network i
  have hep' := congrArg (Option.map (·.url)) hep
  exact List.mem_of_getElem? (hurl.symm.trans hep')

/-- A call starts at an event that calls `executeRPC` on a known network. -/
theorem request?_eq_some {st : RpcService} {i : ℕ} {event : RpcEvent (Option Json)}
    {r : RpcService.Request} (h : RpcService.request? app.rpc i st event = some r) :
    ∃ now text method params id clientKey network,
      event = .execute now text method params id clientKey ∧ st.next = i ∧
      isNetworkName text = some network ∧ st.requestOf app.rpc now network method params = r := by
  cases event with
  | monitor | settle | retry | expire => cases h
  | execute now text method params id clientKey =>
    unfold RpcService.request? at h
    dsimp only at h
    split at h
    next hi =>
      obtain ⟨network, hnetwork, rfl⟩ := Option.map_eq_some_iff.1 h
      exact ⟨now, text, method, params, id, clientKey, network, rfl, hi, hnetwork, rfl⟩
    next => cases h

omit [Unknown (Option Json)] in
/-- Only a request that passes calls `executeRPC`. -/
theorem serviceEvent?_eq_execute {event : RpcProxyEvent} {t : ℕ} {text method : String}
    {params : Option Json} {id : RpcId} {clientKey : Option String}
    (h : serviceEvent? app event = some (.execute t text method params id clientKey)) :
    ∃ post x, event = .post post ∧ vet app post = .ok x ∧
      execution post x = .execute t text method params id clientKey := by
  cases event with
  | post post =>
    unfold serviceEvent? at h
    dsimp only at h
    cases hvet : vet app post with
    | error response =>
      rw [hvet] at h
      cases h
    | ok x =>
      rw [hvet] at h
      exact ⟨post, x, rfl, hvet, Option.some.inj h⟩
  | monitor | settle | retry | expire => cases h

/-- The upstreams a call contacted were contacted for a request that every check let through :
they are, in order, at most two of the endpoints that were ready for its network when it
came. -/
def ContactedFor (app : RpcApp) (now : ℕ) (expectedIdentities : NetworkName → Option RpcIdentity)
    (events : List RpcProxyEvent) (i : ℕ) (urls : List String) : Prop :=
  ∃ before post x network rest, events = before ++ .post post :: rest ∧
    (after app now expectedIdentities events).posts[(posted before).length]? =
      some (.called i) ∧
    Vetted app post x ∧ isNetworkName post.network = some network ∧
    urls <+: ((after app now expectedIdentities
      before).service.monitor.readyEndpointsForAttempt app.rpc.health post.now network).take 2 ∧
    ∀ url ∈ urls, url ∈ app.rpc.endpoints network

theorem contactedFor (events : List RpcProxyEvent) {i : ℕ}
    (hcontacted : ((after app now expectedIdentities
      events).service.standing i).contacted ≠ []) :
    ContactedFor app now expectedIdentities events i
      ((after app now expectedIdentities events).service.standing i).contacted := by
  have hservice := @service_after app _ now expectedIdentities events
  have htracked := RpcService.tracked_after app.rpc now expectedIdentities
    (events.filterMap (serviceEvent? app)) i
  rw [← hservice] at htracked
  rcases htracked with ⟨-, -, -, hnew⟩ | ⟨-, hphase⟩
  · rw [hnew] at hcontacted
    exact absurd rfl hcontacted
  have hfails := hphase.failsOver
  -- A call that contacted an upstream was started by an event of the run.
  obtain ⟨r, hr⟩ : ∃ r, r ∈ RpcService.requests app.rpc (.init now app.rpc expectedIdentities)
      (events.filterMap (serviceEvent? app)) i := by
    refine List.exists_mem_of_ne_nil _ fun hnone => hcontacted ?_
    rw [hfails.contacted, hfails.unknown hnone]
    rfl
  obtain ⟨before', e, rest', hcut, hrequest⟩ := Runs.exists_cut_of_mem_collect hr
  obtain ⟨before, event, rest, rfl, rfl, hevent, -⟩ := Runs.exists_cut_of_filterMap hcut
  rw [← service_after] at hrequest
  obtain ⟨t, text, method, params, id, clientKey, network, rfl, hi, hnetwork, hready⟩ :=
    request?_eq_some hrequest
  obtain ⟨post, x, rfl, hvet, hexecution⟩ := serviceEvent?_eq_execute hevent
  cases hexecution
  have hvetted := vetted_of_vet hvet
  have hurls := hfails.inOrder r hr _ (.firstTwo (by
    rw [← hready]
    exact not_primaryOnly_of_allowed _ hvetted.method))
  rw [← hready] at hurls
  refine ⟨before, post, x, network, rest, rfl, ?_, hvetted, hnetwork, hurls, fun url hurl => ?_⟩
  · rw [posts_after, outcome, hvet, ← hi]
  · exact mem_endpoints_of_ready before (List.mem_of_mem_take (hurls.subset hurl))

/-- In every run, what is sent upstream is sent for a request that every check let through, and
only to endpoints of its network that were ready when it came. -/
theorem upstream_vetted (app : RpcApp) (now : ℕ)
    (expectedIdentities : NetworkName → Option RpcIdentity) (events : List RpcProxyEvent) (i : ℕ)
    (hcontacted : ((after app now expectedIdentities
      events).service.standing i).contacted ≠ []) :
    ContactedFor app now expectedIdentities events i
      ((after app now expectedIdentities events).service.standing i).contacted :=
  contactedFor events hcontacted

/-- `params` that are absent or an empty array. -/
@[reducible] def plainParams : Unknown (Option Json) where
  narrow
    | none => .undefined
    | some _ => .other
  stringify
    | none => .undefined
    | some _ => .text "[]"

/-- One endpoint, and one origin. -/
def oneWallet : RpcApp where
  shake256 _ _ := []
  allowedOrigins := ["https://wallet.example"]
  rpc := RpcService.oneEndpoint

/-- The endpoint is polled, and a request for the chain's id comes in. -/
def askedOnce : List RpcProxyEvent :=
  let envelope := fun id result => Json.object [("jsonrpc", .string "2.0"), ("id", id),
    ("result", result)]
  let answer := fun method result => Fetched.responded 200 (.ok (envelope (.string method) result))
  [.monitor (.begin .testnet 0 5), .monitor (.respond .testnet 0 200 7 7),
    .monitor (.finish .testnet 0
      { height := .ok (envelope (.number 5) (.string "0x2a"))
        chainId := answer "" .null
        genesis := answer "" .null
        syncing := answer "qrl_syncing" (.bool false)
        block := answer "qrl_getBlockByNumber" (.object [("number", .string "0x2a"),
          ("timestamp", .string "0x0")]) } (.error "") 9 9 9),
    .post
      { now := 10
        network := "testnet"
        clientKey := "192.0.2.1"
        origin := some "https://wallet.example"
        body := .json (.object [("jsonrpc", .string "2.0"), ("id", .number 7),
          ("method", .string "qrl_chainId"), ("params", .array [])])
        admitted := true
        writeAdmitted := true }]

omit [Unknown (Option Json)] in
theorem upstream_vetted_once :
    @ContactedFor plainParams oneWallet 0 (fun _ => none) askedOnce 0
      ["http://a"] :=
  @upstream_vetted plainParams oneWallet 0 (fun _ => none) askedOnce 0
    (show ["http://a"] ≠ [] by simp)

end RpcProxy

end QrlBackend
