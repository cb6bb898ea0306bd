import QrlBackend.RpcService

/-!
# The response cache

The cache key is a network, a pin, a method and the text of the params joined by hyphens.
It determines them, because no part before the params has a hyphen and the two cacheable
methods are no chain IDs (`cacheKey_injective`). So what the cache holds under a key is the
result of an error-free envelope that a call with the same four parts received, and a call
that contacts no upstream is answered with that (`cache_isolation`).
-/

set_option autoImplicit false

namespace QrlBackend

variable {V : Type} [Unknown V]

/-! ## Keys -/

/-- The first separator of a text cuts it in one way. -/
theorem cut_unique {c : Char} {x x' z z' : List Char} (hx : c ∉ x) (hx' : c ∉ x')
    (h : x ++ c :: z = x' ++ c :: z') : x = x' ∧ z = z' := by
  induction x generalizing x' with
  | nil =>
    cases x' with
    | nil => exact ⟨rfl, List.tail_eq_of_cons_eq h⟩
    | cons d x' =>
      rw [List.nil_append, List.cons_append, List.cons.injEq] at h
      exact absurd (h.1 ▸ List.mem_cons_self) hx'
  | cons d x ih =>
    cases x' with
    | nil =>
      rw [List.nil_append, List.cons_append, List.cons.injEq] at h
      exact absurd (h.1 ▸ List.mem_cons_self) hx
    | cons d' x' =>
      rw [List.cons_append, List.cons_append, List.cons.injEq] at h
      obtain ⟨rfl, hz⟩ := ih (fun hm => hx (List.mem_cons_of_mem _ hm))
        (fun hm => hx' (List.mem_cons_of_mem _ hm)) h.2
      exact ⟨by rw [h.1], hz⟩

/-- Hashes and ids have no dash. -/
theorem not_mem_of_isLowerHex {s : String} (h : isLowerHex s = true) : '-' ∉ s.toList := by
  unfold isLowerHex at h
  split at h
  next digits hs =>
    rw [hs]
    rw [List.all_eq_true] at h
    simp only [List.mem_cons, not_or]
    exact ⟨by decide, by decide, fun hm => absurd (h _ hm) (by decide)⟩
  next => cases h

theorem not_mem_cacheable {method : String} (h : method ∈ cacheableMethods) :
    '-' ∉ method.toList := by
  simp only [cacheableMethods, List.mem_cons, List.not_mem_nil, or_false] at h
  rcases h with rfl | rfl <;> decide

/-- A cacheable method is not the chain ID of a pin. -/
theorem ne_of_isLowerHex {method s : String} (h : method ∈ cacheableMethods)
    (hs : isLowerHex s = true) : method.toList ≠ s.toList := by
  intro heq
  rw [isLowerHex, ← heq] at hs
  simp only [cacheableMethods, List.mem_cons, List.not_mem_nil, or_false] at h
  rcases h with rfl | rfl <;> exact absurd hs (by decide)

theorem RpcIdentity.ext {a b : RpcIdentity} (hchain : a.chainId = b.chainId)
    (hgenesis : a.genesisHash = b.genesisHash) : a = b := by
  cases a
  cases b
  cases hchain
  cases hgenesis
  rfl

theorem not_mem_networkName (network : NetworkName) : '-' ∉ network.text.toList := by
  cases network <;> decide

theorem toList_cacheKey (network : NetworkName) (identity : Option RpcIdentity)
    (method params : String) : (cacheKey network identity method params).toList =
      network.text.toList ++ '-' :: match identity with
        | none => method.toList ++ '-' :: params.toList
        | some identity => identity.chainId.toList ++ '-' :: (identity.genesisHash.toList ++
            '-' :: (method.toList ++ '-' :: params.toList)) := by
  cases identity <;> simp [cacheKey, toString, String.toList_append]

/-- The key tells network, identity, method and params. -/
theorem cacheKey_injective {network network' : NetworkName}
    {identity identity' : Option RpcIdentity}
    {method method' params params' : String} (hmethod : method ∈ cacheableMethods)
    (hmethod' : method' ∈ cacheableMethods)
    (h : cacheKey network identity method params = cacheKey network' identity' method' params') :
    network = network' ∧ identity = identity' ∧ method = method' ∧ params = params' := by
  have h := congrArg String.toList h
  rw [toList_cacheKey, toList_cacheKey] at h
  obtain ⟨hnetwork, h⟩ := cut_unique (not_mem_networkName network) (not_mem_networkName network') h
  refine ⟨NetworkName.text_injective (String.toList_inj.1 hnetwork), ?_⟩
  have hm := not_mem_cacheable hmethod
  have hm' := not_mem_cacheable hmethod'
  cases identity with
  | none =>
    cases identity' with
    | none =>
      obtain ⟨hmethods, hparams⟩ := cut_unique hm hm' h
      exact ⟨rfl, String.toList_inj.1 hmethods, String.toList_inj.1 hparams⟩
    | some i' =>
      obtain ⟨hid, -⟩ := cut_unique hm (not_mem_of_isLowerHex i'.chainId_hex) h
      exact absurd hid (ne_of_isLowerHex hmethod i'.chainId_hex)
  | some i =>
    cases identity' with
    | none =>
      obtain ⟨hid, -⟩ := cut_unique (not_mem_of_isLowerHex i.chainId_hex) hm' h
      exact absurd hid.symm (ne_of_isLowerHex hmethod' i.chainId_hex)
    | some i' =>
      obtain ⟨hchain, h⟩ := cut_unique (not_mem_of_isLowerHex i.chainId_hex)
        (not_mem_of_isLowerHex i'.chainId_hex) h
      obtain ⟨hgenesis, h⟩ := cut_unique (not_mem_of_isLowerHex i.genesisHash_hex)
        (not_mem_of_isLowerHex i'.genesisHash_hex) h
      obtain ⟨hmethods, hparams⟩ := cut_unique hm hm' h
      refine ⟨?_, String.toList_inj.1 hmethods, String.toList_inj.1 hparams⟩
      rw [RpcIdentity.ext (String.toList_inj.1 hchain) (String.toList_inj.1 hgenesis)]

namespace RpcService

/-! ## What calls received -/

/-- An envelope an attempt of a call returned. -/
structure Received where
  call : ℕ
  network : NetworkName
  identity : Option RpcIdentity
  method : String
  params : String
  envelope : Json

/-- What a call receives by an event. -/
def received? (st : RpcService) : RpcEvent V → Option Received
  | .settle i answer =>
    match st.calls.get? i with
    | none => none
    | some call =>
      match call.stage, callResult answer with
      | .attempting _, .ok envelope =>
        some ⟨i, call.network, call.identity, call.method, call.params, envelope⟩
      | _, _ => none
  | _ => none

variable (cfg : RpcConfig) (st : RpcService)

/-- What the calls of a run received, oldest first. -/
def received (events : List (RpcEvent V)) : List Received :=
  Runs.collect (step cfg) received? st events

/-- The envelope is error-free with the result, and of a cacheable call with the key. -/
structure Received.Stores (r : Received) (key : String) (result : Json) : Prop where
  cacheable : r.method ∈ cacheableMethods
  key : key = cacheKey r.network r.identity r.method r.params
  result : resultOf r.envelope = some result

/-- A call is answered by an attempt of its own. -/
structure Direct (events : List (RpcEvent V)) (i : ℕ) (response : Json) : Prop where
  contacted : ∃ url, (i, url) ∈ (Runs.run (step cfg) st events).contacted
  received : ∃ r ∈ received cfg st events, r.call = i ∧ r.envelope = response

/-- A call of `executeRPC` is answered from what an earlier call of the run received. -/
structure Served (before : List (RpcEvent V)) (now : ℕ) (network : NetworkName) (method : String)
    (params : V) (id : RpcId) (response : Json) : Prop where
  cacheable : method ∈ cacheableMethods
  ready : (Runs.run (step cfg) st before).monitor.readyEndpointsForAttempt cfg.health now
    network ≠ []
  earlier : ∃ r ∈ received cfg st before, ∃ result, resultOf r.envelope = some result ∧
    response = cachedResponse id result ∧ r.network = network ∧
    r.identity = (Runs.run (step cfg) st before).monitor.expectedIdentities network ∧
    r.method = method ∧ some r.params = paramsText params

/-- The call of the run that got the number is answered from the cache. -/
def FromCache (events : List (RpcEvent V)) (i : ℕ) (response : Json) : Prop :=
  ∃ before now text method params id clientKey after network,
    events = before ++ .execute now text method params id clientKey :: after ∧
    (Runs.run (step cfg) st before).next = i ∧ isNetworkName text = some network ∧
    Served cfg st before now network method params id response

variable {cfg st}

/-! ## Steps -/

/-- A call under way has contacted an upstream. -/
def Reached (st : RpcService) : Prop :=
  ∀ i call, st.calls.get? i = some call → ∃ url, (i, url) ∈ st.contacted

/-- A step that answers no call with a result and caches nothing. -/
structure Kept (st st' : RpcService) : Prop where
  cache : ∀ key result, st'.cache.get? key = some result → st.cache.get? key = some result
  contacted : ∀ e ∈ st.contacted, e ∈ st'.contacted
  replies : ∀ i response, (i, .ok response) ∈ st'.replies → (i, .ok response) ∈ st.replies
  reached : Reached st → Reached st'

namespace Kept

omit [Unknown V] in
theorem refl (st : RpcService) : Kept st st :=
  ⟨fun _ _ h => h, fun _ h => h, fun _ _ h => h, fun h => h⟩

theorem trans {st st' st'' : RpcService} (h : Kept st st') (h' : Kept st' st'') : Kept st st'' where
  cache key result hget := h.cache key result (h'.cache key result hget)
  contacted e he := h'.contacted e (h.contacted e he)
  replies i response hmem := h.replies i response (h'.replies i response hmem)
  reached hreached := h'.reached (h.reached hreached)

/-- Fields that no call reads. -/
theorem of_eq {st st' : RpcService} (hcache : st'.cache = st.cache)
    (hcontacted : st'.contacted = st.contacted) (hreplies : st'.replies = st.replies)
    (hcalls : st'.calls = st.calls) : Kept st st' where
  cache _ _ h := hcache ▸ h
  contacted _ h := hcontacted ▸ h
  replies _ _ h := hreplies ▸ h
  reached h i call hget := hcontacted ▸ h i call (hcalls ▸ hget)

theorem replied (st : RpcService) (i : ℕ) (failure : RpcFailure) :
    Kept st (st.reply i (.error failure)) where
  cache _ _ h := h
  contacted _ h := h
  replies i' response h := by
    rcases List.mem_append.1 h with h | h
    · exact h
    · cases List.mem_singleton.1 h
  reached h i' call hget := by
    rw [reply, JsMap.get?_delete] at hget
    split at hget
    · cases hget
    · exact h i' call hget

/-- An attempt caches nothing. -/
theorem attempt (st : RpcService) (i : ℕ) (call : RpcCall) : Kept st (st.attempt cfg i call) := by
  unfold RpcService.attempt
  split
  · exact refl st
  next url order horder =>
    generalize admitCall cfg st.slots call.clientKey = out
    obtain ⟨result, slots⟩ := out
    cases result with
    | error err =>
      have hslots : Kept st { st with slots } := of_eq rfl rfl rfl rfl
      exact hslots.trans (replied _ _ _)
    | ok slot =>
      refine ⟨fun _ _ h => h, fun e h => List.mem_append_left _ h, fun _ _ h => h,
        fun h i' call' hget => ?_⟩
      rw [JsMap.get?_set] at hget
      split at hget
      next hi => exact ⟨url, hi ▸ List.mem_append_right _ (List.mem_singleton_self _)⟩
      next =>
        obtain ⟨url', hmem⟩ := h i' call' hget
        exact ⟨url', List.mem_append_left _ hmem⟩

end Kept

/-- The cache answers the call that an event starts. -/
structure Hit (cfg : RpcConfig) (st : RpcService) (now : ℕ) (network : NetworkName)
    (method : String) (params : V) (id : RpcId) (result : Json) (st' : RpcService) : Prop where
  cacheable : method ∈ cacheableMethods
  ready : st.monitor.readyEndpointsForAttempt cfg.health now network ≠ []
  cached : ∃ text, paramsText params = some text ∧
    st.cache.get? (cacheKey network (st.monitor.expectedIdentities network) method text) =
      some result
  after : st' = { st with next := st.next + 1 }.reply st.next (.ok (cachedResponse id result))

/-- A new call is a hit of the cache, or keeps everything. -/
theorem execute_cases (now : ℕ) (text method : String) (params : V) (id : RpcId)
    (clientKey : Option String) :
    Kept st (st.execute cfg now text method params id clientKey) ∨
      ∃ network result, isNetworkName text = some network ∧
        Hit cfg st now network method params id result
          (st.execute cfg now text method params id clientKey) := by
  have hnext : Kept st { st with next := st.next + 1 } := .of_eq rfl rfl rfl rfl
  unfold execute
  dsimp only
  split
  · exact .inl (hnext.trans (.replied _ _ _))
  next network hnetwork =>
    split
    · exact .inl (hnext.trans (.replied _ _ _))
    next hready =>
      split
      · exact .inl (hnext.trans (.replied _ _ _))
      next paramsText' hparams =>
        split
        next result hcached =>
          split at hcached
          next hmethod =>
            refine .inr ⟨network, result, hnetwork, List.contains_iff_mem.1 hmethod, ?_,
              ⟨paramsText', hparams, hcached⟩, rfl⟩
            rintro hnil
            rw [hnil] at hready
            exact hready rfl
          next => cases hcached
        · refine .inl ?_
          split
          · exact hnext.trans (.replied _ _ _)
          · exact hnext.trans (.attempt _ _ _)

/-- An attempt answers its call. -/
structure Answered (st : RpcService) (i : ℕ) (call : RpcCall) (response : Json)
    (st' : RpcService) : Prop where
  under : st.calls.get? i = some call
  cache : ∀ key result, st'.cache.get? key = some result → st.cache.get? key = some result ∨
    call.method ∈ cacheableMethods ∧ key = call.cacheKey ∧ resultOf response = some result
  contacted : st'.contacted = st.contacted
  replies : st'.replies = st.replies ++ [(i, .ok response)]
  calls : st'.calls = st.calls.delete i

/-- An answer may be cached, as the answer of this very call. -/
theorem settle_cases {i : ℕ} {call : RpcCall} (hcall : st.calls.get? i = some call) (slot : ℕ)
    (answer : Fetched) :
    Kept st (st.settle i call slot answer) ∨ ∃ response, callResult answer = .ok response ∧
      Answered st i call response (st.settle i call slot answer) := by
  have hslots : Kept st { st with slots := st.slots.release slot } := .of_eq rfl rfl rfl rfl
  unfold settle
  dsimp only
  split
  next response hanswer =>
    refine .inr ⟨response, hanswer, ?_⟩
    split
    next result hresult =>
      split
      next hmethod =>
        refine ⟨hcall, fun key result' hget => ?_, rfl, rfl, rfl⟩
        rw [show (RpcService.reply _ i (.ok response)).cache = st.cache.set call.cacheKey result
          from rfl, JsMap.get?_set] at hget
        split at hget
        next hkey =>
          cases hget
          exact .inr ⟨List.contains_iff_mem.1 hmethod, hkey, hresult⟩
        next => exact .inl hget
      next => exact ⟨hcall, fun _ _ h => .inl h, rfl, rfl, rfl⟩
    next => exact ⟨hcall, fun _ _ h => .inl h, rfl, rfl, rfl⟩
  next err hanswer =>
    refine .inl ?_
    split
    · exact hslots.trans (.replied _ _ _)
    · refine ⟨fun _ _ h => h, fun _ h => h, fun _ _ h => h, fun h i' call' hget => ?_⟩
      rw [JsMap.get?_set] at hget
      split at hget
      next hi => exact hi ▸ h i call hcall
      next => exact h i' call' hget

/-! ## Runs -/

/-- What a run knows of the cache and of the replies. -/
structure Isolated (cfg : RpcConfig) (st₀ : RpcService) (events : List (RpcEvent V)) : Prop where
  stored : ∀ key result, (Runs.run (step cfg) st₀ events).cache.get? key = some result →
    ∃ r ∈ received cfg st₀ events, r.Stores key result
  reached : Reached (Runs.run (step cfg) st₀ events)
  answered : ∀ i response, (i, .ok response) ∈ (Runs.run (step cfg) st₀ events).replies →
    Direct cfg st₀ events i response ∨ FromCache cfg st₀ events i response

variable {st₀ : RpcService} {events : List (RpcEvent V)} {event : RpcEvent V}

theorem received_snoc : received cfg st₀ (events ++ [event]) =
    received cfg st₀ events ++ (received? (Runs.run (step cfg) st₀ events) event).toList :=
  Runs.collect_snoc _ _ _ _

theorem FromCache.snoc {i : ℕ} {response : Json} (h : FromCache cfg st₀ events i response) :
    FromCache cfg st₀ (events ++ [event]) i response := by
  obtain ⟨before, now, text, method, params, id, clientKey, after, network, rfl, h⟩ := h
  exact ⟨before, now, text, method, params, id, clientKey, after ++ [event], network, by simp, h⟩

/-- What was answered directly remains so. -/
theorem Direct.snoc {i : ℕ} {response : Json} (h : Direct cfg st₀ events i response)
    (hcontacted : ∀ e ∈ (Runs.run (step cfg) st₀ events).contacted,
      e ∈ (Runs.run (step cfg) st₀ (events ++ [event])).contacted) :
    Direct cfg st₀ (events ++ [event]) i response := by
  obtain ⟨⟨url, hurl⟩, r, hr, hanswer⟩ := h
  refine ⟨⟨url, hcontacted _ hurl⟩, r, ?_, hanswer⟩
  rw [received_snoc]
  exact List.mem_append_left _ hr

/-- Isolation lasts while nothing is cached or served. -/
theorem Isolated.kept (h : Isolated cfg st₀ events)
    (hkept : Kept (Runs.run (step cfg) st₀ events) (Runs.run (step cfg) st₀ (events ++ [event]))) :
    Isolated cfg st₀ (events ++ [event]) where
  stored key result hget := by
    obtain ⟨r, hr, hstores⟩ := h.stored key result (hkept.cache key result hget)
    rw [received_snoc]
    exact ⟨r, List.mem_append_left _ hr, hstores⟩
  reached := hkept.reached h.reached
  answered i response hmem :=
    (h.answered i response (hkept.replies i response hmem)).imp
      (fun hdirect => hdirect.snoc hkept.contacted) FromCache.snoc

/-- A call the cache answers is answered from what an earlier call received. -/
theorem Isolated.hit (h : Isolated cfg st₀ events) {now : ℕ} {text method : String} {params : V}
    {id : RpcId} {clientKey : Option String} {network : NetworkName} {result : Json}
    (hnetwork : isNetworkName text = some network)
    (hhit : Hit cfg (Runs.run (step cfg) st₀ events) now network method params id result
      (Runs.run (step cfg) st₀ (events ++ [.execute now text method params id clientKey]))) :
    Isolated cfg st₀ (events ++ [.execute now text method params id clientKey]) := by
  have hafter := hhit.after
  obtain ⟨params', hparams, hcached⟩ := hhit.cached
  obtain ⟨r, hr, hstores⟩ := h.stored _ _ hcached
  obtain ⟨rfl, hidentity, hmethod, hparams'⟩ :=
    cacheKey_injective hhit.cacheable hstores.cacheable hstores.key
  refine ⟨fun key result hget => ?_, fun i call hget => ?_, fun i response hmem => ?_⟩
  · rw [hafter] at hget
    obtain ⟨r, hr, hstores⟩ := h.stored key result hget
    rw [received_snoc]
    exact ⟨r, List.mem_append_left _ hr, hstores⟩
  · rw [hafter, reply, JsMap.get?_delete] at hget
    split at hget
    · cases hget
    · rw [hafter]
      exact h.reached i call hget
  · rw [hafter] at hmem
    rcases List.mem_append.1 hmem with hmem | hmem
    · refine (h.answered i response hmem).imp (fun hdirect => hdirect.snoc fun e he => ?_)
        FromCache.snoc
      rw [hafter]
      exact he
    · obtain ⟨rfl, rfl⟩ : i = (Runs.run (step cfg) st₀ events).next ∧
          response = cachedResponse id result := by
        simpa using List.mem_singleton.1 hmem
      refine .inr ⟨events, now, text, method, params, id, clientKey, [], r.network, rfl, rfl,
        hnetwork, hhit.cacheable, hhit.ready, r, hr, result, hstores.result, rfl, rfl,
        hidentity.symm, hmethod.symm, ?_⟩
      rw [← hparams', hparams]

/-- A call an attempt answers gets what it received. -/
theorem Isolated.answer (h : Isolated cfg st₀ events) {i : ℕ} {answer : Fetched} {call : RpcCall}
    {slot : ℕ} {response : Json} (hstage : call.stage = .attempting slot)
    (hanswer : callResult answer = .ok response)
    (hanswered : Answered (Runs.run (step cfg) st₀ events) i call response
      (Runs.run (step cfg) st₀ (events ++ [.settle i answer]))) :
    Isolated cfg st₀ (events ++ [.settle i answer]) := by
  have hnew : (⟨i, call.network, call.identity, call.method, call.params, response⟩ : Received) ∈
      received cfg st₀ (events ++ [.settle i answer]) := by
    rw [received_snoc]
    refine List.mem_append_right _ ?_
    simp only [received?, hanswered.under, hstage, hanswer, Option.toList_some,
      List.mem_singleton]
  have hold : ∀ r ∈ received cfg st₀ events,
      r ∈ received cfg st₀ (events ++ [.settle i answer]) := fun r hr => by
    rw [received_snoc]
    exact List.mem_append_left _ hr
  refine ⟨fun key result hget => ?_, fun i' call' hget => ?_, fun i' response' hmem => ?_⟩
  · rcases hanswered.cache key result hget with hget | ⟨hmethod, hkey, hresult⟩
    · obtain ⟨r, hr, hstores⟩ := h.stored key result hget
      exact ⟨r, hold r hr, hstores⟩
    · exact ⟨_, hnew, hmethod, hkey, hresult⟩
  · rw [hanswered.calls, JsMap.get?_delete] at hget
    split at hget
    · cases hget
    · rw [hanswered.contacted]
      exact h.reached i' call' hget
  · rw [hanswered.replies] at hmem
    rcases List.mem_append.1 hmem with hmem | hmem
    · exact (h.answered i' response' hmem).imp
        (fun hdirect => hdirect.snoc fun e he => hanswered.contacted ▸ he) FromCache.snoc
    · obtain ⟨rfl, rfl⟩ : i' = i ∧ response' = response := by
        simpa using List.mem_singleton.1 hmem
      refine .inl ⟨?_, _, hnew, rfl, rfl⟩
      rw [hanswered.contacted]
      exact h.reached i' call hanswered.under

/-- Every event keeps the calls isolated. -/
theorem isolated_step (h : Isolated cfg st₀ events) : Isolated cfg st₀ (events ++ [event]) := by
  have hrun : Runs.run (step cfg) st₀ (events ++ [event]) =
      step cfg (Runs.run (step cfg) st₀ events) event :=
    Runs.run_snoc _ _ _
  have hkeep : ∀ st', step cfg (Runs.run (step cfg) st₀ events) event = st' →
      Kept (Runs.run (step cfg) st₀ events) st' → Isolated cfg st₀ (events ++ [event]) := by
    rintro _ rfl hkept
    refine h.kept ?_
    rw [hrun]
    exact hkept
  cases event with
  | monitor => exact hkeep _ rfl (.of_eq rfl rfl rfl rfl)
  | execute now text method params id clientKey =>
    rcases @execute_cases V _ cfg (Runs.run (step cfg) st₀ events) now text method params id
      clientKey with hkept | ⟨network, result, hnetwork, hhit⟩
    · exact hkeep _ rfl hkept
    · have hhit : Hit cfg (Runs.run (step cfg) st₀ events) now network method params id result
          (Runs.run (step cfg) st₀
            (events ++ [.execute now text method params id clientKey])) := by
        rw [hrun]
        exact hhit
      exact h.hit hnetwork hhit
  | settle i answer =>
    cases hcall : (Runs.run (step cfg) st₀ events).calls.get? i with
    | none => exact hkeep _ (by simp only [step, hcall]) (.refl _)
    | some call =>
      cases hstage : call.stage with
      | retrying => exact hkeep _ (by simp only [step, hcall, hstage]) (.refl _)
      | attempting slot =>
        rcases settle_cases hcall slot answer with hkept | ⟨response, hanswer, hanswered⟩
        · exact hkeep _ (by simp only [step, hcall, hstage]) hkept
        · refine h.answer hstage hanswer ?_
          rw [hrun]
          simp only [step, hcall, hstage]
          exact hanswered
  | retry i =>
    cases hcall : (Runs.run (step cfg) st₀ events).calls.get? i with
    | none => exact hkeep _ (by simp only [step, hcall]) (.refl _)
    | some call =>
      cases hstage : call.stage with
      | attempting => exact hkeep _ (by simp only [step, hcall, hstage]) (.refl _)
      | retrying =>
        exact hkeep (attempt cfg _ i call) (by simp only [step, hcall, hstage]) (.attempt _ _ _)
  | expire key =>
    refine hkeep _ rfl ⟨fun key' result hget => ?_, fun _ h => h, fun _ _ h => h, fun h => h⟩
    simp only [step, JsMap.get?_delete] at hget
    split at hget
    · cases hget
    · exact hget

/-- In every run, a call is answered by an attempt of its own, or from what an earlier call
with the same network, pin, method and params received without an error, under its own id
and while its network has a ready endpoint. -/
theorem cache_isolation (cfg : RpcConfig) (now : ℕ)
    (expectedIdentities : NetworkName → Option RpcIdentity) (events : List (RpcEvent V)) (i : ℕ)
    (response : Json)
    (hreply : (i, .ok response) ∈
      (Runs.run (step cfg) (init now cfg expectedIdentities) events).replies) :
    Direct cfg (init now cfg expectedIdentities) events i response ∨
      FromCache cfg (init now cfg expectedIdentities) events i response := by
  suffices hisolated : Isolated cfg (init now cfg expectedIdentities) events from
    hisolated.answered i response hreply
  clear hreply
  induction events using List.reverseRecOn with
  | nil => exact ⟨nofun, nofun, nofun⟩
  | append_singleton events event ih => exact isolated_step ih

/-- An endpoint is polled, a call of one client is answered by it, and the next call, of
another client, by the cache. -/
def askedTwice : List (RpcEvent String) :=
  let envelope := fun id result => Json.object [("jsonrpc", .string "2.0"), ("id", id),
    ("result", result)]
  let answer := fun method result => Fetched.responded 200 (.ok (envelope (.string method) result))
  [.monitor (.begin .testnet 0 5), .monitor (.respond .testnet 0 200 7 7),
    .monitor (.finish .testnet 0
      { height := .ok (envelope (.number 5) (.string "0x2a"))
        chainId := answer "" .null
        genesis := answer "" .null
        syncing := answer "qrl_syncing" (.bool false)
        block := answer "qrl_getBlockByNumber" (.object [("number", .string "0x2a"),
          ("timestamp", .string "0x0")]) } (.error "") 9 9 9),
    .execute 10 "testnet" "qrl_chainId" "params" (.number 1) (some "a"),
    .settle 0 (.responded 200 (.ok (envelope (.number 1) (.string "0x1a")))),
    .execute 11 "testnet" "qrl_chainId" "params" (.number 2) (some "b")]

/-- One endpoint, no pins, and room for one upstream call. -/
def oneEndpoint : RpcConfig where
  health := .unset
  endpoints _ := ["http://a"]
  maxResponseBytes := 1
  maxConcurrent := 1
  maxConcurrentPerClient := 1
  maxInflightBytes := 1

theorem cache_isolation_asked_twice :
    Direct oneEndpoint (init 0 oneEndpoint fun _ => none) askedTwice 1
      (cachedResponse (.number 2) (.string "0x1a")) ∨
    FromCache oneEndpoint (init 0 oneEndpoint fun _ => none) askedTwice 1
      (cachedResponse (.number 2) (.string "0x1a")) :=
  cache_isolation oneEndpoint 0 (fun _ => none) askedTwice 1 _
    (List.mem_of_getElem? (show _[1]? = some _ from rfl))

end RpcService

end QrlBackend
