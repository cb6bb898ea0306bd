import QrlBackend.RpcVetting

/-!
# Refusals of the RPC routes

What the middleware says to a request that it stops. A `Refusal` is that of one check : this check
fails, every earlier one has passed, and the answer is the check's own. Every request that does
not become a call is answered so (`refusal_of_vet`).

`Misfit` says what is wrong with the `params` of a method, and `FilterFault` with a log filter.
The checks of `rpcParamsValidator` come in the order of these constructors.
-/

set_option autoImplicit false

namespace QrlBackend

/-- The body of an answer of the central error handler. -/
def errorBody (message : String) : Json :=
  .object [("error", .object [("message", .string message)])]

/-! ## What the checks find -/

/-- The blocks are chosen in a way that is let through. -/
def BlocksFit (client : List (String × Json)) : Prop :=
  BlockChoice ['x', 'X'] (nonNull? client "blockHash") (nonNull? client "fromBlock")
    (nonNull? client "toBlock") ∧ ∀ value, nonNull? client "blockHash" = some value →
      client.lookup "fromBlock" = none ∧ client.lookup "toBlock" = none

/-- What is wrong with a log filter. -/
inductive FilterFault (shake256 : String → ℕ → List UInt8) (client : List (String × Json)) :
    String → Prop
  | keys (h : ∃ field ∈ client, field.1 ∉ getLogsFilterKeys) :
      FilterFault shake256 client "Invalid params: unknown or non-canonical filter key"
  | blocks {message : String} (hkeys : ∀ field ∈ client, field.1 ∈ getLogsFilterKeys)
      (h : ¬BlocksFit client) (hmessage : message ∈
        ["Invalid params: blockHash must be a 32-byte hash and cannot be combined with a range",
          "Invalid params: invalid block tag",
          "Invalid params: qrl_getLogs from genesis is not allowed; supply a recent fromBlock",
          "Invalid params: qrl_getLogs block range exceeds 5000",
          "Invalid params: numeric fromBlock requires a numeric toBlock"]) :
      FilterFault shake256 client message
  | addresses {message : String} {value : Json}
      (hkeys : ∀ field ∈ client, field.1 ∈ getLogsFilterKeys) (hblocks : BlocksFit client)
      (hvalue : nonNull? client "address" = some value) (h : ¬Addresses shake256 value)
      (hmessage : message ∈ ["Invalid params: too many addresses (max 10)",
        "Invalid params: QRL addresses must match " ++ qrlAddressFormat]) :
      FilterFault shake256 client message
  | topics {value : Json} (hkeys : ∀ field ∈ client, field.1 ∈ getLogsFilterKeys)
      (hblocks : BlocksFit client)
      (haddresses : ∀ value, nonNull? client "address" = some value → Addresses shake256 value)
      (hvalue : nonNull? client "topics" = some value)
      (h : ¬∃ topics, value = .array topics ∧ topics.length ≤ 4 ∧
        ∀ topic ∈ topics, Topic ['x', 'X'] topic) :
      FilterFault shake256 client
        "Invalid params: log topics must be null or 0x-prefixed 64-byte values"

/-- `params` that are an array, or not there. -/
inductive Listed : Option Json → Prop
  | absent : Listed none
  | null : Listed (some .null)
  | array (items : List Json) : Listed (some (.array items))

/-- The first of the `params` is no text. -/
def NoText (value : Option Json) : Prop :=
  Listed value ∧ ∀ s rest, value ≠ some (.array (.string s :: rest))

/-- What is wrong with the `params` of a method. -/
inductive Misfit (shake256 : String → ℕ → List UInt8) (method : String) :
    Option Json → String → Prop
  | unlisted {value : Option Json} (h : ¬Listed value) :
      Misfit shake256 method value "Invalid params: must be an array"
  | noAddress {value : Option Json}
      (hmethod : method ∈ ["qrl_getBalance", "qrl_getTransactionCount", "qrl_getCode"])
      (h : NoText value) : Misfit shake256 method value "Invalid params: address required"
  | address {address : String} {rest : List Json}
      (hmethod : method ∈ ["qrl_getBalance", "qrl_getTransactionCount", "qrl_getCode"])
      (h : ¬QrlAddress shake256 address) :
      Misfit shake256 method (some (.array (.string address :: rest)))
        "Invalid params: invalid address format"
  | noTransaction {value : Option Json} (hmethod : method = "qrl_sendRawTransaction")
      (h : NoText value) :
      Misfit shake256 method value "Invalid params: signed transaction required"
  | transaction {tx : String} {rest : List Json} (hmethod : method = "qrl_sendRawTransaction")
      (h : ¬∃ bytes, HexWord ['x'] (bytes + 1) tx) :
      Misfit shake256 method (some (.array (.string tx :: rest)))
        "Invalid params: transaction must be hex-encoded"
  | someParams {item : Json} {rest : List Json} (hmethod : method = "qrl_maxPriorityFeePerGas") :
      Misfit shake256 method (some (.array (item :: rest))) "Invalid params: no params expected"
  | notOneHash {value : Option Json} (hmethod : method = "qrl_getTransactionByHash")
      (hlisted : Listed value) (h : ∀ item, value ≠ some (.array [item])) :
      Misfit shake256 method value "Invalid params: exactly one transaction hash required"
  | noHash {value : Option Json}
      (hmethod : method ∈ ["qrl_getTransactionReceipt", "qrl_getTransactionByHash"])
      (hone : method = "qrl_getTransactionByHash" → ∃ item, value = some (.array [item]))
      (h : NoText value) :
      Misfit shake256 method value "Invalid params: transaction hash required"
  | hash {hash : String} {rest : List Json}
      (hmethod : method ∈ ["qrl_getTransactionReceipt", "qrl_getTransactionByHash"])
      (hone : method = "qrl_getTransactionByHash" → rest = []) (h : ¬HexWord ['x'] 32 hash) :
      Misfit shake256 method (some (.array (.string hash :: rest)))
        "Invalid params: invalid transaction hash format"
  | noObject {value : Option Json} (hmethod : method ∈ ["qrl_call", "qrl_estimateGas"])
      (hlisted : Listed value) (h : ∀ fields rest, value ≠ some (.array (.object fields :: rest))) :
      Misfit shake256 method value "Invalid params: transaction object required"
  | notOneFilter {value : Option Json} (hmethod : method = "qrl_getLogs")
      (hlisted : Listed value) (h : ∀ client, value ≠ some (.array [.object client])) :
      Misfit shake256 method value "Invalid params: exactly one filter object required"
  | filter {client : List (String × Json)} {message : String} (hmethod : method = "qrl_getLogs")
      (h : FilterFault shake256 client message) :
      Misfit shake256 method (some (.array [.object client])) message

/-- A request that gets as far as the checks of the router. -/
structure ReachesRouter (app : RpcApp) (post : RpcPost) : Prop where
  admitted : post.admitted = true
  parsed : ∀ err, post.body ≠ .rejected err
  origin : corsAllows app.allowedOrigins post.origin = true

/-- The answer of the check that stops a request. -/
inductive Refusal (app : RpcApp) (post : RpcPost) : HttpResponse → Prop
  /-- The body is not read yet, so the id is null. -/
  | rateLimited (h : post.admitted = false) : Refusal app post
      (sendRpcError ⟨429, .null, -32005, "Rate limit exceeded. Please try again later."⟩)
  /-- The message of a parser's error says nothing of the body. -/
  | unparsed {err : CaughtError} {message : String} (hadmitted : post.admitted = true)
      (h : post.body = .rejected err) (hmessage : err.fromParser = true → message ∈
        ["Request body too large", "Invalid request body", "Internal Server Error"]) :
      Refusal app post ⟨statusOf err, errorBody message⟩
  | origin (hadmitted : post.admitted = true) (hparsed : ∀ err, post.body ≠ .rejected err)
      (h : corsAllows app.allowedOrigins post.origin = false) :
      Refusal app post ⟨403, errorBody "Not allowed by CORS"⟩
  | batch (hreaches : ReachesRouter app post) {items : List Json}
      (h : post.body = .json (.array items)) :
      Refusal app post (sendRpcError
        ⟨400, .null, -32600, "Batch requests are not supported on this endpoint."⟩)
  | noMethod (hreaches : ReachesRouter app post)
      (hbatch : ∀ items, post.body ≠ .json (.array items))
      (h : ∀ method, post.body.value.field? "method" = some (.string method) → method = "") :
      Refusal app post (sendRpcError ⟨400, normalizeRpcId (post.body.value.field? "id"), -32600,
        "Invalid Request: missing or invalid method"⟩)
  | notAllowed (hreaches : ReachesRouter app post) {method : String}
      (hmethod : post.body.value.field? "method" = some (.string method)) (hne : method ≠ "")
      (h : method ∉ allowedRpcMethods) :
      Refusal app post (sendRpcError ⟨403, normalizeRpcId (post.body.value.field? "id"), -32601,
        "Method not allowed"⟩)
  | writeLimited (hreaches : ReachesRouter app post)
      (hmethod : post.body.value.field? "method" = some (.string "qrl_sendRawTransaction"))
      (h : post.writeAdmitted = false) :
      Refusal app post (sendRpcError ⟨429, normalizeRpcId (post.body.value.field? "id"), -32005,
        "Transaction rate limit exceeded. Please wait before sending more transactions."⟩)
  | params (hreaches : ReachesRouter app post) {method message : String}
      (hmethod : post.body.value.field? "method" = some (.string method))
      (hallowed : method ∈ allowedRpcMethods)
      (hwrite : method = "qrl_sendRawTransaction" → post.writeAdmitted = true)
      (h : Misfit app.shake256 method (post.body.value.field? "params") message) :
      Refusal app post (sendRpcError ⟨400, normalizeRpcId (post.body.value.field? "id"), -32602,
        message⟩)

/-! ## The checks of `params` -/

section

variable {shake256 : String → ℕ → List UInt8} {params : Option (List Json)} {value : Option Json}
  {method message : String}

/-- The `params` the validator cannot read are no list. -/
theorem paramsArray?_eq_none (h : paramsArray? value = none) : ¬Listed value := by
  intro hlisted
  cases hlisted <;> cases h

theorem listed_of_paramsArray? (h : paramsArray? value = some params) : Listed value := by
  rcases of_paramsArray? h with ⟨-, rfl | rfl⟩ | ⟨items, -, rfl⟩
  · exact .absent
  · exact .null
  · exact .array items

section

variable (hvalue : paramsArray? value = some params)

include hvalue

/-- Without a first text that it can read there is none. -/
theorem noText_of_firstString? (h : firstString? params = none) : NoText value := by
  refine ⟨listed_of_paramsArray? hvalue, ?_⟩
  rintro s rest rfl
  cases hvalue
  cases h

/-- The first text of the `params`, or the lack of one. -/
theorem firstString?_cases : NoText value ∧ firstString? params = none ∨
    ∃ s rest, value = some (.array (.string s :: rest)) ∧ firstString? params = some s := by
  cases hfirst : firstString? params with
  | none => exact .inl ⟨noText_of_firstString? hvalue hfirst, rfl⟩
  | some s =>
    obtain ⟨rest, hparams⟩ := firstString?_eq_some.1 hfirst
    exact .inr ⟨s, rest, value_of_cons hvalue hparams, rfl⟩

/-- What the address check refuses is no address, or not there. -/
theorem misfit_address
    (hmethod : method ∈ ["qrl_getBalance", "qrl_getTransactionCount", "qrl_getCode"])
    (h : addressRefusal shake256 params = some message) :
    Misfit shake256 method value message := by
  unfold addressRefusal at h
  rcases firstString?_cases hvalue with ⟨hnone, hfirst⟩ | ⟨address, rest, rfl, hfirst⟩
  · rw [hfirst] at h
    cases h
    exact .noAddress hmethod hnone
  · rw [hfirst] at h
    dsimp only at h
    split at h
    next haddress =>
      cases h
      rw [Bool.not_eq_true', ← Bool.not_eq_true, isQrlAddress_iff] at haddress
      exact .address hmethod haddress
    next => cases h

/-- What is refused as a transaction is no byte-aligned hex, or not there. -/
theorem misfit_rawTransaction (hmethod : method = "qrl_sendRawTransaction")
    (h : rawTransactionRefusal params = some message) : Misfit shake256 method value message := by
  unfold rawTransactionRefusal at h
  rcases firstString?_cases hvalue with ⟨hnone, hfirst⟩ | ⟨tx, rest, rfl, hfirst⟩
  · rw [hfirst] at h
    cases h
    exact .noTransaction hmethod hnone
  · rw [hfirst] at h
    dsimp only at h
    split at h
    next htx =>
      cases h
      rw [Bool.not_eq_true', ← Bool.not_eq_true, isByteAlignedHex_iff] at htx
      exact .transaction hmethod htx
    next => cases h

/-- Params are refused where there should be none. -/
theorem misfit_noParams (hmethod : method = "qrl_maxPriorityFeePerGas")
    (h : noParamsRefusal params = some message) : Misfit shake256 method value message := by
  unfold noParamsRefusal at h
  split at h
  next hsome =>
    cases h
    rcases of_paramsArray? hvalue with ⟨rfl, -⟩ | ⟨items, rfl, rfl⟩
    · cases hsome
    · cases items with
      | nil => cases hsome
      | cons item rest => exact .someParams hmethod
  next => cases h

/-- The params refused are not the one hash they should be. -/
theorem misfit_transactionHash
    (hmethod : method ∈ ["qrl_getTransactionReceipt", "qrl_getTransactionByHash"])
    (h : transactionHashRefusal params method = some message) :
    Misfit shake256 method value message := by
  unfold transactionHashRefusal at h
  split at h
  next hmany =>
    cases h
    refine .notOneHash hmany.1 (listed_of_paramsArray? hvalue) ?_
    rintro item rfl
    cases hvalue
    exact hmany.2 rfl
  next hone =>
    have hone : method = "qrl_getTransactionByHash" → ∃ item, value = some (.array [item]) := by
      intro hbyHash
      have hlength : params.map List.length = some 1 := by
        by_contra hne
        exact hone ⟨hbyHash, hne⟩
      obtain ⟨items, rfl, hitems⟩ := Option.map_eq_some_iff.1 hlength
      obtain ⟨item, rfl⟩ := List.length_eq_one_iff.1 hitems
      exact ⟨item, paramsArray?_eq_some.1 hvalue⟩
    rcases firstString?_cases hvalue with ⟨hnone, hfirst⟩ | ⟨hash, rest, rfl, hfirst⟩
    · rw [hfirst] at h
      cases h
      exact .noHash hmethod hone hnone
    · rw [hfirst] at h
      dsimp only at h
      split at h
      next hhash =>
        cases h
        rw [Bool.not_eq_true', ← Bool.not_eq_true, isHash_iff] at hhash
        refine .hash hmethod (fun hbyHash => ?_) hhash
        obtain ⟨item, hitem⟩ := hone hbyHash
        cases hitem
        rfl
      next => cases h

theorem misfit_transactionObject (hmethod : method ∈ ["qrl_call", "qrl_estimateGas"])
    (h : transactionObjectRefusal params = some message) :
    Misfit shake256 method value message := by
  unfold transactionObjectRefusal at h
  split at h
  · cases h
  next hobject =>
    cases h
    refine .noObject hmethod (listed_of_paramsArray? hvalue) ?_
    rintro fields rest rfl
    cases hvalue
    exact hobject fields rest rfl

/-- The checks of the methods other than `qrl_getLogs`. -/
theorem misfit_of_methodRefusal (h : methodRefusal shake256 method params = some message) :
    Misfit shake256 method value message := by
  unfold methodRefusal at h
  split at h
  next hmethod => exact misfit_address hvalue hmethod h
  next =>
    split at h
    next hmethod => exact misfit_rawTransaction hvalue hmethod h
    next =>
      split at h
      next hmethod => exact misfit_noParams hvalue hmethod h
      next =>
        split at h
        next hmethod => exact misfit_transactionHash hvalue hmethod h
        next =>
          split at h
          next hmethod => exact misfit_transactionObject hvalue hmethod h
          next => cases h

end

/-! ### The filter of `qrl_getLogs` -/

variable {client : List (String × Json)}

/-- A chain of checks refuses by the first that fails. -/
theorem refusal_eq_some {c : Prop} [Decidable c] {text : String} {rest : Option String}
    (h : (if c then some text else rest) = some message) :
    message = text ∨ rest = some message := by
  split at h
  · exact .inl (Option.some.inj h).symm
  · exact .inr h

theorem keysRefusal_message (h : keysRefusal client = some message) :
    message = "Invalid params: unknown or non-canonical filter key" := by
  rcases refusal_eq_some h with rfl | h
  · rfl
  · cases h

/-- The check of the blocks has one of five reasons. -/
theorem blocksRefusal_message (h : blocksRefusal client = some message) :
    message ∈
      ["Invalid params: blockHash must be a 32-byte hash and cannot be combined with a range",
        "Invalid params: invalid block tag",
        "Invalid params: qrl_getLogs from genesis is not allowed; supply a recent fromBlock",
        "Invalid params: qrl_getLogs block range exceeds 5000",
        "Invalid params: numeric fromBlock requires a numeric toBlock"] := by
  unfold blocksRefusal at h
  split at h
  · rcases refusal_eq_some h with rfl | h
    · decide
    · cases h
  · rcases refusal_eq_some h with rfl | h
    · decide
    · rcases refusal_eq_some h with rfl | h
      · decide
      · rcases refusal_eq_some h with rfl | h
        · decide
        · rcases refusal_eq_some h with rfl | h
          · decide
          · cases h

theorem addressesRefusal_message (h : addressesRefusal shake256 client = some message) :
    message ∈ ["Invalid params: too many addresses (max 10)",
      "Invalid params: QRL addresses must match " ++ qrlAddressFormat] := by
  unfold addressesRefusal at h
  split at h
  · cases h
  · rcases refusal_eq_some h with rfl | h
    · decide
    · rcases refusal_eq_some h with rfl | h
      · decide
      · cases h

theorem topicsRefusal_message (h : topicsRefusal client = some message) :
    message = "Invalid params: log topics must be null or 0x-prefixed 64-byte values" := by
  unfold topicsRefusal at h
  split at h
  · cases h
  · rcases refusal_eq_some h with rfl | h
    · rfl
    · cases h

/-- A check that gives a message does not pass. -/
theorem not_of_refusal {refusal : Option String} {p : Prop} (hiff : refusal = none ↔ p)
    (h : refusal = some message) : ¬p := by
  intro hp
  rw [hiff.2 hp] at h
  cases h

/-- The fault of a filter is the one it is refused for. -/
theorem filterFault_of_filterRefusal (h : filterRefusal shake256 client = some message) :
    FilterFault shake256 client message := by
  unfold filterRefusal at h
  rcases Option.or_eq_some_iff.1 h with hkeys | ⟨hkeys, h⟩
  · have hnot := not_of_refusal (keysRefusal_eq_none client) hkeys
    push Not at hnot
    rw [keysRefusal_message hkeys]
    exact .keys hnot
  · have hkeys := (keysRefusal_eq_none client).1 hkeys
    rcases Option.or_eq_some_iff.1 h with hblocks | ⟨hblocks, h⟩
    · exact .blocks hkeys (not_of_refusal (blocksRefusal_eq_none client) hblocks)
        (blocksRefusal_message hblocks)
    · have hblocks : BlocksFit client := (blocksRefusal_eq_none client).1 hblocks
      rcases Option.or_eq_some_iff.1 h with haddresses | ⟨haddresses, htopics⟩
      · have hnot := not_of_refusal (addressesRefusal_eq_none shake256 client) haddresses
        push Not at hnot
        obtain ⟨value, hvalue, hnot⟩ := hnot
        exact .addresses hkeys hblocks hvalue hnot (addressesRefusal_message haddresses)
      · have hnot := not_of_refusal (topicsRefusal_eq_none client) htopics
        rw [not_forall] at hnot
        obtain ⟨value, hnot⟩ := hnot
        rw [Classical.not_imp] at hnot
        rw [topicsRefusal_message htopics]
        exact .topics hkeys hblocks ((addressesRefusal_eq_none shake256 client).1 haddresses)
          hnot.1 hnot.2

/-- What `qrl_getLogs` refuses is no filter, or a faulty one. -/
theorem misfit_getLogs (hvalue : paramsArray? value = some params)
    (hmethod : method = "qrl_getLogs") (h : getLogsParams shake256 params = .error message) :
    Misfit shake256 method value message := by
  unfold getLogsParams at h
  split at h
  next client =>
    rw [paramsArray?_eq_some.1 hvalue]
    split at h
    next hrefusal =>
      cases h
      exact .filter hmethod (filterFault_of_filterRefusal hrefusal)
    next => cases h
  next hnone =>
    cases h
    refine .notOneFilter hmethod (listed_of_paramsArray? hvalue) ?_
    rintro client rfl
    cases hvalue
    exact hnone client rfl

end

/-! ## The middleware -/

theorem readRpcBody_id (body : Json) :
    (readRpcBody body).id = normalizeRpcId (body.field? "id") := by
  cases body <;> rfl

theorem readRpcBody_method (body : Json) : (readRpcBody body).method = body.field? "method" := by
  cases body <;> rfl

/-- The error handler names an error, unless it is the server's own. -/
theorem errorHandler_eq (err : CaughtError) :
    ∃ message, errorHandler err = ⟨statusOf err, errorBody message⟩ ∧
      (err.fromParser = true → message ∈
        ["Request body too large", "Invalid request body", "Internal Server Error"]) := by
  refine ⟨_, rfl, fun hparser => ?_⟩
  split
  · simp
  next hstatus =>
    rw [hparser, Bool.and_true, if_pos (decide_eq_true (not_le.1 hstatus))]
    split <;> simp

/-- A client error is told with its message. -/
theorem errorHandler_http {status : ℕ} {message : String} (hstatus : 400 ≤ status ∧ status < 500)
    (hmessage : message.isEmpty = false) :
    errorHandler ⟨some status, some message, false⟩ = ⟨status, errorBody message⟩ := by
  have hstatusOf : statusOf ⟨some status, some message, false⟩ = status := by
    unfold statusOf
    dsimp only
    rw [if_pos (by omega), Int.toNat_natCast]
  unfold errorHandler
  dsimp only
  rw [hstatusOf, if_neg (by omega), Bool.and_false, if_neg Bool.false_ne_true]
  simp [errorBody, hmessage, Option.filter]

/-- A server error is told without one. -/
theorem errorHandler_server {status : ℕ} {message : String}
    (hstatus : 500 ≤ status ∧ status < 600) :
    errorHandler ⟨some status, some message, false⟩ =
      ⟨status, errorBody "Internal Server Error"⟩ := by
  have hstatusOf : statusOf ⟨some status, some message, false⟩ = status := by
    unfold statusOf
    dsimp only
    rw [if_pos (by omega), Int.toNat_natCast]
  unfold errorHandler
  dsimp only
  rw [hstatusOf, if_pos hstatus.1]
  rfl

/-- What stops a request before the router is a refusal. -/
theorem refusal_of_admit {app : RpcApp} {post : RpcPost} {response : HttpResponse}
    (h : admitPost app post = .error response) : Refusal app post response := by
  unfold admitPost at h
  split at h
  next hadmitted =>
    cases h
    exact .rateLimited (by simpa using hadmitted)
  next hadmitted =>
    rw [Bool.not_eq_true', Bool.not_eq_false] at hadmitted
    unfold acceptBody at h
    split at h
    next err hbody =>
      cases h
      obtain ⟨message, hanswer, hmessage⟩ := errorHandler_eq err
      rw [hanswer]
      exact .unparsed hadmitted hbody hmessage
    all_goals
      next hbody =>
        split at h
        next horigin =>
          cases h
          refine .origin hadmitted (fun err herr => ?_) (by simpa using horigin)
          cases hbody.symm.trans herr
        · cases h

/-- A request that nothing stops comes to the router. -/
theorem reachesRouter_of_admitPost {app : RpcApp} {post : RpcPost} {body : Json}
    (h : admitPost app post = .ok body) : ReachesRouter app post := by
  obtain ⟨hadmitted, horigin, -⟩ := admitPost_eq_ok h
  refine ⟨hadmitted, fun err herr => ?_, horigin⟩
  unfold admitPost acceptBody at h
  rw [hadmitted, herr] at h
  cases h

/-- The validator refuses only what does not fit, under the id of the request. -/
theorem rpcParamsValidator_eq_error {shake256 : String → ℕ → List UInt8} {body : Json}
    {method : String} {err : RpcError} (hmethod : body.field? "method" = some (.string method))
    (h : rpcParamsValidator shake256 body = .error err) :
    ∃ message, err = ⟨400, normalizeRpcId (body.field? "id"), -32602, message⟩ ∧
      Misfit shake256 method (body.field? "params") message := by
  cases body with
  | object fields =>
    simp only [rpcParamsValidator, readRpcBody, Json.isRecord, hmethod, Bool.not_true,
      Bool.false_eq_true, if_false] at h
    split at h
    next hnone =>
      cases h
      exact ⟨_, rfl, .unlisted (paramsArray?_eq_none hnone)⟩
    next params hparams =>
      split at h
      next hlogs =>
        split at h
        next message hmessage =>
          cases h
          exact ⟨message, rfl, misfit_getLogs hparams hlogs hmessage⟩
        next => cases h
      next =>
        split at h
        next message hmessage =>
          cases h
          exact ⟨message, rfl, misfit_of_methodRefusal hparams hmessage⟩
        next => cases h
  | null | bool | number | infinite | string | array => cases hmethod

/-- A method that is not on the list is refused. -/
theorem refusal_of_whitelist {app : RpcApp} {post : RpcPost} {err : RpcError}
    (hreaches : ReachesRouter app post) (hbatch : ∀ items, post.body ≠ .json (.array items))
    (h : rpcMethodWhitelist post.body.value = .error err) :
    Refusal app post (sendRpcError err) := by
  unfold rpcMethodWhitelist at h
  dsimp only at h
  rw [readRpcBody_id, readRpcBody_method] at h
  split at h
  next method hmethod =>
    split at h
    next hempty =>
      cases h
      refine .noMethod hreaches hbatch fun method' hmethod' => ?_
      cases hmethod.symm.trans hmethod'
      exact String.isEmpty_iff.1 hempty
    next hempty =>
      split at h
      next hallowed =>
        cases h
        refine .notAllowed hreaches hmethod (fun hnil => hempty (String.isEmpty_iff.2 hnil)) ?_
        simpa using hallowed
      next => cases h
  next hnone =>
    cases h
    refine .noMethod hreaches hbatch fun method hmethod => ?_
    exact absurd hmethod (hnone method)

/-- What the checks of the router turn down is refused for one of them. -/
theorem refusal_of_checkBody {app : RpcApp} {post : RpcPost} {response : HttpResponse}
    (hreaches : ReachesRouter app post)
    (h : checkBody app.shake256 post.writeAdmitted post.body.value = .error response) :
    Refusal app post response := by
  unfold checkBody at h
  split at h
  next err hbatch =>
    cases h
    unfold rpcBatchReject at hbatch
    split at hbatch
    next items hitems =>
      cases hbatch
      have hbody : post.body = .json (.array items) := by
        cases hbody : post.body with
        | json body =>
          rw [hbody] at hitems
          exact congrArg ParsedBody.json hitems
        | absent | rejected =>
          rw [hbody] at hitems
          cases hitems
      exact .batch hreaches hbody
    · cases hbatch
  next hbatch =>
    have hbatch : ∀ items, post.body ≠ .json (.array items) := by
      intro items hitems
      rw [hitems] at hbatch
      cases hbatch
    split at h
    next err hwhitelist =>
      cases h
      exact refusal_of_whitelist hreaches hbatch hwhitelist
    next write hwhitelist =>
      obtain ⟨fields, method, hvalue, hmethod, hallowed, rfl⟩ := rpcMethodWhitelist_eq_ok hwhitelist
      have hmethod' : post.body.value.field? "method" = some (.string method) := by
        rw [hvalue]
        exact hmethod
      have hwrites : writeMethods.contains method = true ↔ method = "qrl_sendRawTransaction" := by
        simp [writeMethods]
      split at h
      next hlimited =>
        cases h
        rw [Bool.and_eq_true, hwrites, Bool.not_eq_true'] at hlimited
        unfold writeRateLimited
        rw [readRpcBody_id]
        exact .writeLimited hreaches (hlimited.1 ▸ hmethod') hlimited.2
      next hlimited =>
        split at h
        next err hvalid =>
          cases h
          obtain ⟨message, rfl, hmisfit⟩ := rpcParamsValidator_eq_error hmethod' hvalid
          refine .params hreaches hmethod' hallowed (fun hwrite => ?_) hmisfit
          rw [hwrites.2 hwrite, Bool.true_and, Bool.not_eq_true', Bool.not_eq_false] at hlimited
          exact hlimited
        · cases h

/-- A request that is stopped gets the answer of the check that stops it. -/
theorem refusal_of_vet {app : RpcApp} {post : RpcPost} {response : HttpResponse}
    (h : vet app post = .error response) : Refusal app post response := by
  unfold vet at h
  split at h
  next hadmit =>
    cases h
    exact refusal_of_admit hadmit
  next body hadmit =>
    obtain ⟨-, -, rfl⟩ := admitPost_eq_ok hadmit
    exact refusal_of_checkBody (reachesRouter_of_admitPost hadmit) h

end QrlBackend
