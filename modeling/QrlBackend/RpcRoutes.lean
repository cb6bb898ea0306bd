import QrlBackend.Failover
import QrlBackend.GetLogs

/-!
# The RPC routes

`routes/rpc.routes.ts` and the middleware in front of it : the admission limiter, the JSON
parser, the CORS policy, the four checks of `middleware/rpc-security.ts`, the handler, and the
central error handler. A request passes them in this order (`vet`), and what passes all of
them is a call of `executeRPC`, so the service only takes steps of its own.

Two parts belong to packages. What a limiter decides for the key of a request, and what the
parser makes of its body, comes with the request. `counted` and `writesCounted` are the keys
the limiters counted.
-/

set_option autoImplicit false

namespace QrlBackend

/-! ## Answers -/

structure HttpResponse where
  status : ℕ
  body : Json

/-- A JSON-RPC error as an answer. -/
def sendRpcError (err : RpcError) : HttpResponse where
  status := err.statusCode
  body := .object [("jsonrpc", .string "2.0"), ("id", err.id.json),
    ("error", .object [("code", .number err.errorCode), ("message", .string err.message)])]

/-- A value that reaches the error handler. -/
structure CaughtError where
  /-- `err.status`, if it is a number. -/
  status : Option ℤ
  /-- The message of an `Error`. -/
  message : Option String
  /-- The error of a request parser : `err.type` is a text, or a `SyntaxError` has a body. -/
  fromParser : Bool

/-- The HTTP status of an arbitrary thrown value, defaulting to 500. -/
def statusOf (err : CaughtError) : ℕ :=
  match err.status with
  | some status => if 400 ≤ status ∧ status ≤ 599 then status.toNat else 500
  | none => 500

theorem le_statusOf (err : CaughtError) : 400 ≤ statusOf err := by
  unfold statusOf
  split
  · split
    next hrange => exact (Int.le_toNat (by omega)).2 hrange.1
    next => decide
  · decide

/-- The central error handler, outside of development. -/
def errorHandler (err : CaughtError) : HttpResponse :=
  let status := statusOf err
  let errorMessage := (err.message.filter (!·.isEmpty)).getD "Unknown error"
  let isRequestParserError := status < 500 && err.fromParser
  let safeErrorMessage :=
    if isRequestParserError then
      if status = 413 then "Request body too large" else "Invalid request body"
    else errorMessage
  let message := if 500 ≤ status then "Internal Server Error" else safeErrorMessage
  { status, body := .object [("error", .object [("message", .string message)])] }

/-- What the `catch` of the handler gets from `executeRPC`. -/
def RpcFailure.caught : RpcFailure → CaughtError
  | .http err => ⟨some err.status, some err.message, false⟩
  | .unserializable => ⟨none, some "Do not know how to serialize a BigInt", false⟩

/-- The answer of a call of `executeRPC`. -/
def rpcResponse : Except RpcFailure Json → HttpResponse
  | .ok result => ⟨200, result⟩
  | .error failure => errorHandler failure.caught

/-! ## Requests -/

/-- What the JSON parser makes of a body. -/
inductive ParsedBody where
  | absent
  | json (body : Json)
  | rejected (err : CaughtError)

/-- A POST request to `/api/qrl-rpc/:network`. -/
structure RpcPost where
  now : ℕ
  network : String
  /-- The client's address, as the limiters and the service count it. -/
  clientKey : String
  /-- The `Origin` header. -/
  origin : Option String
  body : ParsedBody
  /-- What the limiters decide for its keys. -/
  admitted : Bool
  writeAdmitted : Bool

/-- `req.body`. A body that is absent reads as one that is no record. -/
def ParsedBody.value : ParsedBody → Json
  | .json body => body
  | .absent | .rejected _ => .null

/-- Only a record reads as one. -/
theorem ParsedBody.eq_json {parsed : ParsedBody} {fields : List (String × Json)}
    (h : parsed.value = .object fields) : parsed = .json (.object fields) := by
  cases parsed with
  | json body => exact congrArg ParsedBody.json h
  | absent | rejected => cases h

/-! ## Checks -/

def extensionSchemes : List String :=
  ["chrome-extension://", "moz-extension://", "safari-web-extension://"]

def desktopOrigins : List String := ["app://wallet"]

/-- The policy of `corsMiddleware`. -/
def corsAllows (allowedOrigins : List String) (origin : Option String) : Bool :=
  match origin.filter (!·.isEmpty) with
  | none => true
  | some origin =>
    allowedOrigins.contains origin || desktopOrigins.contains origin.toLower ||
      extensionSchemes.any fun scheme => scheme.toList.isPrefixOf origin.toLower.toList

def allowedRpcMethods : List String :=
  ["qrl_getBalance", "qrl_getTransactionCount", "net_listening", "qrl_gasPrice",
    "qrl_maxPriorityFeePerGas", "qrl_estimateGas", "qrl_sendRawTransaction",
    "qrl_getTransactionReceipt", "qrl_getTransactionByHash", "qrl_getCode", "qrl_call",
    "qrl_getLogs", "qrl_chainId", "qrl_blockNumber", "qrl_getBlockByNumber", "net_version"]

def writeMethods : List String := ["qrl_sendRawTransaction"]

/-- Collapse arbitrary path values into one bucket. -/
def networkBucket (network : String) : String :=
  if (isNetworkName network).isSome then network else "invalid"

/-- The key of the admission limiter. -/
def RpcPost.generalKey (post : RpcPost) : String :=
  s!"{post.clientKey}-{networkBucket post.network}"

/-- The key of the limiter of writes. -/
def RpcPost.writeKey (post : RpcPost) : String :=
  s!"{post.clientKey}-write-{networkBucket post.network}"

def rpcBatchReject : Json → Option RpcError
  | .array _ => some ⟨400, .null, -32600, "Batch requests are not supported on this endpoint."⟩
  | _ => none

/-- Whether an allowed method is a write, or the answer. -/
def rpcMethodWhitelist (body : Json) : Except RpcError Bool :=
  let rpc := readRpcBody body
  let missing : RpcError := ⟨400, rpc.id, -32600, "Invalid Request: missing or invalid method"⟩
  match rpc.method with
  | some (.string method) =>
    if method.isEmpty then .error missing
    else if !allowedRpcMethods.contains method then
      .error ⟨403, rpc.id, -32601, "Method not allowed"⟩
    else .ok (writeMethods.contains method)
  | _ => .error missing

/-- The answer to a request the admission limiter refuses, before its body is parsed. -/
def rateLimited : RpcError :=
  ⟨429, (readRpcBody .null).id, -32005, "Rate limit exceeded. Please try again later."⟩

def writeRateLimited (body : Json) : RpcError :=
  ⟨429, (readRpcBody body).id, -32005,
    "Transaction rate limit exceeded. Please wait before sending more transactions."⟩

/-- What the handler passes to `executeRPC`. -/
structure RpcExecution where
  method : String
  params : Option Json
  id : RpcId

/-- What the handler reads of the body. -/
def readExecution (body : Json) : RpcExecution where
  method :=
    match body.field? "method" with
    | some (.string method) => method
    | _ => ""
  params := body.field? "params"
  id := normalizeRpcId (body.field? "id")

/-- The checks of the router : the call, or the answer. -/
def checkBody (shake256 : String → ℕ → List UInt8) (writeAdmitted : Bool) (body : Json) :
    Except HttpResponse RpcExecution :=
  match rpcBatchReject body with
  | some err => .error (sendRpcError err)
  | none =>
    match rpcMethodWhitelist body with
    | .error err => .error (sendRpcError err)
    | .ok write =>
      if write && !writeAdmitted then .error (sendRpcError (writeRateLimited body))
      else
        match rpcParamsValidator shake256 body with
        | .error err => .error (sendRpcError err)
        | .ok body => .ok (readExecution body)

/-- What the application is configured with, for its RPC routes. -/
structure RpcApp where
  shake256 : String → ℕ → List UInt8
  allowedOrigins : List String
  rpc : RpcConfig

/-- The JSON parser and the CORS policy of the application : the body, or the answer. -/
def acceptBody (allowedOrigins : List String) (origin : Option String) (body : ParsedBody) :
    Except HttpResponse Json :=
  match body with
  | .rejected err => .error (errorHandler err)
  | .absent | .json _ =>
    if !corsAllows allowedOrigins origin then
      .error (errorHandler ⟨some 403, some "Not allowed by CORS", false⟩)
    else .ok body.value

/-- A body that is accepted came from an allowed origin. -/
theorem acceptBody_eq_ok {allowedOrigins : List String} {origin : Option String}
    {parsed : ParsedBody} {body : Json} (h : acceptBody allowedOrigins origin parsed = .ok body) :
    corsAllows allowedOrigins origin = true ∧ parsed.value = body := by
  unfold acceptBody at h
  split at h
  · cases h
  all_goals
    split at h
    · cases h
    next horigin =>
      rw [Bool.not_eq_true', Bool.not_eq_false] at horigin
      cases h
      exact ⟨horigin, rfl⟩

/-- The middleware in front of the router. -/
def admitPost (app : RpcApp) (post : RpcPost) : Except HttpResponse Json :=
  if !post.admitted then .error (sendRpcError rateLimited)
  else acceptBody app.allowedOrigins post.origin post.body

/-- The middleware in front of the handler : the call of `executeRPC`, or the answer. -/
def vet (app : RpcApp) (post : RpcPost) : Except HttpResponse RpcExecution :=
  match admitPost app post with
  | .error response => .error response
  | .ok body => checkBody app.shake256 post.writeAdmitted body

/-- The limiter of writes counts a request that gets as far as it with a write method. -/
def countsWrite (app : RpcApp) (post : RpcPost) : Bool :=
  match admitPost app post with
  | .error _ => false
  | .ok body =>
    (rpcBatchReject body).isNone &&
      match rpcMethodWhitelist body with
      | .ok write => write
      | .error _ => false

/-! ## The server -/

/-- What became of a request : it was answered by the middleware, or it is a call. -/
inductive PostOutcome where
  | refused (response : HttpResponse)
  | called (call : ℕ)

/-- The service behind its router. -/
structure RpcProxy where
  service : RpcService
  /-- What became of the requests, oldest first. -/
  posts : List PostOutcome
  counted : List String
  writesCounted : List String

inductive RpcProxyEvent where
  | post (post : RpcPost)
  | monitor (event : HealthMonitor.Event)
  | settle (call : ℕ) (answer : Fetched)
  | retry (call : ℕ)
  | expire (key : String)

namespace RpcProxy

variable [Unknown (Option Json)] (app : RpcApp)

def init (now : ℕ) (expectedIdentities : NetworkName → Option RpcIdentity) : RpcProxy where
  service := .init now app.rpc expectedIdentities
  posts := []
  counted := []
  writesCounted := []

/-- The call a request that passes makes. -/
def execution (post : RpcPost) (x : RpcExecution) : RpcEvent (Option Json) :=
  .execute post.now post.network x.method x.params x.id (some post.clientKey)

/-- A post is refused or becomes a call. -/
def onPost (st : RpcProxy) (post : RpcPost) : RpcProxy :=
  let st := { st with
    counted := st.counted ++ [post.generalKey]
    writesCounted := st.writesCounted ++ if countsWrite app post then [post.writeKey] else [] }
  match vet app post with
  | .error response => { st with posts := st.posts ++ [.refused response] }
  | .ok x =>
    { st with
      service := st.service.step app.rpc (execution post x)
      posts := st.posts ++ [.called st.service.next] }

/-- The step of the service. -/
def serviceStep (st : RpcProxy) (event : RpcEvent (Option Json)) : RpcProxy :=
  { st with service := st.service.step app.rpc event }

def step (st : RpcProxy) : RpcProxyEvent → RpcProxy
  | .post post => st.onPost app post
  | .monitor event => st.serviceStep app (.monitor event)
  | .settle call answer => st.serviceStep app (.settle call answer)
  | .retry call => st.serviceStep app (.retry call)
  | .expire key => st.serviceStep app (.expire key)

/-- A server that started and then took these steps. -/
def after (now : ℕ) (expectedIdentities : NetworkName → Option RpcIdentity)
    (events : List RpcProxyEvent) : RpcProxy :=
  Runs.run (step app) (init app now expectedIdentities) events

/-- The answers to a request. -/
def responsesTo (st : RpcProxy) (k : ℕ) : List HttpResponse :=
  match st.posts[k]? with
  | some (.refused response) => [response]
  | some (.called i) => (st.service.standing i).replies.map rpcResponse
  | none => []

/-- The request waits for an upstream. -/
def awaiting (st : RpcProxy) (k : ℕ) : Bool :=
  match st.posts[k]? with
  | some (.called i) => (st.service.calls.get? i).isSome
  | some (.refused _) | none => false

end RpcProxy

end QrlBackend
