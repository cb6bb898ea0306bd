import QrlBackend.HealthMonitor
import QrlBackend.Protocol
import QrlBackend.Slots

/-!
# The RPC service

`executeRPC` and `makeRPCCall` of `services/rpc.service.ts`, over the health monitor, the
admission slots and the response cache.

A call of `executeRPC` awaits its attempts one after the other. An attempt is a call of
`makeRPCCall` : it holds a slot until the upstream's answer has settled (`settle`), and a
call whose attempt failed goes on in a later turn (`retry`). Any other events may come in
between. A cache entry can expire at any time (`expire`).

`contacted` lists the upstream requests made and `replies` what the calls came to.
-/

set_option autoImplicit false

namespace QrlBackend

structure RpcConfig where
  health : RpcHealthConfig
  endpoints : NetworkName → List String
  maxResponseBytes : ℕ
  maxConcurrent : ℕ
  maxConcurrentPerClient : ℕ
  maxInflightBytes : ℕ

/-- JSON-RPC 2.0 request id as the spec allows it. -/
inductive RpcId where
  | null
  | string (s : String)
  | number (value : ℚ)

namespace RpcId

def json : RpcId → Json
  | .null => .null
  | .string s => .string s
  | .number value => .number value

end RpcId

/-- The length of a string in UTF-16 code units. -/
def utf16Length (s : String) : ℕ := (s.toList.map fun c => if c.toNat < 0x10000 then 1 else 2).sum

/-- Normalize an untrusted `id` from a client request body. -/
def normalizeRpcId : Option Json → RpcId
  | some (.string raw) => if utf16Length raw ≤ 256 then .string raw else .null
  | some (.number raw) => .number raw
  | _ => .null

def cacheableMethods : List String := ["qrl_chainId", "net_version"]

def primaryOnlyPrefixes : List String := ["txpool_", "debug_", "admin_"]

def isPrimaryOnlyMethod (method : String) : Bool :=
  primaryOnlyPrefixes.any fun p => p.toList.isPrefixOf method.toList

/-! ## One upstream call -/

namespace RpcConfig

def slotLimits (cfg : RpcConfig) : SlotLimits where
  maxConcurrent := cfg.maxConcurrent
  maxInflightBytes := cfg.maxInflightBytes
  reservation := cfg.maxResponseBytes

end RpcConfig

def clientBusyMessage : String := "Too many concurrent RPC requests from this client"

/-- Reserve the full per-response allowance before starting an upstream call. -/
def acquireRpcCallSlot (cfg : RpcConfig) (slots : Slots) (clientKey : Option String) :
    Except HttpError (Option ℕ) × Slots :=
  if clientKey.any fun key =>
      cfg.maxConcurrentPerClient ≤ (slots.activeByClient.get? key).getD 0 then
    (.error ⟨429, clientBusyMessage⟩, slots)
  else
    let (slot, slots) := slots.acquire cfg.slotLimits clientKey
    (.ok slot, slots)

/-- The start of `makeRPCCall` : a slot for the call, or why there is none. -/
def admitCall (cfg : RpcConfig) (slots : Slots) (clientKey : Option String) :
    Except HttpError ℕ × Slots :=
  match acquireRpcCallSlot cfg slots clientKey with
  | (.error err, slots) => (.error err, slots)
  | (.ok none, slots) => (.error ⟨503, "RPC proxy busy"⟩, slots)
  | (.ok (some slot), slots) => (.ok slot, slots)

/-- What `readBoundedRpcJson` throws for a `BoundedJsonError`. -/
def BoundedJsonFailure.httpError : BoundedJsonFailure → HttpError
  | .tooLarge => ⟨502, "RPC upstream response too large"⟩
  | .empty => ⟨502, "RPC upstream returned an empty response body"⟩
  | .nonBinary => ⟨502, "RPC upstream returned a non-binary response chunk"⟩
  | .invalidJson => ⟨502, "RPC upstream returned invalid JSON"⟩
  | .invalidUtf8 | .streamError => ⟨502, "RPC upstream returned an invalid response body"⟩

/-- The `catch` block of `makeRPCCall` for an error that is no `HttpError`. -/
def JsError.httpError (err : JsError) : HttpError :=
  if err.name = "AbortError" then ⟨502, "RPC upstream timeout"⟩
  else ⟨502, "RPC upstream unavailable"⟩

/-- What `makeRPCCall` comes to for an upstream's answer. -/
def callResult : Fetched → Except HttpError Json
  | .rejected err => .error err.httpError
  | .responded status body =>
    if !isOk status then .error ⟨502, s!"RPC upstream HTTP {status}"⟩
    else
      match body with
      | .ok json => .ok json
      | .error err =>
        match err.bounded with
        | some failure => .error failure.httpError
        | none => .error err.httpError

/-! ## Calls -/

/-- What a call rejects with : an `HttpError`, or what `JSON.stringify` throws. -/
inductive RpcFailure where
  | http (err : HttpError)
  | unserializable

/-- Where a call waits : for the answer of an attempt, or for its next turn. -/
inductive RpcStage where
  | attempting (slot : ℕ)
  | retrying

/-- A call of `executeRPC` under way. -/
structure RpcCall where
  network : NetworkName
  /-- The pin the call found at its start. -/
  identity : Option RpcIdentity
  method : String
  /-- `JSON.stringify(params)` in the cache key. -/
  params : String
  id : RpcId
  clientKey : Option String
  /-- The endpoints left to try. -/
  order : List String
  stage : RpcStage

/-- `${JSON.stringify(params)}`, nothing if it throws. -/
def paramsText {V : Type} [Unknown V] (params : V) : Option String :=
  match Unknown.stringify params with
  | .text text => some text
  | .undefined => some "undefined"
  | .throws => none

/-- The cache key separates networks, pins, methods and params. -/
def cacheKey (network : NetworkName) (identity : Option RpcIdentity) (method params : String) :
    String :=
  let identityKey := match identity with
    | none => ""
    | some identity => s!"{identity.chainId}-{identity.genesisHash}-"
  s!"{network.text}-{identityKey}{method}-{params}"

def RpcCall.cacheKey (call : RpcCall) : String :=
  QrlBackend.cacheKey call.network call.identity call.method call.params

structure RpcService where
  monitor : HealthMonitor
  slots : Slots
  cache : JsMap String Json
  calls : JsMap ℕ RpcCall
  /-- The calls of `executeRPC` so far. -/
  next : ℕ
  contacted : List (ℕ × String)
  replies : List (ℕ × Except RpcFailure Json)

inductive RpcEvent (V : Type) where
  | monitor (event : HealthMonitor.Event)
  | execute (now : ℕ) (network method : String) (params : V) (id : RpcId)
      (clientKey : Option String)
  | settle (call : ℕ) (answer : Fetched)
  | retry (call : ℕ)
  | expire (key : String)

namespace RpcService

def init (now : ℕ) (cfg : RpcConfig) (expectedIdentities : NetworkName → Option RpcIdentity) :
    RpcService where
  monitor := .init now cfg.endpoints expectedIdentities
  slots := .empty
  cache := .empty
  calls := .empty
  next := 0
  contacted := []
  replies := []

/-- A call ends. -/
def reply (st : RpcService) (i : ℕ) (result : Except RpcFailure Json) : RpcService :=
  { st with calls := st.calls.delete i, replies := st.replies ++ [(i, result)] }

/-- The envelope of a cached result. -/
def cachedResponse (id : RpcId) (result : Json) : Json :=
  .object [("jsonrpc", .string "2.0"), ("id", id.json), ("result", result)]

/-- The next turn of the loop over the endpoints. A refused admission ends the call. -/
def attempt (cfg : RpcConfig) (st : RpcService) (i : ℕ) (call : RpcCall) : RpcService :=
  match call.order with
  | [] => st
  | url :: order =>
    match admitCall cfg st.slots call.clientKey with
    | (.error err, slots) => { st with slots }.reply i (.error (.http err))
    | (.ok slot, slots) =>
      { st with
        slots
        calls := st.calls.set i { call with order, stage := .attempting slot }
        contacted := st.contacted ++ [(i, url)] }

/-- The endpoints a call tries. -/
def callOrder (cfg : RpcConfig) (network : NetworkName) (method : String)
    (attemptOrder : List String) : List String :=
  if isPrimaryOnlyMethod method then
    attemptOrder.filter fun url => (cfg.endpoints network).head? = some url
  else attemptOrder.take 2

/-- `executeRPC` to its first await. -/
def execute {V : Type} [Unknown V] (cfg : RpcConfig) (now : ℕ) (st : RpcService)
    (network method : String) (params : V) (id : RpcId) (clientKey : Option String) :
    RpcService :=
  let i := st.next
  let st := { st with next := i + 1 }
  match isNetworkName network with
  | none => st.reply i (.error (.http ⟨404, "Unknown network"⟩))
  | some network =>
    let attemptOrder := st.monitor.readyEndpointsForAttempt cfg.health now network
    if attemptOrder.isEmpty then
      st.reply i (.error (.http ⟨503, "No ready RPC endpoint for this network"⟩))
    else
      match paramsText params with
      | none => st.reply i (.error .unserializable)
      | some params =>
        let identity := st.monitor.expectedIdentities network
        let cached := if cacheableMethods.contains method then
          st.cache.get? (cacheKey network identity method params) else none
        match cached with
        | some result => st.reply i (.ok (cachedResponse id result))
        | none =>
          let order := callOrder cfg network method attemptOrder
          if order.isEmpty then
            st.reply i (.error (.http ⟨503, "Primary RPC endpoint is not ready"⟩))
          else
            st.attempt cfg i
              { network, identity, method, params, id, clientKey, order, stage := .retrying }

/-- The result member of an error-free envelope. -/
def resultOf (json : Json) : Option Json :=
  if (json.field? "error").isNone then json.field? "result" else none

/-- An attempt ends : its slot is released, and the call ends with its result or the last
error, or goes on. -/
def settle (st : RpcService) (i : ℕ) (call : RpcCall) (slot : ℕ) (answer : Fetched) :
    RpcService :=
  let st := { st with slots := st.slots.release slot }
  match callResult answer with
  | .ok json =>
    let st := match resultOf json with
      | some result =>
        if cacheableMethods.contains call.method then
          { st with cache := st.cache.set call.cacheKey result }
        else st
      | none => st
    st.reply i (.ok json)
  | .error err =>
    if err.status = 503 ∨ err.status = 429 ∨ call.order.isEmpty then
      st.reply i (.error (.http err))
    else { st with calls := st.calls.set i { call with stage := .retrying } }

def step {V : Type} [Unknown V] (cfg : RpcConfig) (st : RpcService) : RpcEvent V → RpcService
  | .monitor event => { st with monitor := st.monitor.step cfg.health event }
  | .execute now network method params id clientKey =>
    st.execute cfg now network method params id clientKey
  | .settle i answer =>
    match st.calls.get? i with
    | none => st
    | some call =>
      match call.stage with
      | .attempting slot => st.settle i call slot answer
      | .retrying => st
  | .retry i =>
    match st.calls.get? i with
    | none => st
    | some call =>
      match call.stage with
      | .attempting _ => st
      | .retrying => st.attempt cfg i call
  | .expire key => { st with cache := st.cache.delete key }

end RpcService

end QrlBackend
