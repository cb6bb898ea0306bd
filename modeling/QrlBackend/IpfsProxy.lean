import QrlBackend.Configuration
import QrlBackend.Slots
import QrlBackend.Upstream
import Mathlib.Data.Rat.Floor

/-!
# The IPFS proxy

`routes/ipfs.routes.ts` : a request takes an admission slot, then tries the gateways one
after the other and streams the first response that is good to its client.

`ipfsHandler` awaits three things, and an event for each goes on from there : the answer of
a gateway (`fetched`), a chunk of its body (`read`), and the writing of a chunk (`written`).
The timer of the attempt, the timer of the request and the client can abort it at any time
in between (`attemptTimeout`, `deadline`, `disconnect`). A request is in `requests` until
its handler returns. The gateways' cooldowns are shared by all requests.

`contacted` lists the gateway requests made and `answered` what the clients have got.
-/

set_option autoImplicit false

namespace QrlBackend

structure IpfsConfig where
  gateways : List String
  fetchTimeoutMs : ℕ
  fallbackReserveMs : ℕ
  maxCooldownMs : ℕ
  serverErrorMinCids : ℕ
  serverErrorWindowMs : ℕ
  maxSizeBytes : ℕ
  maxConcurrent : ℕ
  maxInflightBytes : ℕ
  le_fallbackReserveMs : 250 ≤ fallbackReserveMs
  le_maxCooldownMs : 900000 ≤ maxCooldownMs
  le_serverErrorMinCids : 3 ≤ serverErrorMinCids

def IpfsConfig.slotLimits (cfg : IpfsConfig) : SlotLimits where
  maxConcurrent := cfg.maxConcurrent
  maxInflightBytes := cfg.maxInflightBytes
  reservation := cfg.maxSizeBytes

/-- `Date.now()` and `performance.now()`. -/
structure Clock where
  date : ℤ
  performance : ℚ

structure GatewayState where
  url : String
  cooldownUntil : ℤ
  serverErrorCids : JsMap String ℤ

structure GatewayFailure where
  status : ℕ
  error : String
  upstreamStatus : Option ℕ

def defaultCooldownMs : ℕ := 60000

def serverErrorCooldownMs : ℕ := 30000

def minAttemptMs : ℕ := 1000

/-! ## Cooldowns -/

/-- The observations of a gateway that are in the window. -/
def recentErrors (cfg : IpfsConfig) (serverErrorCids : JsMap String ℤ) (now : ℤ) :
    JsMap String ℤ :=
  serverErrorCids.entries.foldl
    (fun errors entry =>
      if cfg.serverErrorWindowMs ≤ now - entry.2 then errors.delete entry.1 else errors)
    serverErrorCids

/-- The root CID, whatever the letter case of its base32 form. -/
def rootCid (cid : String) : String :=
  if "b".toList.isPrefixOf cid.toList then cid.toLower else cid

def shouldCoolDownForServerError (cfg : IpfsConfig) (gateway : GatewayState) (cid : String)
    (status : ℕ) (now : ℤ) : Bool × GatewayState :=
  if status ≠ 502 ∧ status ≠ 503 ∧ status ≠ 504 then (false, gateway)
  else
    let errors := (recentErrors cfg gateway.serverErrorCids now).set (rootCid cid) now
    if errors.size < cfg.serverErrorMinCids then (false, { gateway with serverErrorCids := errors })
    else (true, { gateway with serverErrorCids := .empty })

/-- `/^[A-Za-z]{3}, /`. -/
def looksLikeDate (input : List Char) : Bool :=
  match input with
  | a :: b :: c :: ',' :: ' ' :: _ => a.isAlpha && b.isAlpha && c.isAlpha
  | _ => false

/-- How long a `Retry-After` header asks to wait. `parseDate` is `Date.parse`. -/
def retryAfterMs (parseDate : String → Option ℤ) (cfg : IpfsConfig) (value : Option String)
    (now : ℤ) : ℤ :=
  match value with
  | none => defaultCooldownMs
  | some value =>
    let input := jsTrim value
    if !input.toList.isEmpty && input.toList.all Char.isDigit then
      min (decimalValue input * 1000) cfg.maxCooldownMs
    else
      match if looksLikeDate input.toList then parseDate input else none with
      | some retryAt => min (max 0 (retryAt - now)) cfg.maxCooldownMs
      | none => defaultCooldownMs

/-! ## Failures -/

def failurePriority (failure : GatewayFailure) : ℕ :=
  if failure.status = 504 then 4
  else if failure.upstreamStatus.any (500 ≤ ·) then 3
  else if failure.status = 503 then 0
  else if failure.upstreamStatus = some 429 then 1
  else 2

def preferFailure (current next : GatewayFailure) : GatewayFailure :=
  if failurePriority current < failurePriority next then next else current

def coolingFailure : GatewayFailure := ⟨503, "IPFS gateways cooling down", none⟩

def timeoutFailure : GatewayFailure := ⟨504, "gateway timeout", none⟩

/-! ## Identifiers and paths -/

/-- `/[1-9A-HJ-NP-Za-km-z]/`. -/
def isBase58 (c : Char) : Bool :=
  ('1' ≤ c && c ≤ '9') || ('A' ≤ c && c ≤ 'H') || ('J' ≤ c && c ≤ 'N') ||
    ('P' ≤ c && c ≤ 'Z') || ('a' ≤ c && c ≤ 'k') || ('m' ≤ c && c ≤ 'z')

/-- `/[A-Za-z2-7]/`. -/
def isBase32 (c : Char) : Bool := c.isAlpha || ('2' ≤ c && c ≤ '7')

def isValidCid (cid : String) : Bool :=
  match cid.toList with
  | 'Q' :: 'm' :: rest => rest.length = 44 && rest.all isBase58
  | 'b' :: rest => 58 ≤ rest.length && rest.all isBase32
  | _ => false

/-- `/[A-Za-z0-9._-]/`. -/
def isSegmentChar (c : Char) : Bool := c.isAlphanum || c = '.' || c = '_' || c = '-'

def isSafePath (rest : String) : Bool :=
  if rest.toList.tails.any fun tail => "..".toList.isPrefixOf tail then false
  else ((rest.toList.splitOn '/').filter (!·.isEmpty)).all fun segment => segment.all isSegmentChar

/-- The media types that are rendered inline. -/
def inlineMediaTypes : List String :=
  ["image/png", "image/jpg", "image/jpeg", "image/gif", "image/webp", "image/avif", "image/bmp",
    "image/svg+xml", "video/mp4", "video/webm", "video/ogg", "audio/mpeg", "audio/mp3",
    "audio/ogg", "audio/wav", "audio/x-wav", "audio/webm", "audio/mp4", "audio/aac", "audio/flac",
    "application/json"]

def isInlineMediaType (contentType : String) : Bool :=
  let mediaType := jsTrim (String.ofList ((contentType.toList.splitOn ';').headD []))
  inlineMediaTypes.contains mediaType.toLower

/-- The double that a whole number is read as : 53 bits of it, rounded to even. -/
def nearestDouble (n : ℕ) : ℕ :=
  let unit := 2 ^ (n.log2 - 52)
  let quotient := n / unit
  let rest := 2 * (n % unit)
  (if unit < rest || (rest = unit && quotient % 2 = 1) then quotient + 1 else quotient) * unit

/-- `parseInt(value, 10)`, nothing for `NaN`. -/
def parseDecimalInt (value : String) : Option ℤ :=
  let input := value.toList.dropWhile isJsSpace
  let (negative, input) := match input with
    | '-' :: rest => (true, rest)
    | '+' :: rest => (false, rest)
    | rest => (false, rest)
  let digits := input.takeWhile Char.isDigit
  if digits.isEmpty then none
  else
    let magnitude : ℤ := nearestDouble (decimalValue (String.ofList digits))
    some (if negative then -magnitude else magnitude)

/-! ## The client's response -/

structure ClientResponse where
  status : ℕ
  /-- What the handler has set. Express completes a content type when it sends it. -/
  headers : List (String × String)
  headersSent : Bool
  json : Option Json
  /-- The gateway bytes written. -/
  body : List UInt8
  ended : Bool
  destroyed : Bool

namespace ClientResponse

def new : ClientResponse := ⟨200, [], false, none, [], false, false⟩

def set (res : ClientResponse) (headers : List (String × String)) : ClientResponse :=
  { res with headers := res.headers ++ headers }

/-- `res.status(status).json(body)`. -/
def sendJson (res : ClientResponse) (status : ℕ) (body : List (String × Json)) : ClientResponse :=
  { res with status, headersSent := true, json := some (.object body), ended := true }

def destroy (res : ClientResponse) : ClientResponse := { res with destroyed := true }

def write (res : ClientResponse) (value : List UInt8) : ClientResponse :=
  { res with headersSent := true, body := res.body ++ value }

def finish (res : ClientResponse) : ClientResponse :=
  { res with headersSent := true, ended := true }

end ClientResponse

def sendStreamError (res : ClientResponse) (status : ℕ) (error : String) : ClientResponse :=
  if res.headersSent then res.destroy else res.sendJson status [("error", .string error)]

/-- A size beyond the doubles is infinite. -/
def tooLarge (cfg : IpfsConfig) (size : ℤ) : List (String × Json) :=
  [("error", .string "too large"),
    ("size", if 2 ^ 1024 ≤ size then .infinite false else .number size),
    ("max", .number cfg.maxSizeBytes)]

/-! ## Requests -/

/-- What a gateway's response says before its body is read. -/
structure GatewayResponse where
  status : ℕ
  retryAfter : Option String
  contentLength : Option String
  contentType : Option String
  hasBody : Bool

/-- What a read of a body yields. -/
inductive Chunk where
  | done
  /-- `writeThrows` : a write of the chunk would throw. -/
  | bytes (value : List UInt8) (writeThrows : Bool)
  | nonBinary

/-- What `streamGatewayResponse` keeps between chunks. -/
structure StreamState where
  /-- The headers of a streamed response. -/
  proxyHeaders : List (String × String)
  received : ℕ
  proxyHeadersSet : Bool

inductive IpfsStage where
  | fetching
  | reading (stream : StreamState)
  | writing (stream : StreamState)

structure IpfsRequest where
  cid : String
  rest : String
  slot : ℕ
  /-- When the request times out, on the `performance` clock. -/
  deadline : ℚ
  failure : GatewayFailure
  /-- The signal of the request is aborted. -/
  aborted : Bool
  clientDisconnected : Bool
  res : ClientResponse
  /-- The gateway of the attempt under way. -/
  index : ℕ
  /-- The signal of the attempt is aborted. -/
  attemptAborted : Bool
  streamingStarted : Bool
  stage : IpfsStage

/-- A request to a gateway. -/
structure Contact where
  request : ℕ
  url : String
  /-- The delay of the attempt's timer. -/
  window : ℚ
  deriving DecidableEq

structure IpfsProxy where
  slots : Slots
  gateways : List GatewayState
  requests : JsMap ℕ IpfsRequest
  /-- The requests so far. -/
  next : ℕ
  contacted : List Contact
  answered : List (ℕ × ClientResponse)

/-- What happens. A promise that rejects does so with the name of its error. -/
inductive IpfsEvent where
  /-- `opened` is read for the deadline, `now` when the loop begins. -/
  | request (opened : ℚ) (now : Clock) (cid : String) (splat : List String)
  | fetched (request : ℕ) (now : Clock) (answer : Except String GatewayResponse)
  | read (request : ℕ) (now : Clock) (result : Except String Chunk)
  | written (request : ℕ) (now : Clock) (result : Except String Unit)
  | attemptTimeout (request : ℕ)
  | deadline (request : ℕ)
  | disconnect (request : ℕ)

/-- `/:cid/*splat`, joined. -/
def readWildcardParam (splat : List String) : String := "/".intercalate splat

/-! ## The loop over the gateways -/

def fetchUrl (gateway : GatewayState) (req : IpfsRequest) : String :=
  gateway.url ++ req.cid ++ if req.rest.isEmpty then "" else "/" ++ req.rest

/-- Most of the budget, less a window for each eligible fallback. -/
def attemptWindow (cfg : IpfsConfig) (remaining : ℚ) (laterGateways : ℕ) : ℚ :=
  min remaining (max minAttemptMs (remaining - laterGateways * cfg.fallbackReserveMs))

def laterGateways (gateways : List GatewayState) (index : ℕ) (now : Clock) : ℕ :=
  ((gateways.drop (index + 1)).filter (·.cooldownUntil ≤ now.date)).length

/-- How the loop goes on : with an attempt at a gateway, or to its end. -/
inductive LoopTurn where
  | attempt (req : IpfsRequest) (gateway : GatewayState) (remaining : ℚ)
  | over (req : IpfsRequest)

/-- The loop from a gateway on. Gateways that cool down are skipped. -/
def nextAttempt (now : Clock) (req : IpfsRequest) : List (GatewayState × ℕ) → LoopTurn
  | [] => .over req
  | (gateway, index) :: later =>
    if req.clientDisconnected then .over req
    else
      let remaining := req.deadline - now.performance
      if req.aborted || remaining ≤ 0 then .over { req with failure := timeoutFailure }
      else if now.date < gateway.cooldownUntil then nextAttempt now req later
      else
        .attempt
          { req with index, attemptAborted := false, streamingStarted := false, stage := .fetching }
          gateway remaining

/-- Seconds until the first gateway is eligible, at least one. -/
def retryAfterSeconds (gateways : List GatewayState) (now : Clock) : String :=
  match (gateways.map (·.cooldownUntil)).min? with
  | none => "Infinity"
  | some retryAt => toString (max 1 ⌈((retryAt - now.date : ℤ) : ℚ) / 1000⌉)

/-- The end of the loop : the request fails, unless its client is gone. -/
def answerFailure (gateways : List GatewayState) (now : Clock) (req : IpfsRequest) :
    IpfsRequest :=
  if req.clientDisconnected then req
  else
    let failure :=
      if req.aborted || req.deadline ≤ now.performance then timeoutFailure else req.failure
    let res := if failure.status = 503 then
        req.res.set [("Retry-After", retryAfterSeconds gateways now)]
      else req.res
    { req with
      failure
      res := res.sendJson failure.status (("error", .string failure.error) ::
        (failure.upstreamStatus.map fun status => ("status", .number status)).toList) }

/-- The failure of an attempt that threw. -/
def attemptFailure (readingBody timedOut : Bool) : GatewayFailure :=
  if timedOut then timeoutFailure
  else ⟨502, if readingBody then "gateway stream error" else "gateway unreachable", none⟩

/-- The headers of a streamed response. -/
def proxyHeaders (upstreamContentType : Option String) : List (String × String) :=
  let inlineType := upstreamContentType.filter isInlineMediaType
  [("Content-Type", inlineType.getD "application/octet-stream"),
    ("Cache-Control", "public, max-age=3600, immutable"),
    ("X-Content-Type-Options", "nosniff"),
    ("Content-Security-Policy", "default-src 'none'; img-src 'self' data: blob:; sandbox")] ++
    if inlineType.isSome then [] else [("Content-Disposition", "attachment")]

/-- Set the proxy headers, once. -/
def setProxyHeaders (req : IpfsRequest) (stream : StreamState) : ClientResponse :=
  if stream.proxyHeadersSet then req.res else req.res.set stream.proxyHeaders

namespace IpfsProxy

def init (cfg : IpfsConfig) : IpfsProxy where
  slots := .empty
  gateways := cfg.gateways.map fun url => ⟨url, 0, .empty⟩
  requests := .empty
  next := 0
  contacted := []
  answered := []

/-- The handler returns. Its outer `finally` releases the slot. -/
def finish (st : IpfsProxy) (r : ℕ) (req : IpfsRequest) : IpfsProxy :=
  { st with
    slots := st.slots.release req.slot
    requests := st.requests.delete r
    answered := st.answered ++ [(r, req.res)] }

/-- The handler awaits. -/
def await (st : IpfsProxy) (r : ℕ) (req : IpfsRequest) : IpfsProxy :=
  { st with requests := st.requests.set r req }

/-- The loop from the gateway `index` on, to the next await or the end. -/
def advance (cfg : IpfsConfig) (st : IpfsProxy) (r : ℕ) (now : Clock) (req : IpfsRequest)
    (index : ℕ) : IpfsProxy :=
  match nextAttempt now req (st.gateways.zipIdx.drop index) with
  | .attempt req gateway remaining =>
    { st with
      requests := st.requests.set r req
      contacted := st.contacted ++ [{
        request := r
        url := fetchUrl gateway req
        window := attemptWindow cfg remaining (laterGateways st.gateways req.index now) }] }
  | .over req => st.finish r (answerFailure st.gateways now req)

/-- `ipfsHandler` to its first await. -/
def request (cfg : IpfsConfig) (st : IpfsProxy) (opened : ℚ) (now : Clock) (cid rest : String) :
    IpfsProxy :=
  let r := st.next
  let answer (st : IpfsProxy) (res : ClientResponse) : IpfsProxy :=
    { st with answered := st.answered ++ [(r, res)] }
  let st := { st with next := r + 1 }
  if !isValidCid cid then
    answer st (.sendJson .new 400 [("error", .string "invalid CID")])
  else if !isSafePath rest then
    answer st (.sendJson .new 400 [("error", .string "invalid path")])
  else
    match st.slots.acquire cfg.slotLimits none with
    | (none, slots) =>
      answer { st with slots } (.sendJson (.set .new [("Retry-After", "1")]) 503
        [("error", .string "IPFS proxy busy")])
    | (some slot, slots) =>
      { st with slots }.advance cfg r now
        { cid
          rest
          slot
          deadline := opened + cfg.fetchTimeoutMs
          failure := coolingFailure
          aborted := false
          clientDisconnected := false
          res := .new
          index := 0
          attemptAborted := false
          streamingStarted := false
          stage := .fetching } 0

/-- The `catch` block of an attempt. -/
def attemptThrew (cfg : IpfsConfig) (st : IpfsProxy) (r : ℕ) (now : Clock) (req : IpfsRequest)
    (readingBody : Bool) (errorName : String) : IpfsProxy :=
  if req.clientDisconnected then st.finish r req
  else
    let failure := attemptFailure readingBody (req.attemptAborted || errorName = "AbortError")
    let req := { req with failure := preferFailure req.failure failure }
    if req.streamingStarted || req.res.headersSent then
      st.finish r { req with res := sendStreamError req.res failure.status failure.error }
    else st.advance cfg r now req (req.index + 1)

/-- A gateway answered with another status than a 2xx one. -/
def upstreamError (parseDate : String → Option ℤ) (cfg : IpfsConfig) (st : IpfsProxy) (r : ℕ)
    (now : Clock) (req : IpfsRequest) (gateway : GatewayState) (response : GatewayResponse) :
    IpfsProxy :=
  let status := response.status
  let upstreamFailure : GatewayFailure :=
    ⟨if status = 404 then 404 else 502, "gateway error", some status⟩
  let serverError := 500 ≤ status ∧ status < 600
  if status = 429 ∨ serverError then
    let req := { req with failure := preferFailure req.failure upstreamFailure }
    let (cool, gateway) :=
      if status = 429 then (true, gateway)
      else shouldCoolDownForServerError cfg gateway req.cid status now.date
    let cooldownMs : ℤ :=
      if serverError then serverErrorCooldownMs
      else retryAfterMs parseDate cfg response.retryAfter now.date
    let gateway :=
      if cool then
        { gateway with cooldownUntil := max gateway.cooldownUntil (now.date + cooldownMs) }
      else gateway
    { st with gateways := st.gateways.set req.index gateway }.advance cfg r now req (req.index + 1)
  else st.finish r (answerFailure st.gateways now { req with failure := upstreamFailure })

/-- The start of `streamGatewayResponse`. -/
def streamGatewayResponse (cfg : IpfsConfig) (st : IpfsProxy) (r : ℕ) (req : IpfsRequest)
    (response : GatewayResponse) : IpfsProxy :=
  match (parseDecimalInt (response.contentLength.getD "0")).filter ((cfg.maxSizeBytes : ℤ) < ·) with
  | some declaredSize =>
    st.finish r { req with res := req.res.sendJson 413 (tooLarge cfg declaredSize) }
  | none =>
    if !response.hasBody then
      st.finish r { req with res := req.res.sendJson 502 [("error", .string "gateway error")] }
    else st.await r { req with stage := .reading ⟨proxyHeaders response.contentType, 0, false⟩ }

/-- The fetch of an attempt settles. -/
def fetched (parseDate : String → Option ℤ) (cfg : IpfsConfig) (st : IpfsProxy) (r : ℕ)
    (now : Clock) (req : IpfsRequest) (answer : Except String GatewayResponse) :
    IpfsProxy :=
  match answer with
  | .error errorName => st.attemptThrew cfg r now req false errorName
  | .ok response =>
    if req.attemptAborted then st.attemptThrew cfg r now req false "AbortError"
    else if isOk response.status then st.streamGatewayResponse cfg r req response
    else
      match st.gateways[req.index]? with
      | some gateway => st.upstreamError parseDate cfg r now req gateway response
      | none => st

/-- A read of the body settles. -/
def read (cfg : IpfsConfig) (st : IpfsProxy) (r : ℕ) (now : Clock) (req : IpfsRequest)
    (stream : StreamState) (result : Except String Chunk) : IpfsProxy :=
  match result with
  | .error errorName => st.attemptThrew cfg r now req true errorName
  | .ok chunk =>
    if req.attemptAborted then st.attemptThrew cfg r now req true "AbortError"
    else
      match chunk with
      | .done => st.finish r { req with res := (setProxyHeaders req stream).finish }
      | .bytes value writeThrows =>
        let size := stream.received + value.length
        if cfg.maxSizeBytes < size then
          st.finish r { req with
            res := if req.res.headersSent then req.res.destroy
              else req.res.sendJson 413 (tooLarge cfg size) }
        else if value.isEmpty then st.await r { req with stage := .reading stream }
        else
          let req := { req with
            streamingStarted := true
            res := setProxyHeaders req stream }
          if writeThrows then st.attemptThrew cfg r now req true "Error"
          else
            st.await r { req with
              res := req.res.write value
              stage := .writing { stream with received := size, proxyHeadersSet := true } }
      | .nonBinary =>
        st.finish r { req with res := sendStreamError req.res 502 "gateway stream error" }

/-- The writing of a chunk settles. -/
def written (cfg : IpfsConfig) (st : IpfsProxy) (r : ℕ) (now : Clock) (req : IpfsRequest)
    (stream : StreamState) (result : Except String Unit) : IpfsProxy :=
  if req.attemptAborted then st.attemptThrew cfg r now req true "AbortError"
  else
    match result with
    | .error errorName => st.attemptThrew cfg r now req true errorName
    | .ok () => st.await r { req with stage := .reading stream }

def step (parseDate : String → Option ℤ) (cfg : IpfsConfig) (st : IpfsProxy) :
    IpfsEvent → IpfsProxy
  | .request opened now cid splat => st.request cfg opened now cid (readWildcardParam splat)
  | .fetched r now answer =>
    match st.requests.get? r with
    | none => st
    | some req =>
      match req.stage with
      | .fetching => st.fetched parseDate cfg r now req answer
      | _ => st
  | .read r now result =>
    match st.requests.get? r with
    | none => st
    | some req =>
      match req.stage with
      | .reading stream => st.read cfg r now req stream result
      | _ => st
  | .written r now result =>
    match st.requests.get? r with
    | none => st
    | some req =>
      match req.stage with
      | .writing stream => st.written cfg r now req stream result
      | _ => st
  | .attemptTimeout r =>
    match st.requests.get? r with
    | none => st
    | some req =>
      if req.streamingStarted then st else st.await r { req with attemptAborted := true }
  | .deadline r =>
    match st.requests.get? r with
    | none => st
    | some req => st.await r { req with aborted := true, attemptAborted := true }
  | .disconnect r =>
    match st.requests.get? r with
    | none => st
    | some req =>
      st.await r { req with clientDisconnected := true, aborted := true, attemptAborted := true }

end IpfsProxy

end QrlBackend
