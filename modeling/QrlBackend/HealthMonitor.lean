import QrlBackend.Configuration
import QrlBackend.Runs
import QrlBackend.Upstream
import Mathlib.Data.List.Sort

/-!
# The health monitor

The endpoint table of `services/rpc/healthMonitor.ts`, the polls that update it and the
list of endpoints ready for an attempt.

A poll runs over several awaits and writes to its record in two turns, when the response
of its first query arrives and when it ends, so it is two events after its `begin`. What
the upstream answers is a choice of the environment. An event carries the readings of
`Date.now()` its turn makes, in order.

The monitor is initialised before anything reads it. Elapsed times are naturals, which is
exact for the comparisons with a bound, but a latency is an integer, because latencies are
compared with each other and the clock may go back during a poll.
-/

set_option autoImplicit false

namespace QrlBackend

def maxSafeInteger : ℕ := 2 ^ 53 - 1

/-- `CONFIG.RPC_HEALTH`. `parsePositiveInt` makes the number of failures positive. -/
structure RpcHealthConfig where
  pollIntervalMs : ℕ
  pollTimeoutMs : ℕ
  downAfterFailures : ℕ
  downAfterFailures_pos : 0 < downAfterFailures
  upAfterSuccesses : ℕ
  stallAfterMs : ℕ
  maxHeadAgeMs : ℕ
  maxHeadFutureMs : ℕ
  maxLagBlocks : ℕ

/-- The thresholds of an environment that sets none of the variables. -/
def RpcHealthConfig.unset : RpcHealthConfig where
  pollIntervalMs := 10000
  pollTimeoutMs := 5000
  downAfterFailures := 3
  downAfterFailures_pos := by decide
  upAfterSuccesses := 3
  stallAfterMs := 300000
  maxHeadAgeMs := 300000
  maxHeadFutureMs := 60000
  maxLagBlocks := 8

inductive EndpointState where
  | up
  | down
  | stalled
  | unknown
  deriving DecidableEq

/-- `STATE_ORDER`. -/
def EndpointState.order : EndpointState → ℕ
  | .up => 0
  | .unknown => 1
  | .stalled => 2
  | .down => 3

structure EndpointRecord where
  url : String
  state : EndpointState
  consecutiveFailures : ℕ
  consecutiveSuccesses : ℕ
  lastHeight : Option ℕ
  lastHeightChangeAt : ℕ
  lastLatencyMs : Option ℤ
  lastError : Option String
  lastPollAt : Option ℕ
  lastVerifiedPollAt : Option ℕ
  headTimestamp : Option ℕ
  syncing : Option Bool
  verifiedIdentity : Option RpcIdentity

def makeEndpointRecord (now : ℕ) (url : String) : EndpointRecord where
  url := url
  state := .unknown
  consecutiveFailures := 0
  consecutiveSuccesses := 0
  lastHeight := none
  lastHeightChangeAt := now
  lastLatencyMs := none
  lastError := none
  lastPollAt := none
  lastVerifiedPollAt := none
  headTimestamp := none
  syncing := none
  verifiedIdentity := none

/-! ## Upstream answers -/

def hexValue (c : Char) : ℕ :=
  if c.toNat ≤ '9'.toNat then c.toNat - '0'.toNat
  else if c.toNat ≤ 'F'.toNat then c.toNat - 'A'.toNat + 10
  else c.toNat - 'a'.toNat + 10

/-- The digits of `/^0x(?:0|[1-9a-fA-F][0-9a-fA-F]*)$/`. -/
def hexNumeral? (s : String) : Option (List Char) :=
  match s.toList with
  | ['0', 'x', '0'] => some ['0']
  | '0' :: 'x' :: c :: rest =>
    if Hex.isDigit c && c ≠ '0' && rest.all Hex.isDigit then some (c :: rest) else none
  | _ => none

def parseHexHeight : Option Json → Option ℕ
  | some (.string hex) =>
    match hexNumeral? hex with
    | none => none
    | some digits =>
      let n := Nat.ofDigits 16 (digits.reverse.map hexValue)
      if n ≤ maxSafeInteger then some n else none
  | _ => none

/-- `/^HTTP \d{3}$/`. -/
def isHttpStatusMessage (message : String) : Bool :=
  match message.toList with
  | ['H', 'T', 'T', 'P', ' ', a, b, c] => a.isDigit && b.isDigit && c.isDigit
  | _ => false

/-- Convert untrusted fetch failures into stable, credential-free categories. -/
def sanitizeHealthError (err : JsError) : String :=
  if err.bounded.isSome then err.message
  else if err.name = "AbortError" then "upstream request timed out"
  else if isHttpStatusMessage err.message then err.message
  else if err.message = "Unparseable qrl_blockNumber result" then err.message
  else if err.message = "RPC chain identity mismatch" then err.message
  else "upstream health check failed"

/-- The result of a query of a poll. -/
def query (method : String) : Fetched → Except JsError Json
  | .rejected err => .error err
  | .responded status body =>
    if !isOk status then .error (.error s!"HTTP {status}")
    else
      match body with
      | .error err => .error err
      | .ok json =>
        match json.field? "result" with
        | some result =>
          if json.fieldIs "jsonrpc" "2.0" && json.fieldIs "id" method &&
              (json.field? "error").isNone then .ok result
          else .error (.error "Invalid readiness response")
        | none => .error (.error "Invalid readiness response")

/-- What the upstream answers to the queries of a poll. `height` is the body of the first
response. -/
structure PollAnswers where
  height : Except JsError Json
  chainId : Fetched
  genesis : Fetched
  syncing : Fetched
  block : Fetched

/-- What a successful poll learns of the head. -/
structure Head where
  height : ℕ
  syncing : Bool
  timestamp : ℕ

/-- Why a poll fails : the first result is no height, or something throws. -/
inductive PollFailure where
  | unparseable
  | thrown (err : JsError)

/-- The envelope of the first response has the id the poll sent. -/
def blockNumberResult (pollId : ℕ) (json : Json) : Option Json :=
  match json.field? "id" with
  | some (.number id) =>
    if json.fieldIs "jsonrpc" "2.0" && id = pollId && (json.field? "error").isNone then
      json.field? "result"
    else none
  | _ => none

/-- `/^0x[1-9a-fA-F][0-9a-fA-F]{0,63}$/`. -/
def isChainIdText (s : String) : Bool :=
  match s.toList with
  | '0' :: 'x' :: c :: rest =>
    Hex.isDigit c && c ≠ '0' && rest.all Hex.isDigit && rest.length ≤ 63
  | _ => false

/-- The upstream is on the pinned chain, by its chain ID and its genesis block. -/
def verifyIdentity (expected : RpcIdentity) (answers : PollAnswers) : Except JsError Unit := do
  let mismatch := JsError.error "RPC chain identity mismatch"
  match ← query "qrl_chainId" answers.chainId with
  | .string chainId =>
    if isChainIdText chainId && chainId.toLower = expected.chainId then .ok ()
    else .error mismatch
  | _ => .error mismatch
  let genesis ← query "qrl_getBlockByNumber" answers.genesis
  match genesis.field? "hash" with
  | some (.string hash) =>
    if genesis.fieldIs "number" "0x0" && isHash hash && hash.toLower = expected.genesisHash then
      .ok ()
    else .error mismatch
  | _ => .error mismatch

/-- `syncing` is `false` or a record of three heights. -/
def parseSyncing : Json → Option Bool
  | .bool false => some false
  | json =>
    if json.isRecord && (parseHexHeight (json.field? "startingBlock")).isSome &&
        (parseHexHeight (json.field? "currentBlock")).isSome &&
        (parseHexHeight (json.field? "highestBlock")).isSome then some true
    else none

/-- The timestamp of the block at the height. -/
def parseHeadTimestamp (height : ℕ) (block : Json) : Option ℕ :=
  match parseHexHeight (block.field? "timestamp") with
  | none => none
  | some timestamp =>
    if block.isRecord && parseHexHeight (block.field? "number") = some height &&
        timestamp * 1000 ≤ maxSafeInteger then some timestamp
    else none

/-- The checks of `pollOne`. -/
def verify (expectedIdentity : Option RpcIdentity) (pollId : ℕ) (answers : PollAnswers) :
    Except PollFailure Head := do
  let json ← answers.height.mapError .thrown
  match parseHexHeight (blockNumberResult pollId json) with
  | none => .error .unparseable
  | some height =>
    match expectedIdentity with
    | none => .ok ()
    | some expected => (verifyIdentity expected answers).mapError .thrown
    let json ← (query "qrl_syncing" answers.syncing).mapError .thrown
    match parseSyncing json with
    | none => .error (.thrown (.error "Invalid synchronization response"))
    | some syncing =>
      let block ← (query "qrl_getBlockByNumber" answers.block).mapError .thrown
      match parseHeadTimestamp height block with
      | none => .error (.thrown (.error "Invalid head timestamp response"))
      | some timestamp => .ok ⟨height, syncing, timestamp⟩

/-! ## Records -/

namespace EndpointRecord

def applyPollSuccess (cfg : RpcHealthConfig) (now : ℕ) (ep : EndpointRecord) (height : ℕ) :
    EndpointRecord :=
  let advanced := match ep.lastHeight with
    | none => true
    | some last => last < height
  let changedAt := if advanced then now else ep.lastHeightChangeAt
  let successes := ep.consecutiveSuccesses + 1
  let newState :=
    if advanced then
      if ep.state = .unknown ∨ ep.state = .stalled then .up
      else if ep.state = .down ∧ cfg.upAfterSuccesses ≤ successes then .up
      else ep.state
    else if cfg.stallAfterMs < now - changedAt then .stalled
    else if ep.state = .unknown then .up
    else if ep.state = .down ∧ cfg.upAfterSuccesses ≤ successes then .up
    else ep.state
  -- a height below the last one is kept too, without a change of `lastHeightChangeAt`
  { ep with
    lastHeight := some height
    lastHeightChangeAt := changedAt
    consecutiveSuccesses := successes
    consecutiveFailures := 0
    lastError := none
    state := newState }

def applyFailure (cfg : RpcHealthConfig) (ep : EndpointRecord) (error : JsError) :
    EndpointRecord :=
  let failures := ep.consecutiveFailures + 1
  { ep with
    verifiedIdentity := none
    consecutiveFailures := failures
    consecutiveSuccesses := 0
    lastError := some (sanitizeHealthError error)
    state := if cfg.downAfterFailures ≤ failures then .down else ep.state }

def hasFreshHead (cfg : RpcHealthConfig) (now : ℕ) (ep : EndpointRecord) : Bool :=
  let maxPollAge := max (cfg.pollIntervalMs * 3) (cfg.pollTimeoutMs * 2)
  match ep.lastHeight, ep.headTimestamp, ep.lastVerifiedPollAt with
  | some _, some headTimestamp, some verifiedAt =>
    ep.state = .up && ep.syncing = some false && now - verifiedAt ≤ maxPollAge &&
      now - headTimestamp ≤ cfg.maxHeadAgeMs && headTimestamp - now ≤ cfg.maxHeadFutureMs
  | _, _, _ => false

/-- The record's evidence is for the pinned identity, if there is one. -/
def matchesIdentity (expectedIdentity : Option RpcIdentity) (ep : EndpointRecord) : Bool :=
  match expectedIdentity with
  | none => true
  | some expected =>
    match ep.verifiedIdentity with
    | none => false
    | some verified =>
      verified.chainId = expected.chainId && verified.genesisHash = expected.genesisHash

/-- State first, then latency. A record without a latency comes after those with one. -/
def precedes (a b : EndpointRecord) : Bool :=
  a.state.order < b.state.order || a.state.order = b.state.order &&
    match a.lastLatencyMs, b.lastLatencyMs with
    | _, none => true
    | none, some _ => false
    | some la, some lb => la ≤ lb

end EndpointRecord

/-! ## The monitor -/

/-- A poll under way. -/
structure Poll where
  start : ℕ
  expectedIdentity : Option RpcIdentity
  responded : Bool

structure HealthMonitor where
  networks : NetworkName → List EndpointRecord
  /-- `CONFIG.RPC_EXPECTED_IDENTITIES`. -/
  expectedIdentities : NetworkName → Option RpcIdentity
  polls : NetworkName → ℕ → Option Poll

namespace HealthMonitor

/-- The monitor after `init`. -/
def init (now : ℕ) (endpoints : NetworkName → List String)
    (expectedIdentities : NetworkName → Option RpcIdentity) : HealthMonitor where
  networks network := (endpoints network).map (makeEndpointRecord now)
  expectedIdentities := expectedIdentities
  polls _ _ := none

/-- The configured endpoints ordered by preference. -/
def orderEndpointsForAttempt (st : HealthMonitor) (network : NetworkName) : List String :=
  ((st.networks network).insertionSort fun a b => a.precedes b).map (·.url)

/-- The records with a fresh head and the pinned identity. -/
def fresh (cfg : RpcHealthConfig) (now : ℕ) (st : HealthMonitor) (network : NetworkName) :
    List EndpointRecord :=
  (st.networks network).filter fun ep =>
    ep.hasFreshHead cfg now && ep.matchesIdentity (st.expectedIdentities network)

/-- Route only to independently verified recent heads, allowing small reorgs and polling
skew. -/
def readyEndpointsForAttempt (cfg : RpcHealthConfig) (now : ℕ) (st : HealthMonitor)
    (network : NetworkName) : List String :=
  let fresh := st.fresh cfg now network
  let highest := fresh.foldl (fun height ep => max height (ep.lastHeight.getD 0)) 0
  let ready := (fresh.filter fun ep =>
    highest - ep.lastHeight.getD 0 ≤ cfg.maxLagBlocks).map (·.url)
  (st.orderEndpointsForAttempt network).filter ready.contains

/-- Write to a record. -/
def modifyRecord (st : HealthMonitor) (network : NetworkName) (i : ℕ)
    (f : EndpointRecord → EndpointRecord) : HealthMonitor :=
  { st with networks := Function.update st.networks network ((st.networks network).modify i f) }

def setPoll (st : HealthMonitor) (network : NetworkName) (i : ℕ) (poll : Option Poll) :
    HealthMonitor :=
  { st with
    polls := Function.update st.polls network (Function.update (st.polls network) i poll) }

/-- What happens to the monitor. Endpoints are named by their index. -/
inductive Event where
  /-- The pinned identity of a network changes. -/
  | pin (network : NetworkName) (identity : Option RpcIdentity)
  | begin (network : NetworkName) (i : ℕ) (now : ℕ)
  /-- The first query of a poll has a response. -/
  | respond (network : NetworkName) (i : ℕ) (status : ℕ) (polledAt latencyAt : ℕ)
  /-- A poll ends. `err` is the error of its first query, if that has no response. -/
  | finish (network : NetworkName) (i : ℕ) (answers : PollAnswers) (err : JsError)
      (endedAt latencyAt changedAt : ℕ)

/-- The readings of the clock an event makes. -/
def Event.readings : Event → List ℕ
  | .pin _ _ => []
  | .begin _ _ now => [now]
  | .respond _ _ _ polledAt latencyAt => [polledAt, latencyAt]
  | .finish _ _ _ _ endedAt latencyAt changedAt => [endedAt, latencyAt, changedAt]

/-- The response of a poll's first query : a status that is not ok ends the poll. -/
def onRespond (cfg : RpcHealthConfig) (st : HealthMonitor) (network : NetworkName) (i : ℕ)
    (poll : Poll) (status polledAt latencyAt : ℕ) : HealthMonitor :=
  let arrived := fun ep : EndpointRecord =>
    { ep with lastPollAt := some polledAt, lastLatencyMs := some (latencyAt - poll.start) }
  if isOk status then
    (st.modifyRecord network i arrived).setPoll network i (some { poll with responded := true })
  else
    (st.modifyRecord network i fun ep =>
      (arrived ep).applyFailure cfg (.error s!"HTTP {status}")).setPoll network i none

/-- The record after a poll that ended with this failure. -/
def failed (cfg : RpcHealthConfig) (poll : Poll) (endedAt latencyAt : ℕ) (failure : PollFailure)
    (ep : EndpointRecord) : EndpointRecord :=
  match failure with
  | .unparseable => ep.applyFailure cfg (.error "Unparseable qrl_blockNumber result")
  | .thrown err =>
    { ep with
      lastPollAt := some endedAt
      lastLatencyMs := some (latencyAt - poll.start) }.applyFailure cfg err

/-- The record after a poll that passed the checks. -/
def passed (cfg : RpcHealthConfig) (poll : Poll) (verifiedAt latencyAt changedAt : ℕ)
    (head : Head) (ep : EndpointRecord) : EndpointRecord :=
  { ep with
    syncing := some head.syncing
    headTimestamp := some (head.timestamp * 1000)
    lastVerifiedPollAt := some verifiedAt
    verifiedIdentity := poll.expectedIdentity
    lastLatencyMs := some (latencyAt - poll.start) }.applyPollSuccess cfg changedAt head.height

/-- The end of a poll. -/
def Poll.outcome (poll : Poll) (answers : PollAnswers) (err : JsError) : Except PollFailure Head :=
  if poll.responded then verify poll.expectedIdentity poll.start answers else .error (.thrown err)

def step (cfg : RpcHealthConfig) (st : HealthMonitor) : Event → HealthMonitor
  | .pin network identity =>
    { st with
      expectedIdentities := Function.update st.expectedIdentities network identity }
  | .begin network i now =>
    match st.polls network i with
    | some _ => st
    | none =>
      if i < (st.networks network).length then
        st.setPoll network i (some ⟨now, st.expectedIdentities network, false⟩)
      else st
  | .respond network i status polledAt latencyAt =>
    match st.polls network i with
    | some poll =>
      if poll.responded then st else st.onRespond cfg network i poll status polledAt latencyAt
    | none => st
  | .finish network i answers err endedAt latencyAt changedAt =>
    match st.polls network i with
    | none => st
    | some poll =>
      (st.modifyRecord network i fun ep =>
        match Poll.outcome poll answers err with
        | .error failure => failed cfg poll endedAt latencyAt failure ep
        | .ok head => passed cfg poll endedAt latencyAt changedAt head ep).setPoll network i none

end HealthMonitor

end QrlBackend
