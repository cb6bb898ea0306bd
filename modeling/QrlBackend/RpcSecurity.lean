import QrlBackend.QrlAddress
import QrlBackend.RpcService

/-!
# Checks of RPC requests

`rpcParamsValidator` of `middleware/rpc-security.ts` : the checks that the `params` of a
request pass before `executeRPC`, and the filter that is forwarded for `qrl_getLogs`.

A check is given as the message of the refusal it ends in, if it ends in one.
-/

set_option autoImplicit false

namespace QrlBackend

/-- What `sendRpcError` answers. -/
structure RpcError where
  statusCode : ℕ
  id : RpcId
  errorCode : ℤ
  message : String

structure RpcRequestBody where
  method : Option Json
  params : Option Json
  id : RpcId

def readRpcBody (body : Json) : RpcRequestBody :=
  if !body.isRecord then ⟨none, none, .null⟩
  else ⟨body.field? "method", body.field? "params", normalizeRpcId (body.field? "id")⟩

def readBodyRecord : Json → List (String × Json)
  | .object fields => fields
  | _ => []

/-- The record with this property, at its place if it is there already. -/
def withField (key : String) (value : Json) : List (String × Json) → List (String × Json)
  | [] => [(key, value)]
  | field :: fields =>
    if field.1 = key then (key, value) :: fields else field :: withField key value fields

/-- A property that is neither `undefined` nor `null`. -/
def nonNull? (fields : List (String × Json)) (key : String) : Option Json :=
  (fields.lookup key).filter (!·.isNull)

/-! ## Block tags, words and hashes -/

/-- The characters that begin a hexadecimal number after its `0`, in either case. -/
def hexMarks : List Char := ['x', 'X']

/-- The digits of a text of this form : `0`, one of the marks, and hex digits. -/
def hexDigits? (marks : List Char) (s : String) : Option (List Char) :=
  match s.toList with
  | '0' :: x :: digits => if x ∈ marks ∧ digits.all Hex.isDigit then some digits else none
  | _ => none

/-- `BigInt` of a hexadecimal number. -/
def hexBigInt (digits : List Char) : ℕ := Nat.ofDigits 16 (digits.reverse.map hexValue)

/-- `/^0x[0-9a-f]{128}$/i`. -/
def isLogWord (s : String) : Bool :=
  (hexDigits? hexMarks s).any fun digits => digits.length = 128

def isNullOrLogWord : Json → Bool
  | .null => true
  | .string s => isLogWord s
  | _ => false

def isQrlLogTopic : Json → Bool
  | .array choices => choices.all isNullOrLogWord
  | value => isNullOrLogWord value

/-- The latest, the pending or the earliest block. -/
def isNamedBlockTag : Option Json → Bool
  | some (.string v) => v = "latest" || v = "pending" || v = "earliest"
  | _ => false

/-- The number of `/^0x[0-9a-f]{1,64}$/i`. Named tags and invalid values have none. -/
def parseBlockTag : Option Json → Option ℕ
  | some (.string v) =>
    if isNamedBlockTag (some (.string v)) then none
    else
      match hexDigits? hexMarks v with
      | some digits =>
        if 1 ≤ digits.length ∧ digits.length ≤ 64 then some (hexBigInt digits) else none
      | none => none
  | _ => none

/-! ## The checks of the methods -/

section

variable (shake256 : String → ℕ → List UInt8) (params : Option (List Json))

/-- `params?.[0]`, a string. -/
def firstString? : Option String :=
  match params with
  | some (.string s :: _) => some s
  | _ => none

def addressRefusal : Option String :=
  match firstString? params with
  | none => some "Invalid params: address required"
  | some address =>
    if !isQrlAddress shake256 address then some "Invalid params: invalid address format" else none

/-- `/^0x(?:[a-fA-F0-9]{2})+$/`. -/
def isByteAlignedHex (s : String) : Bool :=
  (hexDigits? ['x'] s).any fun digits => 0 < digits.length && digits.length % 2 = 0

def rawTransactionRefusal : Option String :=
  match firstString? params with
  | none => some "Invalid params: signed transaction required"
  | some rawTx =>
    if !isByteAlignedHex rawTx then some "Invalid params: transaction must be hex-encoded"
    else none

def noParamsRefusal : Option String :=
  if params.any (!·.isEmpty) then some "Invalid params: no params expected" else none

def transactionHashRefusal (method : String) : Option String :=
  if method = "qrl_getTransactionByHash" ∧ params.map List.length ≠ some 1 then
    some "Invalid params: exactly one transaction hash required"
  else
    match firstString? params with
    | none => some "Invalid params: transaction hash required"
    | some txHash =>
      if !isHash txHash then some "Invalid params: invalid transaction hash format" else none

def transactionObjectRefusal : Option String :=
  match params with
  | some (.object _ :: _) => none
  | _ => some "Invalid params: transaction object required"

end

/-! ## The filter of `qrl_getLogs` -/

def maxGetLogsBlockRange : ℕ := 5000

def maxGetLogsAddresses : ℕ := 10

def getLogsFilterKeys : List String := ["fromBlock", "toBlock", "blockHash", "address", "topics"]

section

variable (shake256 : String → ℕ → List UInt8) (filter : List (String × Json))

def keysRefusal : Option String :=
  if !filter.all fun field => getLogsFilterKeys.contains field.1 then
    some "Invalid params: unknown or non-canonical filter key"
  else none

/-- The query of a single block. -/
def blockHashRefusal (blockHash : Json) : Option String :=
  let valid := match blockHash with
    | .string hash => isHash hash
    | _ => false
  if !valid || (filter.lookup "fromBlock").isSome || (filter.lookup "toBlock").isSome then
    some "Invalid params: blockHash must be a 32-byte hash and cannot be combined with a range"
  else none

/-- A block tag that is there and is neither a number nor a name. -/
def isInvalidBlockTag (key : String) : Bool :=
  (nonNull? filter key).isSome && (parseBlockTag (filter.lookup key)).isNone &&
    !isNamedBlockTag (filter.lookup key)

/-- `filter[key] === value`. -/
def filterIs (key value : String) : Bool :=
  match filter.lookup key with
  | some (.string s) => s = value
  | _ => false

def rangeRefusal : Option String :=
  let fromBlock := parseBlockTag (filter.lookup "fromBlock")
  let toBlock := parseBlockTag (filter.lookup "toBlock")
  let range : Option ℤ := fromBlock.bind fun a => toBlock.map fun b : ℕ => (b : ℤ) - a
  let dynamicEnd := (nonNull? filter "toBlock").isNone || isNamedBlockTag (filter.lookup "toBlock")
  if isInvalidBlockTag filter "fromBlock" || isInvalidBlockTag filter "toBlock" then
    some "Invalid params: invalid block tag"
  -- Open-ended scans from genesis are never legitimate, however zero is spelled.
  else if filterIs filter "fromBlock" "earliest" || fromBlock = some 0 then
    some ("Invalid params: qrl_getLogs from genesis is not allowed; " ++
      "supply a recent fromBlock")
  else if range.any fun range => range < 0 || (maxGetLogsBlockRange : ℤ) < range then
    some s!"Invalid params: qrl_getLogs block range exceeds {maxGetLogsBlockRange}"
  else if fromBlock.isSome && dynamicEnd then
    some "Invalid params: numeric fromBlock requires a numeric toBlock"
  else none

def blocksRefusal : Option String :=
  match nonNull? filter "blockHash" with
  | some blockHash => blockHashRefusal filter blockHash
  | none => rangeRefusal filter

/-- `isQrlAddress` of a value of any type. -/
def isAddressValue : Json → Bool
  | .string value => isQrlAddress shake256 value
  | _ => false

def addressList : Json → List Json
  | .array items => items
  | address => [address]

def addressesRefusal : Option String :=
  match nonNull? filter "address" with
  | none => none
  | some address =>
    let addrs := addressList address
    if maxGetLogsAddresses < addrs.length then
      some s!"Invalid params: too many addresses (max {maxGetLogsAddresses})"
    else if !addrs.all (isAddressValue shake256) then
      some s!"Invalid params: QRL addresses must match {qrlAddressFormat}"
    else none

def topicsRefusal : Option String :=
  match nonNull? filter "topics" with
  | none => none
  | some topics =>
    let valid := match topics with
      | .array topics => topics.length ≤ 4 && topics.all isQrlLogTopic
      | _ => false
    if !valid then
      some "Invalid params: log topics must be null or 0x-prefixed 64-byte values"
    else none

/-- The first of the checks that refuses the filter. -/
def filterRefusal : Option String :=
  (keysRefusal filter).or <| (blocksRefusal filter).or <|
    (addressesRefusal shake256 filter).or (topicsRefusal filter)

/-- A filter built only from the validated fields. -/
def canonicalFilter : List (String × Json) :=
  getLogsFilterKeys.filterMap fun key => (nonNull? filter key).map fun value => (key, value)

end

/-- The `params` that take the place of the client's. -/
def getLogsParams (shake256 : String → ℕ → List UInt8) (params : Option (List Json)) :
    Except String Json :=
  match params with
  | some [.object filter] =>
    match filterRefusal shake256 filter with
    | some message => .error message
    | none => .ok (.array [.object (canonicalFilter filter)])
  | _ => .error "Invalid params: exactly one filter object required"

/-! ## The validator -/

/-- The check of a method that leaves the `params` as they are. -/
def methodRefusal (shake256 : String → ℕ → List UInt8) (method : String)
    (params : Option (List Json)) : Option String :=
  if method ∈ ["qrl_getBalance", "qrl_getTransactionCount", "qrl_getCode"] then
    addressRefusal shake256 params
  else if method = "qrl_sendRawTransaction" then rawTransactionRefusal params
  else if method = "qrl_maxPriorityFeePerGas" then noParamsRefusal params
  else if method ∈ ["qrl_getTransactionReceipt", "qrl_getTransactionByHash"] then
    transactionHashRefusal params method
  else if method ∈ ["qrl_call", "qrl_estimateGas"] then transactionObjectRefusal params
  else none

/-- `params` as an array, or absent. -/
def paramsArray? : Option Json → Option (Option (List Json))
  | none => some none
  | some .null => some none
  | some (.array params) => some (some params)
  | some _ => none

/-- The body that is passed on, or the answer. -/
def rpcParamsValidator (shake256 : String → ℕ → List UInt8) (body : Json) :
    Except RpcError Json :=
  let rpc := readRpcBody body
  let invalid (message : String) : RpcError := ⟨400, rpc.id, -32602, message⟩
  match paramsArray? rpc.params with
  | none => .error (invalid "Invalid params: must be an array")
  | some params =>
    match rpc.method with
    | some (.string method) =>
      if method = "qrl_getLogs" then
        match getLogsParams shake256 params with
        | .error message => .error (invalid message)
        | .ok forwarded => .ok (.object (withField "params" forwarded (readBodyRecord body)))
      else
        match methodRefusal shake256 method params with
        | some message => .error (invalid message)
        | none => .ok body
    | _ => .ok body

end QrlBackend
