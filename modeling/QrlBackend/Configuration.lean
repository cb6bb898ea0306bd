import QrlBackend.HexText

/-!
# The RPC configuration

Networks, endpoint lists and pinned chain identities, as `config/index.ts` reads them from
the environment. A pin is built from a checked chain ID and a checked genesis hash only, so
its two texts are `0x` and lower-case hex digits, which the structure records.
-/

set_option autoImplicit false

namespace QrlBackend

inductive NetworkName where
  | dev
  | testnet
  | mainnet
  deriving DecidableEq

namespace NetworkName

def text : NetworkName → String
  | .dev => "dev"
  | .testnet => "testnet"
  | .mainnet => "mainnet"

theorem text_injective : Function.Injective text := by
  intro n n' h
  cases n <;> cases n' <;> first | rfl | exact absurd h (by decide)

end NetworkName

def isNetworkName (value : String) : Option NetworkName :=
  if value = "dev" then some .dev
  else if value = "testnet" then some .testnet
  else if value = "mainnet" then some .mainnet
  else none

theorem text_of_isNetworkName {value : String} {network : NetworkName}
    (h : isNetworkName value = some network) : value = network.text := by
  unfold isNetworkName at h
  split at h
  next hv => cases h; exact hv
  next =>
    split at h
    next hv => cases h; exact hv
    next =>
      split at h
      next hv => cases h; exact hv
      next => cases h

/-! ## Numerals -/

/-- `0x` and lower-case hex digits. -/
def isLowerHex (s : String) : Bool :=
  match s.toList with
  | '0' :: 'x' :: digits => digits.all Hex.isLowerDigit
  | _ => false

/-- `BigInt` of a decimal numeral. -/
def decimalValue (s : String) : ℕ :=
  Nat.ofDigits 10 (s.toList.reverse.map fun c => c.toNat - '0'.toNat)

/-! ## Pinned identities -/

structure RpcIdentity where
  chainId : String
  genesisHash : String
  chainId_hex : isLowerHex chainId = true
  genesisHash_hex : isLowerHex genesisHash = true
  deriving DecidableEq

/-- `/^[1-9][0-9]{0,77}$/`. -/
def isDecimalChainId (s : String) : Bool :=
  match s.toList with
  | c :: rest => ('1' ≤ c && c ≤ '9') && rest.all Char.isDigit && rest.length ≤ 77
  | [] => false

/-- `/^0x[0-9a-fA-F]{64}$/`. -/
def isHash (s : String) : Bool :=
  match s.toList with
  | '0' :: 'x' :: digits => digits.all Hex.isDigit && digits.length = 64
  | _ => false

def identityError : String :=
  "RPC expected identity requires both a positive decimal uint256 chain ID and a 32-byte " ++
    "genesis hash"

theorem isLowerHex_hexDigits (n : ℕ) :
    isLowerHex (String.ofList ('0' :: 'x' :: Hex.digits n)) = true := by
  simp only [isLowerHex, String.toList_ofList]
  exact Hex.all_digits n

theorem isLowerHex_toLower {s : String} (h : isHash s = true) : isLowerHex s.toLower = true := by
  unfold isHash at h
  split at h
  next digits hs =>
    rw [Bool.and_eq_true, List.all_eq_true] at h
    have hlower : s.toLower.toList = '0' :: 'x' :: digits.map Char.toLower := by
      rw [Hex.toList_toLower, hs]
      rfl
    simp only [isLowerHex, hlower, List.all_map, List.all_eq_true]
    exact fun c hc => Hex.isLowerDigit_toLower (h.1 c hc)
  next => cases h

/-- Both pins are optional together. Partial or malformed identity configuration is fatal. -/
def parseRpcIdentity (chainId genesisHash : Option String) : Except String (Option RpcIdentity) :=
  match chainId, genesisHash with
  | none, none => .ok none
  | some chainId, some genesisHash =>
    if h : isDecimalChainId chainId = true ∧ isHash genesisHash = true ∧
        decimalValue chainId < 2 ^ 256 then
      .ok (some {
        chainId := String.ofList ('0' :: 'x' :: Hex.digits (decimalValue chainId))
        genesisHash := genesisHash.toLower
        chainId_hex := isLowerHex_hexDigits _
        genesisHash_hex := isLowerHex_toLower h.2.1 })
    else .error identityError
  | _, _ => .error identityError

/-! ## Endpoint lists -/

/-- The characters `trim` removes. -/
def isJsSpace (c : Char) : Bool :=
  c.toNat ∈ [9, 10, 11, 12, 13, 32, 0xa0, 0x1680, 0x2028, 0x2029, 0x202f, 0x205f, 0x3000, 0xfeff] ∨
    0x2000 ≤ c.toNat ∧ c.toNat ≤ 0x200a

/-- `trim`. -/
def jsTrim (s : String) : String :=
  String.ofList ((s.toList.dropWhile isJsSpace).reverse.dropWhile isJsSpace).reverse

/-- The trimmed non-empty entries of a comma-separated list. -/
def entries (value : String) : List String :=
  ((value.toList.splitOn ',').map fun entry => jsTrim (String.ofList entry)).filter (!·.isEmpty)

/-- The endpoint list of testnet : the list variable, else the single one, else a default. -/
def parseEndpointList (listVar singleVar : Option String) (fallback : List String) : List String :=
  let list := match listVar with
    | some value => entries value
    | none => []
  if !list.isEmpty then list
  else
    match singleVar with
    | some value => if value.isEmpty then fallback else [value]
    | none => fallback

/-- The endpoint list of a network that stays dormant until an operator configures it. -/
def parseDormantEndpointList (listVar singleVar : Option String) : List String :=
  match listVar.or singleVar with
  | none => []
  | some value => entries value

/-- `CONFIG.RPC_ENDPOINTS` and `CONFIG.RPC_EXPECTED_IDENTITIES`. -/
structure RpcNetworks where
  endpoints : NetworkName → List String
  identities : NetworkName → Option RpcIdentity

/-- The networks of an environment. A malformed identity keeps the configuration from
loading. -/
def loadNetworks (env : String → Option String) : Except String RpcNetworks := do
  let dev ← parseRpcIdentity (env "RPC_EXPECTED_CHAIN_ID_DEV") (env "RPC_EXPECTED_GENESIS_HASH_DEV")
  let testnet ← parseRpcIdentity (env "RPC_EXPECTED_CHAIN_ID_TESTNET")
    (env "RPC_EXPECTED_GENESIS_HASH_TESTNET")
  let mainnet ← parseRpcIdentity (env "RPC_EXPECTED_CHAIN_ID_MAINNET")
    (env "RPC_EXPECTED_GENESIS_HASH_MAINNET")
  .ok {
    endpoints := fun
      | .dev => parseDormantEndpointList (env "RPC_ENDPOINTS_DEV") (env "RPC_ENDPOINT_DEV")
      | .testnet => parseEndpointList (env "RPC_ENDPOINTS_TESTNET") (env "RPC_ENDPOINT_TESTNET")
          ["http://localhost:8545"]
      | .mainnet =>
        parseDormantEndpointList (env "RPC_ENDPOINTS_MAINNET") (env "RPC_ENDPOINT_MAINNET")
    identities := fun
      | .dev => dev
      | .testnet => testnet
      | .mainnet => mainnet }

end QrlBackend
