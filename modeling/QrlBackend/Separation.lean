import QrlBackend.Configuration
import QrlBackend.Hosts
import Mathlib.Data.List.DropRight

/-!
# Mainnet separation

The load-time check of `config/index.ts` that keeps mainnet traffic off the testnet and dev
upstreams. Endpoints are compared by a key (`rpcEndpointKey`) that is the same for two
spellings of one upstream, with one exception : `[::ffff:0:0]`, the IPv6 form of `0.0.0.0`,
is not recognised as a loopback address. So after the load mainnet is separated exactly
when it is dormant or no pair of endpoints differs by that (`mainnet_separated_iff`).

The URL parser and the Unicode lower-casing of the runtime are parameters (`Runtime`).
-/

set_option autoImplicit false

namespace QrlBackend

open Hosts

/-! ## Keys -/

/-- An http or https URL, in the parts the key reads. `port` is nothing when the URL has
none or the default one of its scheme. -/
structure HttpUrl where
  https : Bool
  host : Host
  port : Option ℕ
  pathname : List Char

/-- What the check uses of the runtime. -/
structure Runtime where
  /-- The URL parser, for http and https URLs. -/
  parseHttpUrl : String → Option HttpUrl
  toLowerCase : String → String

/-- Remove one trailing dot. -/
def stripDot (hostname : List Char) : List Char :=
  if hostname.getLast? = some '.' then hostname.dropLast else hostname

/-- `/^\[::ffff:7f[0-9a-f]{2}:[0-9a-f]{1,4}\]$/`. -/
def isMappedLoopback : List Char → Bool
  | '[' :: ':' :: ':' :: 'f' :: 'f' :: 'f' :: 'f' :: ':' :: '7' :: 'f' :: a :: b :: ':' :: rest =>
    Hex.isLowerDigit a && Hex.isLowerDigit b && rest.getLast? = some ']' &&
      rest.dropLast.all Hex.isLowerDigit && 1 ≤ rest.dropLast.length && rest.dropLast.length ≤ 4
  | _ => false

def loopbackHostnames : List (List Char) :=
  ["localhost".toList, "0.0.0.0".toList, "[::1]".toList, "[::]".toList]

/-- The hostname is a loopback spelling, as far as the key knows. -/
def isLoopbackHostname (hostname : List Char) : Bool :=
  loopbackHostnames.contains hostname ||
    isIPv4 hostname && "127.".toList.isPrefixOf hostname || isMappedLoopback hostname

/-- The path without its trailing slashes. -/
def stripSlashes (pathname : List Char) : List Char :=
  (pathname.reverse.dropWhile (· = '/')).reverse

namespace HttpUrl

def effectivePort (url : HttpUrl) : ℕ := url.port.getD (if url.https then 443 else 80)

/-- The key that endpoints are compared by. -/
def key (url : HttpUrl) : String :=
  let hostname := stripDot url.host.serialize
  let host := if isLoopbackHostname hostname then "loopback".toList else hostname
  s!"{String.ofList host}:{url.effectivePort}{String.ofList (stripSlashes url.pathname)}"

end HttpUrl

/-- Comparison key for an RPC endpoint URL. -/
def rpcEndpointKey (runtime : Runtime) (endpoint : String) : String :=
  let input := jsTrim endpoint
  match runtime.parseHttpUrl input with
  | some url => url.key
  | none => runtime.toLowerCase input

/-! ## The check -/

namespace RpcNetworks

/-- The endpoints mainnet may share no upstream with. -/
def others (networks : RpcNetworks) : List String :=
  networks.endpoints .testnet ++ networks.endpoints .dev

/-- Mainnet separation check. -/
def mainnetSeparationProblem (runtime : Runtime) (networks : RpcNetworks) : Option String :=
  let mainnetIdentity := networks.identities .mainnet
  if !(networks.endpoints .mainnet).isEmpty && mainnetIdentity.isNone then
    some ("Mainnet RPC endpoints require RPC_EXPECTED_CHAIN_ID_MAINNET and " ++
      "RPC_EXPECTED_GENESIS_HASH_MAINNET; leave the mainnet endpoint variables unset or blank " ++
      "to keep mainnet dormant")
  else
    let otherKeys := networks.others.map (rpcEndpointKey runtime)
    match (networks.endpoints .mainnet).findIdx?
        fun endpoint => otherKeys.contains (rpcEndpointKey runtime endpoint) with
    | some overlap =>
      some (s!"Mainnet RPC endpoint {overlap + 1} must differ from every testnet and dev " ++
        "RPC endpoint")
    | none =>
      match mainnetIdentity, networks.identities .testnet with
      | some mainnet, some testnet =>
        if mainnet.chainId = testnet.chainId ∨ mainnet.genesisHash = testnet.genesisHash then
          some "Mainnet chain ID and genesis hash pins must both differ from the testnet pins"
        else none
      | _, _ => none

/-- An unpinned or overlapping mainnet stays dormant. -/
def resetMainnet (runtime : Runtime) (networks : RpcNetworks) : RpcNetworks :=
  match networks.mainnetSeparationProblem runtime with
  | none => networks
  | some _ => { networks with endpoints := Function.update networks.endpoints .mainnet [] }

end RpcNetworks

/-! ## Upstreams -/

/-- The loopback spellings. -/
inductive IsLoopback : Host → Prop
  | localhost (host : Host) (h : stripDot host.serialize = "localhost".toList) : IsLoopback host
  | block (b c d : Fin 256) : IsLoopback (.ipv4 127 b c d)
  | unspecified : IsLoopback (.ipv4 0 0 0 0)
  | ipv6 : IsLoopback (.ipv6 ![0, 0, 0, 0, 0, 0, 0, 1])
  | ipv6Unspecified : IsLoopback (.ipv6 ![0, 0, 0, 0, 0, 0, 0, 0])
  | mappedBlock (b c d : Fin 256) : IsLoopback (.ipv6 (mapped 127 b c d))
  | mappedUnspecified : IsLoopback (.ipv6 (mapped 0 0 0 0))

/-- The hosts are equal up to letter case and one trailing dot, or both loopback. -/
def SameHost (host host' : Host) : Prop :=
  stripDot (host.serialize.map Char.toLower) = stripDot (host'.serialize.map Char.toLower) ∨
    IsLoopback host ∧ IsLoopback host'

/-- The URLs denote the same upstream. -/
structure SameUpstream (url url' : HttpUrl) : Prop where
  port : url.effectivePort = url'.effectivePort
  path : stripSlashes url.pathname = stripSlashes url'.pathname
  host : SameHost url.host url'.host

/-- After the load a mainnet that is not dormant is pinned, to another chain than testnet,
and shares no upstream with testnet and dev. -/
structure Separated (runtime : Runtime) (networks : RpcNetworks) : Prop where
  pinned : networks.endpoints .mainnet ≠ [] →
    ∃ mainnet, networks.identities .mainnet = some mainnet ∧
      ∀ testnet, networks.identities .testnet = some testnet →
        mainnet.chainId ≠ testnet.chainId ∧ mainnet.genesisHash ≠ testnet.genesisHash
  apart : ∀ endpoint ∈ networks.endpoints .mainnet, ∀ other ∈ networks.others,
    ∀ url url', runtime.parseHttpUrl endpoint = some url →
      runtime.parseHttpUrl other = some url' → ¬SameUpstream url url'

/-! ## Keys of one upstream -/

theorem getLast?_dotted (a b c d : Fin 256) : (dotted a b c d).getLast? ≠ some '.' := by
  have hne : decimal d ≠ [] := Nat.toDigits_ne_nil
  have hlast : (dotted a b c d).getLast? = (decimal d).getLast? := by
    simp only [dotted, List.getLast?_append, List.getLast?_cons,
      List.getLast?_eq_some_getLast hne, Option.getD_some, Option.some_or]
  rw [hlast]
  intro h
  exact dot_notMem_decimal d (List.mem_of_getLast? h)

theorem isPrefixOf_dotted (b c d : Fin 256) :
    "127.".toList.isPrefixOf (dotted 127 b c d) = true := by
  have h127 : decimal ((127 : Fin 256) : ℕ) = ['1', '2', '7'] := by decide +kernel
  rw [dotted, h127]
  rfl

theorem text_block (b : Fin 256) : ∃ x y, Hex.isLowerDigit x = true ∧ Hex.isLowerDigit y = true ∧
    Hex.text (((127 : Fin 256) : ℕ) * 256 + b) = ['7', 'f', x, y] := by
  refine ⟨Nat.digitChar (b / 16), Nat.digitChar (b % 16),
    Hex.isLowerDigit_digitChar _ (by omega), Hex.isLowerDigit_digitChar _ (by omega), ?_⟩
  revert b
  decide +kernel

/-- A mapped address that begins with 127 is recognised. -/
theorem isMappedLoopback_mapped (b c d : Fin 256) :
    isMappedLoopback (Host.ipv6 (mapped 127 b c d)).serialize = true := by
  obtain ⟨x, y, hx, hy, htext⟩ := text_block b
  have hlen := Hex.length_text (n := c * 256 + d) (k := 4) (by decide) (by omega)
  rw [serialize_mapped (by simp), htext]
  simp [isMappedLoopback, hx, hy, hlen, Hex.all_text]

/-- Every loopback spelling but one is recognised. -/
theorem isLoopbackHostname_of_isLoopback {host : Host} (h : IsLoopback host)
    (hmapped : host ≠ .ipv6 (mapped 0 0 0 0)) :
    isLoopbackHostname (stripDot host.serialize) = true := by
  cases h with
  | localhost _ h =>
    rw [h]
    decide
  | block b c d =>
    rw [Host.serialize, stripDot, if_neg (getLast?_dotted 127 b c d), isLoopbackHostname,
      isIPv4_dotted, isPrefixOf_dotted]
    simp
  | unspecified => decide +kernel
  | ipv6 => decide +kernel
  | ipv6Unspecified => decide +kernel
  | mappedBlock b c d =>
    have hbracket : (Host.ipv6 (mapped 127 b c d)).serialize.getLast? ≠ some '.' := by
      rw [Host.serialize, ← List.cons_append, List.getLast?_append]
      simp
    rw [stripDot, if_neg hbracket, isLoopbackHostname, isMappedLoopback_mapped, Bool.or_true]
  | mappedUnspecified => exact absurd rfl hmapped

local instance neZero_256 : NeZero 256 := ⟨by decide⟩

/-- One of the hosts is the IPv6 form of `0.0.0.0`, the other another loopback spelling. -/
def Unrecognised (host host' : Host) : Prop :=
  IsLoopback host ∧ IsLoopback host' ∧
    ((host = .ipv6 (mapped 0 0 0 0)) ≠ (host' = .ipv6 (mapped 0 0 0 0)))

/-- URLs of one upstream have one key, unless the key does not recognise one of the hosts. -/
theorem key_eq {url url' : HttpUrl} (h : SameUpstream url url')
    (hrecognised : ¬Unrecognised url.host url'.host) : url.key = url'.key := by
  have hlower : ∀ host : Host, host.serialize.map Char.toLower = host.serialize := fun host =>
    (List.map_congr_left (lower_serialize host)).trans (List.map_id _)
  unfold HttpUrl.key
  dsimp only
  rw [h.port, h.path]
  rcases h.host with hname | ⟨hloop, hloop'⟩
  · rw [hlower, hlower] at hname
    rw [hname]
  · by_cases hmapped : url.host = .ipv6 (mapped 0 0 0 0)
    · have hmapped' : url'.host = .ipv6 (mapped 0 0 0 0) := by
        by_contra hne
        exact hrecognised ⟨hloop, hloop', by simp [hmapped, hne]⟩
      rw [hmapped, hmapped']
    · have hmapped' : url'.host ≠ .ipv6 (mapped 0 0 0 0) := fun heq =>
        hrecognised ⟨hloop, hloop', by simp [hmapped, heq]⟩
      rw [isLoopbackHostname_of_isLoopback hloop hmapped,
        isLoopbackHostname_of_isLoopback hloop' hmapped', if_pos rfl, if_pos rfl]

/-! ## The load -/

theorem jsTrim_jsTrim (s : String) : jsTrim (jsTrim s) = jsTrim s := by
  have htrim : ∀ s, jsTrim s =
      String.ofList ((s.toList.dropWhile isJsSpace).rdropWhile isJsSpace) := fun _ => rfl
  have hhead : ∀ l : List Char, ((l.dropWhile isJsSpace).rdropWhile isJsSpace).dropWhile isJsSpace =
      (l.dropWhile isJsSpace).rdropWhile isJsSpace := by
    intro l
    rw [List.dropWhile_eq_self_iff]
    intro hlen
    -- What is left is a prefix of a list that starts with no space.
    have hstart := List.rdropWhile_prefix isJsSpace (l := l.dropWhile isJsSpace)
    rw [hstart.getElem hlen]
    exact List.dropWhile_eq_self_iff.1 (List.dropWhile_idempotent isJsSpace l)
      (lt_of_lt_of_le hlen hstart.length_le)
  rw [htrim, htrim s, String.toList_ofList, hhead, List.rdropWhile_idempotent]

/-- Entries of a list have no blanks around them. -/
theorem jsTrim_of_mem_dormant {listVar singleVar : Option String} {endpoint : String}
    (h : endpoint ∈ parseDormantEndpointList listVar singleVar) : jsTrim endpoint = endpoint := by
  unfold parseDormantEndpointList at h
  split at h
  · exact absurd h List.not_mem_nil
  · obtain ⟨entry, -, rfl⟩ := List.mem_map.1 (List.mem_of_mem_filter h)
    exact jsTrim_jsTrim _

/-- The mainnet endpoints are those of its two variables. -/
theorem mainnet_of_load {env : String → Option String} {networks : RpcNetworks}
    (hload : loadNetworks env = .ok networks) : networks.endpoints .mainnet =
      parseDormantEndpointList (env "RPC_ENDPOINTS_MAINNET") (env "RPC_ENDPOINT_MAINNET") := by
  unfold loadNetworks at hload
  generalize parseRpcIdentity (env "RPC_EXPECTED_CHAIN_ID_DEV") _ = dev at hload
  generalize parseRpcIdentity (env "RPC_EXPECTED_CHAIN_ID_TESTNET") _ = testnet at hload
  generalize parseRpcIdentity (env "RPC_EXPECTED_CHAIN_ID_MAINNET") _ = mainnet at hload
  rcases dev with _ | dev <;> rcases testnet with _ | testnet <;>
    rcases mainnet with _ | mainnet <;> cases hload
  rfl

namespace RpcNetworks

variable {runtime : Runtime} {networks : RpcNetworks}

/-- The networks pass the check : mainnet is pinned if it has endpoints, none of which has
the key of another network's, and its pins differ from testnet's. -/
theorem mainnetSeparationProblem_eq_none :
    networks.mainnetSeparationProblem runtime = none ↔
      (networks.endpoints .mainnet ≠ [] → (networks.identities .mainnet).isSome = true) ∧
      (∀ endpoint ∈ networks.endpoints .mainnet, ∀ other ∈ networks.others,
        rpcEndpointKey runtime other ≠ rpcEndpointKey runtime endpoint) ∧
      ∀ mainnet testnet, networks.identities .mainnet = some mainnet →
        networks.identities .testnet = some testnet →
        mainnet.chainId ≠ testnet.chainId ∧ mainnet.genesisHash ≠ testnet.genesisHash := by
  have hdormant : (!(networks.endpoints .mainnet).isEmpty &&
        (networks.identities .mainnet).isNone) = true ↔
      ¬(networks.endpoints .mainnet ≠ [] → (networks.identities .mainnet).isSome = true) := by
    simp
  have hoverlap : ((networks.endpoints .mainnet).findIdx? fun endpoint =>
        (networks.others.map (rpcEndpointKey runtime)).contains (rpcEndpointKey runtime endpoint)) =
          none ↔
      ∀ endpoint ∈ networks.endpoints .mainnet, ∀ other ∈ networks.others,
        rpcEndpointKey runtime other ≠ rpcEndpointKey runtime endpoint := by
    rw [List.findIdx?_eq_none_iff]
    refine forall₂_congr fun endpoint _ => ?_
    rw [Bool.eq_false_iff, ne_eq, List.contains_iff_mem, List.mem_map]
    exact ⟨fun h other hother heq => h ⟨other, hother, heq⟩,
      fun h ⟨other, hother, heq⟩ => h other hother heq⟩
  unfold mainnetSeparationProblem
  dsimp only
  rw [← hoverlap]
  split
  next h => exact iff_of_false nofun fun hall => hdormant.1 h hall.1
  next h =>
    rw [hdormant, not_not] at h
    rcases (networks.endpoints .mainnet).findIdx? _ with _ | overlap
    · rcases hm : networks.identities .mainnet with _ | mainnet
      · simpa [hm] using h
      · rcases networks.identities .testnet with _ | testnet <;> simp [not_or]
    · exact iff_of_false nofun fun hall => absurd hall.2.1 (Option.some_ne_none _)

end RpcNetworks

/-- Two endpoints denote one upstream, and the check cannot see it : one host is the IPv6
form of `0.0.0.0`, or the other network's endpoint is another URL once it is trimmed. -/
def Unseen (runtime : Runtime) (endpoint other : String) : Prop :=
  ∃ url url', runtime.parseHttpUrl endpoint = some url ∧ runtime.parseHttpUrl other = some url' ∧
    SameUpstream url url' ∧
      (Unrecognised url.host url'.host ∨ runtime.parseHttpUrl (jsTrim other) ≠ some url')

/-- Once the configuration of an environment has loaded, mainnet is separated exactly when
the check finds another problem or no pair of endpoints is one upstream unseen. -/
theorem mainnet_separated_iff (runtime : Runtime) (env : String → Option String)
    (networks : RpcNetworks) (hload : loadNetworks env = .ok networks) :
    Separated runtime (networks.resetMainnet runtime) ↔
      networks.mainnetSeparationProblem runtime ≠ none ∨
      ∀ endpoint ∈ networks.endpoints .mainnet, ∀ other ∈ networks.others,
        ¬Unseen runtime endpoint other := by
  rcases hproblem : networks.mainnetSeparationProblem runtime with _ | problem
  · have hreset : networks.resetMainnet runtime = networks := by
      rw [RpcNetworks.resetMainnet, hproblem]
    obtain ⟨hpinned, hkeys, hpins⟩ := RpcNetworks.mainnetSeparationProblem_eq_none.1 hproblem
    rw [hreset, ne_eq, eq_self, not_true, false_or]
    constructor
    · rintro hsep endpoint hendpoint other hother ⟨url, url', hparse, hparse', hsame, -⟩
      exact hsep.apart endpoint hendpoint other hother url url' hparse hparse' hsame
    · intro hseen
      refine ⟨fun hne => ?_,
        fun endpoint hendpoint other hother url url' hparse hparse' hsame => ?_⟩
      · obtain ⟨mainnet, hmainnet⟩ := Option.isSome_iff_exists.1 (hpinned hne)
        exact ⟨mainnet, hmainnet, fun testnet => hpins mainnet testnet hmainnet⟩
      · -- A pair that is one upstream and not unseen has one key, which the check refuses.
        have hnot := hseen endpoint hendpoint other hother
        have htrim : jsTrim endpoint = endpoint := by
          rw [mainnet_of_load hload] at hendpoint
          exact jsTrim_of_mem_dormant hendpoint
        have hrecognised : ¬Unrecognised url.host url'.host := fun h =>
          hnot ⟨url, url', hparse, hparse', hsame, .inl h⟩
        have htrim' : runtime.parseHttpUrl (jsTrim other) = some url' := by
          by_contra h
          exact hnot ⟨url, url', hparse, hparse', hsame, .inr h⟩
        apply hkeys endpoint hendpoint other hother
        simp only [rpcEndpointKey, htrim, htrim', hparse]
        exact (key_eq hsame hrecognised).symm
  · refine iff_of_true ?_ (.inl (Option.some_ne_none _))
    have hreset : (networks.resetMainnet runtime).endpoints .mainnet = [] := by
      rw [RpcNetworks.resetMainnet, hproblem]
      exact Function.update_self NetworkName.mainnet [] networks.endpoints
    exact ⟨fun hne => absurd hreset hne,
      fun endpoint hendpoint => by simp [hreset] at hendpoint⟩

/-! ## One environment -/

/-- Mainnet is pinned and has one endpoint. Testnet has its default one. -/
def oneMainnet (endpoint : String) : String → Option String := fun name =>
  if name = "RPC_ENDPOINTS_MAINNET" then some endpoint
  else if name = "RPC_EXPECTED_CHAIN_ID_MAINNET" then some "1"
  else if name = "RPC_EXPECTED_GENESIS_HASH_MAINNET" then
    some "0x00000000000000000000000000000000000000000000000000000000000000ab"
  else none

/-- How the URL parser reads three endpoints. -/
def threeUrls : Runtime where
  parseHttpUrl := fun endpoint =>
    if endpoint = "http://localhost:8545" then
      some ⟨false, .domain "localhost" (by decide +kernel), some 8545, ['/']⟩
    else if endpoint = "http://node:8545" then
      some ⟨false, .domain "node" (by decide +kernel), some 8545, ['/']⟩
    else if endpoint = "http://[::ffff:0.0.0.0]:8545" then
      some ⟨false, .ipv6 (mapped 0 0 0 0), some 8545, ['/']⟩
    else none
  toLowerCase := String.toLower

/-- The networks `oneMainnet` loads. -/
def oneMainnetNetworks (endpoint : String) : RpcNetworks :=
  match loadNetworks (oneMainnet endpoint) with
  | .ok networks => networks
  | .error _ => ⟨fun _ => [], fun _ => none⟩

theorem mainnet_separated_iff_node :
    Separated threeUrls ((oneMainnetNetworks "http://node:8545").resetMainnet threeUrls) := by
  refine (mainnet_separated_iff threeUrls (oneMainnet "http://node:8545")
    (oneMainnetNetworks "http://node:8545") rfl).2 (.inr ?_)
  have hmainnet : (oneMainnetNetworks "http://node:8545").endpoints .mainnet =
      ["http://node:8545"] := by decide +kernel
  have hothers : (oneMainnetNetworks "http://node:8545").others = ["http://localhost:8545"] := by
    decide +kernel
  rw [hmainnet, hothers]
  simp only [List.mem_singleton, forall_eq]
  rintro ⟨url, url', hnode, hlocal, -, ⟨-, -, hmapped⟩ | htrim⟩
  · cases hnode
    cases hlocal
    exact hmapped (by simp)
  · exact htrim hlocal

/-- Mainnet and testnet share the loopback upstream. -/
theorem mainnet_not_separated :
    ¬∀ (runtime : Runtime) (env : String → Option String) (networks : RpcNetworks),
      loadNetworks env = .ok networks → Separated runtime (networks.resetMainnet runtime) := by
  intro hall
  have hsep := hall threeUrls (oneMainnet "http://[::ffff:0.0.0.0]:8545")
    (oneMainnetNetworks "http://[::ffff:0.0.0.0]:8545") rfl
  have hsame : SameUpstream ⟨false, .ipv6 (mapped 0 0 0 0), some 8545, ['/']⟩
      ⟨false, .domain "localhost" (by decide +kernel), some 8545, ['/']⟩ :=
    ⟨rfl, rfl, .inr ⟨.mappedUnspecified, .localhost _ (by decide +kernel)⟩⟩
  exact hsep.apart "http://[::ffff:0.0.0.0]:8545" (by decide +kernel) "http://localhost:8545"
    (by decide +kernel) _ _ rfl rfl hsame

end QrlBackend
