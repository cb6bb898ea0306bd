import QrlBackend.PinnedIdentity
import QrlBackend.RpcVetting

/-!
# Pinned networks

`pinned_calls` goes from the environment the server started with to the upstreams it contacts.
A call on a pinned network contacts only endpoints whose last poll had answers of the pinned
chain, and a call on mainnet only endpoints of a mainnet that is pinned, to another chain than
testnet, and shares none with testnet and dev. The server changes no pin once it runs.
-/

set_option autoImplicit false

namespace QrlBackend

namespace HealthMonitor

variable {cfg : RpcHealthConfig}

/-- Only a change of a pin changes a pin. -/
theorem expectedIdentities_step (st : HealthMonitor) {event : Event}
    (h : ∀ network identity, event ≠ .pin network identity) :
    (step cfg st event).expectedIdentities = st.expectedIdentities := by
  cases event with
  | pin network identity => exact absurd rfl (h network identity)
  | begin network i now =>
    unfold step
    dsimp only
    split
    · rfl
    · split <;> rfl
  | respond network i status polledAt latencyAt =>
    unfold step onRespond
    dsimp only
    split
    · split
      · rfl
      · split <;> rfl
    · rfl
  | finish network i answers err endedAt latencyAt changedAt =>
    unfold step
    dsimp only
    split <;> rfl

theorem expectedIdentities_run (st : HealthMonitor) {events : List Event}
    (h : ∀ network identity, .pin network identity ∉ events) :
    (Runs.run (step cfg) st events).expectedIdentities = st.expectedIdentities := by
  induction events using List.reverseRecOn with
  | nil => rfl
  | append_singleton events event ih =>
    rw [Runs.run_snoc, expectedIdentities_step, ih]
    · exact fun network identity hmem => h network identity (List.mem_append_left _ hmem)
    · rintro network identity rfl
      exact h network identity (List.mem_append_right _ (List.mem_singleton_self _))

/-- A poll that passed the checks passed those of its pin. -/
theorem verifyIdentity_of_verify {identity : RpcIdentity} {start : ℕ} {answers : PollAnswers}
    {head : Head} (h : verify (some identity) start answers = .ok head) :
    verifyIdentity identity answers = .ok () := by
  unfold verify at h
  cases hheight : answers.height with
  | error =>
    rw [hheight] at h
    cases h
  | ok json =>
    rw [hheight] at h
    dsimp only [Except.mapError, bind, Except.bind] at h
    split at h
    · cases h
    · cases hidentity : verifyIdentity identity answers with
      | error =>
        rw [hidentity] at h
        cases h
      | ok => rfl

/-- A record that matches a pin has a last poll that passed the checks of that pin. -/
theorem Tracked.identified {ep : EndpointRecord} {results : List PollResult}
    (h : Tracked cfg ep results) {identity : RpcIdentity}
    (hmatches : ep.matchesIdentity (some identity) = true) {t : ℕ}
    (hfresh : ep.hasFreshHead cfg t = true) :
    ∃ before latest, results = before ++ [.passed latest] ∧
      verifyIdentity identity latest.answers = .ok () := by
  unfold EndpointRecord.hasFreshHead at hfresh
  cases h with
  | unseen n hheight =>
    rw [hheight] at hfresh
    cases hfresh
  | seen before latest increase failures hchecked hincrease hheight hchange hverified htimestamp
      hsyncing hfailures hidentity hup =>
    simp only [EndpointRecord.matchesIdentity, hidentity] at hmatches
    by_cases hnone : failures = 0
    · subst hnone
      refine ⟨before, latest, rfl, ?_⟩
      rw [if_pos rfl] at hmatches
      cases hexpected : latest.expectedIdentity with
      | none =>
        rw [hexpected] at hmatches
        cases hmatches
      | some verified =>
        rw [hexpected] at hmatches hchecked
        simp only [Bool.and_eq_true, decide_eq_true_eq] at hmatches
        obtain rfl := RpcIdentity.ext hmatches.1 hmatches.2
        exact verifyIdentity_of_verify hchecked
    · rw [if_neg hnone] at hmatches
      cases hmatches

end HealthMonitor

/-! ## Pins of the environment -/

def chainIdVariable : NetworkName → String
  | .dev => "RPC_EXPECTED_CHAIN_ID_DEV"
  | .testnet => "RPC_EXPECTED_CHAIN_ID_TESTNET"
  | .mainnet => "RPC_EXPECTED_CHAIN_ID_MAINNET"

def genesisHashVariable : NetworkName → String
  | .dev => "RPC_EXPECTED_GENESIS_HASH_DEV"
  | .testnet => "RPC_EXPECTED_GENESIS_HASH_TESTNET"
  | .mainnet => "RPC_EXPECTED_GENESIS_HASH_MAINNET"

/-- The environment pins the network to the chain with this ID and this genesis hash. -/
structure PinnedTo (env : String → Option String) (network : NetworkName) (n : ℕ)
    (g : List UInt8) : Prop where
  pos : 0 < n
  chainId : env (chainIdVariable network) = some n.repr
  genesisHash : ∃ s, env (genesisHashVariable network) = some s ∧ SpellsHash g s

variable {env : String → Option String} {networks : RpcNetworks}

theorem identity_of_load (hload : loadNetworks env = .ok networks) (network : NetworkName) :
    parseRpcIdentity (env (chainIdVariable network)) (env (genesisHashVariable network)) =
      .ok (networks.identities network) := by
  unfold loadNetworks at hload
  cases hdev : parseRpcIdentity (env "RPC_EXPECTED_CHAIN_ID_DEV")
      (env "RPC_EXPECTED_GENESIS_HASH_DEV") with
  | error =>
    rw [hdev] at hload
    cases hload
  | ok dev =>
    cases htestnet : parseRpcIdentity (env "RPC_EXPECTED_CHAIN_ID_TESTNET")
        (env "RPC_EXPECTED_GENESIS_HASH_TESTNET") with
    | error =>
      rw [hdev, htestnet] at hload
      cases hload
    | ok testnet =>
      cases hmainnet : parseRpcIdentity (env "RPC_EXPECTED_CHAIN_ID_MAINNET")
          (env "RPC_EXPECTED_GENESIS_HASH_MAINNET") with
      | error =>
        rw [hdev, htestnet, hmainnet] at hload
        cases hload
      | ok mainnet =>
        rw [hdev, htestnet, hmainnet] at hload
        cases hload
        cases network with
        | dev => exact hdev
        | testnet => exact htestnet
        | mainnet => exact hmainnet

/-- A pin that is loaded is one of the environment. -/
theorem pinnedTo_of_identity (hload : loadNetworks env = .ok networks) {network : NetworkName}
    {identity : RpcIdentity} (h : networks.identities network = some identity) :
    ∃ n g, PinnedTo env network n g ∧ Pins n g identity := by
  have hparse := identity_of_load hload network
  rw [h] at hparse
  cases hchain : env (chainIdVariable network) with
  | none =>
    rw [hchain] at hparse
    cases hgenesis : env (genesisHashVariable network) <;> rw [hgenesis] at hparse <;> cases hparse
  | some chainId =>
    cases hgenesis : env (genesisHashVariable network) with
    | none =>
      rw [hchain, hgenesis] at hparse
      cases hparse
    | some genesisHash =>
      rw [hchain, hgenesis] at hparse
      obtain ⟨⟨n, hn, hlt, rfl⟩, g, hg⟩ :=
        (parseRpcIdentity_iff chainId genesisHash).1 ⟨identity, hparse⟩
      exact ⟨n, g, ⟨hn, hchain, genesisHash, hgenesis, hg⟩, pins_of_parse hn hlt hg hparse⟩

/-- A pin of the environment is loaded. -/
theorem identity_of_pinnedTo (hload : loadNetworks env = .ok networks) {network : NetworkName}
    {n : ℕ} {g : List UInt8} (h : PinnedTo env network n g) :
    ∃ identity, networks.identities network = some identity ∧ Pins n g identity := by
  obtain ⟨s, hs, hg⟩ := h.genesisHash
  have hparse := identity_of_load hload network
  rw [h.chainId, hs] at hparse
  cases hidentity : networks.identities network with
  | none =>
    rw [hidentity] at hparse
    simp only [parseRpcIdentity] at hparse
    split at hparse <;> cases hparse
  | some identity =>
    rw [hidentity] at hparse
    obtain ⟨⟨n', hn', hlt', hrepr⟩, -⟩ := (parseRpcIdentity_iff n.repr s).1 ⟨identity, hparse⟩
    obtain rfl : n = n' := by rw [← decimalValue_repr h.pos, hrepr, decimalValue_repr hn']
    exact ⟨identity, rfl, pins_of_parse hn' hlt' hg hparse⟩

/-- An endpoint that is left after the reset is one of a network that passed the check. -/
theorem mem_resetMainnet {runtime : Runtime} {network : NetworkName} {url : String}
    (h : url ∈ (networks.resetMainnet runtime).endpoints network) :
    url ∈ networks.endpoints network ∧
      (network = .mainnet → networks.mainnetSeparationProblem runtime = none) := by
  unfold RpcNetworks.resetMainnet at h
  split at h
  next hproblem => exact ⟨h, fun _ => hproblem⟩
  next =>
    dsimp only at h
    by_cases hnetwork : network = .mainnet
    · subst hnetwork
      rw [Function.update_self] at h
      cases h
    · rw [Function.update_of_ne hnetwork] at h
      exact ⟨h, fun hmainnet => absurd hmainnet hnetwork⟩

/-- Mainnet is pinned, to another chain than testnet, and the endpoint is no other network's. -/
structure MainnetApart (runtime : Runtime) (env : String → Option String)
    (networks : RpcNetworks) (url : String) : Prop where
  pinned : ∃ n g, PinnedTo env .mainnet n g ∧
    ∀ n' g', PinnedTo env .testnet n' g' → n ≠ n' ∧ g ≠ g'
  apart : ∀ other ∈ networks.others, rpcEndpointKey runtime other ≠ rpcEndpointKey runtime url

theorem mainnetApart_of_mem (hload : loadNetworks env = .ok networks) {runtime : Runtime}
    {url : String} (h : url ∈ (networks.resetMainnet runtime).endpoints .mainnet) :
    MainnetApart runtime env networks url := by
  obtain ⟨hmem, hproblem⟩ := mem_resetMainnet h
  obtain ⟨hpinned, hkeys, hpins⟩ := RpcNetworks.mainnetSeparationProblem_eq_none.1 (hproblem rfl)
  refine ⟨?_, hkeys url hmem⟩
  obtain ⟨identity, hidentity⟩ := Option.isSome_iff_exists.1 (hpinned (List.ne_nil_of_mem hmem))
  obtain ⟨n, g, hpin, hpins'⟩ := pinnedTo_of_identity hload hidentity
  refine ⟨n, g, hpin, fun n' g' htestnet => ?_⟩
  obtain ⟨identity', hidentity', hpins''⟩ := identity_of_pinnedTo hload htestnet
  obtain ⟨hchain, hgenesis⟩ := hpins identity identity' hidentity hidentity'
  exact ⟨fun heq => hchain ((hpins'.chainId_eq_iff hpins'').2 heq),
    fun heq => hgenesis ((hpins'.genesisHash_eq_iff hpins'').2 heq)⟩

/-! ## Calls -/

namespace RpcProxy

variable [Unknown (Option Json)]

/-- The last poll of the endpoint that ended was of the chain with this ID and genesis hash. -/
def LastOnChain (app : RpcApp) (now : ℕ) (expectedIdentities : NetworkName → Option RpcIdentity)
    (events : List RpcProxyEvent) (network : NetworkName) (url : String) (n : ℕ)
    (g : List UInt8) : Prop :=
  ∃ k earlier latest, (app.rpc.endpoints network)[k]? = some url ∧
    HealthMonitor.history app.rpc.health (.init now app.rpc.endpoints expectedIdentities)
      (events.filterMap monitored?) network k = earlier ++ [.passed latest] ∧
    OnChain n g latest.answers

theorem lastOnChain_of_ready {app : RpcApp} {now t : ℕ} {events : List RpcProxyEvent}
    (hload : loadNetworks env = .ok networks)
    (hpins : ∀ network identity, .monitor (.pin network identity) ∉ events)
    {network : NetworkName} {url : String}
    (hready : url ∈ (after app now networks.identities
      events).service.monitor.readyEndpointsForAttempt app.rpc.health t network)
    {n : ℕ} {g : List UInt8} (hpinned : PinnedTo env network n g) :
    LastOnChain app now networks.identities events network url n g := by
  obtain ⟨identity, hidentity, hpin⟩ := identity_of_pinnedTo hload hpinned
  have hkept : ∀ network identity, .pin network identity ∉ events.filterMap monitored? := by
    intro network identity hmem
    obtain ⟨event, hevent, hmonitored⟩ := List.mem_filterMap.1 hmem
    cases event with
    | post | settle | retry | expire => cases hmonitored
    | monitor event =>
      cases hmonitored
      exact hpins network identity hevent
  rw [monitor_after] at hready
  obtain ⟨k, ep, hep, rfl, hfresh, hmatches⟩ := HealthMonitor.exists_of_ready hready
  rw [HealthMonitor.expectedIdentities_run _ hkept] at hmatches
  have hurl := HealthMonitor.urls_after app.rpc.health now app.rpc.endpoints networks.identities
    (events.filterMap monitored?) network k
  have htracked := HealthMonitor.tracked_after app.rpc.health now app.rpc.endpoints
    networks.identities (events.filterMap monitored?) network k ep hep
  rw [hep, Option.map_some] at hurl
  rw [show (HealthMonitor.init now app.rpc.endpoints networks.identities).expectedIdentities
    network = some identity from hidentity] at hmatches
  obtain ⟨earlier, latest, hhistory, hverified⟩ := htracked.identified hmatches hfresh
  exact ⟨k, earlier, latest, hurl.symm, hhistory,
    (hpin.verifyIdentity_iff_onChain latest.answers).1 hverified⟩

/-- An upstream is contacted only for a request of its network, and if that is pinned, only
after its last poll was of the pinned chain. A mainnet upstream is contacted only if mainnet is
pinned, apart from testnet's chain and from the endpoints of the other networks. -/
theorem pinned_calls (runtime : Runtime) (env : String → Option String) (networks : RpcNetworks)
    (hload : loadNetworks env = .ok networks) (app : RpcApp)
    (hendpoints : app.rpc.endpoints = (networks.resetMainnet runtime).endpoints) (now : ℕ)
    (events : List RpcProxyEvent)
    (hpins : ∀ network identity, .monitor (.pin network identity) ∉ events) (i : ℕ) (url : String)
    (hcontacted : (i, url) ∈
      (after app now networks.identities events).service.contacted) :
    ∃ before post rest network, events = before ++ .post post :: rest ∧
      (after app now networks.identities events).posts[(posted before).length]? =
        some (.called i) ∧
      post.network = NetworkName.text network ∧ url ∈ networks.endpoints network ∧
      (∀ n g, PinnedTo env network n g →
        LastOnChain app now networks.identities before network url n g) ∧
      (network = .mainnet → MainnetApart runtime env networks url) := by
  have hmem : url ∈ ((after app now networks.identities events).service.standing i).contacted :=
    List.mem_map.2 ⟨(i, url), List.mem_filter.2 ⟨hcontacted, by simp⟩, rfl⟩
  obtain ⟨before, post, x, network, rest, rfl, hcalled, -, hnetwork, hurls, hendpoint⟩ :=
    contactedFor events (List.ne_nil_of_mem hmem)
  have hurl := hendpoint url hmem
  rw [hendpoints] at hurl
  refine ⟨before, post, rest, network, rfl, hcalled, text_of_isNetworkName hnetwork,
    (mem_resetMainnet hurl).1, fun n g hpinned => ?_, ?_⟩
  · exact lastOnChain_of_ready hload
      (fun network identity hevent => hpins network identity (List.mem_append_left _ hevent))
      (List.mem_of_mem_take (hurls.subset hmem)) hpinned
  · rintro rfl
    exact mainnetApart_of_mem hload hurl

/-- What `oneMainnet` makes of an endpoint that is no other network's. -/
def nodeNetworks : RpcNetworks where
  endpoints
    | .dev => []
    | .testnet => ["http://localhost:8545"]
    | .mainnet => ["http://node:8545"]
  identities
    | .dev | .testnet => none
    | .mainnet => some
      { chainId := "0x1"
        genesisHash := "0x00000000000000000000000000000000000000000000000000000000000000ab"
        chainId_hex := by decide
        genesisHash_hex := by decide }

omit [Unknown (Option Json)] in
theorem load_nodeNetworks : loadNetworks (oneMainnet "http://node:8545") = .ok nodeNetworks := by
  have hendpoints : ∀ network, (oneMainnetNetworks "http://node:8545").endpoints network =
      nodeNetworks.endpoints network := by
    intro network
    cases network <;> decide +kernel
  have hidentities : ∀ network, (oneMainnetNetworks "http://node:8545").identities network =
      nodeNetworks.identities network := by
    intro network
    cases network <;> decide +kernel
  have hload : loadNetworks (oneMainnet "http://node:8545") =
      .ok ⟨(oneMainnetNetworks "http://node:8545").endpoints,
        (oneMainnetNetworks "http://node:8545").identities⟩ := rfl
  rw [hload, funext hendpoints, funext hidentities]

omit [Unknown (Option Json)] in
theorem resetMainnet_nodeNetworks : nodeNetworks.resetMainnet threeUrls = nodeNetworks := by
  have hproblem : nodeNetworks.mainnetSeparationProblem threeUrls = none := by decide +kernel
  rw [RpcNetworks.resetMainnet, hproblem]

/-- A server with one mainnet endpoint. -/
def mainnetNode : RpcApp where
  shake256 _ _ := []
  allowedOrigins := []
  rpc := { RpcService.oneEndpoint with endpoints := nodeNetworks.endpoints }

/-- The endpoint is polled, and a request for mainnet comes in. -/
def askedMainnet : List RpcProxyEvent :=
  let envelope := fun id result => Json.object [("jsonrpc", .string "2.0"), ("id", id),
    ("result", result)]
  let answer := fun method result => Fetched.responded 200 (.ok (envelope (.string method) result))
  [.monitor (.begin .mainnet 0 5), .monitor (.respond .mainnet 0 200 7 7),
    .monitor (.finish .mainnet 0
      { height := .ok (envelope (.number 5) (.string "0x2a"))
        chainId := answer "qrl_chainId" (.string "0x1")
        genesis := answer "qrl_getBlockByNumber" (.object [("number", .string "0x0"),
          ("hash", .string "0x00000000000000000000000000000000000000000000000000000000000000AB")])
        syncing := answer "qrl_syncing" (.bool false)
        block := answer "qrl_getBlockByNumber" (.object [("number", .string "0x2a"),
          ("timestamp", .string "0x0")]) } (.error "") 9 9 9),
    .post
      { now := 10
        network := "mainnet"
        clientKey := "192.0.2.1"
        origin := none
        body := .json (.object [("id", .number 7), ("method", .string "qrl_gasPrice")])
        admitted := true
        writeAdmitted := true }]

omit [Unknown (Option Json)] in
theorem pinned_calls_mainnet :
    ∃ before post rest network, askedMainnet = before ++ .post post :: rest ∧
      (@after plainParams mainnetNode 0 nodeNetworks.identities
        askedMainnet).posts[(posted before).length]? = some (.called 0) ∧
      post.network = NetworkName.text network ∧
      "http://node:8545" ∈ nodeNetworks.endpoints network ∧
      (∀ n g, PinnedTo (oneMainnet "http://node:8545") network n g →
        LastOnChain mainnetNode 0 nodeNetworks.identities before network "http://node:8545" n g) ∧
      (network = .mainnet → MainnetApart threeUrls (oneMainnet "http://node:8545") nodeNetworks
        "http://node:8545") :=
  @pinned_calls plainParams threeUrls (oneMainnet "http://node:8545") nodeNetworks
    load_nodeNetworks mainnetNode
    (congrArg RpcNetworks.endpoints resetMainnet_nodeNetworks.symm) 0 askedMainnet
    (by simp [askedMainnet]) 0 "http://node:8545" (by decide +kernel)

end RpcProxy

end QrlBackend
