import QrlBackend.PinnedCalls
import QrlBackend.TxHistory

/-!
# What the history route contacts

`history_confined` joins the configuration and the route. The address of a request is checked,
so what is written behind the origin is one path of four segments, and the URL is read back as
the configured origin with that path. Mainnet's explorer is contacted only if mainnet is pinned
and separated, and it is no other network's. A client gets no more of an explorer than its data
for that page (`answerHistory_ok_iff`).
-/

set_option autoImplicit false

namespace QrlBackend

open Hosts

variable {urls : UrlRuntime}

/-! ## Configured origins -/

/-- The explorer of testnet, unless another one is configured. -/
theorem isOrigin_default (h : LawfulUrls urls) :
    ∃ base, IsOrigin urls "https://zondscan.com" base := by
  have hlower : "zondscan.com".toLower = "zondscan.com" := toLower_eq_self (by decide)
  have hhost := h.letters "zondscan.com" hlower (by decide)
    (List.all_iff_forall_prop.1 (by decide))
  have hdefault : WebUrl.defaultPort "https".toList = some 443 := by decide
  let base : WebUrl.Url Host :=
    { scheme := "https".toList, username := [], password := [], host := .domain _ hlower,
      port := none, path := [[]], query := none, fragment := none }
  have htext : "https://zondscan.com".toList = base.originText Host.serialize :=
    (by decide : _ = "https".toList ++ "://".toList ++ "zondscan.com".toList ++ [])
  refine ⟨base, htext, ?_, .inl rfl, rfl, rfl, rfl, rfl, rfl⟩
  rw [htext, originText_eq, WebUrl.parse_text hdefault (fun port hport => by cases hport) hhost
    (h.hostText hhost).2 (List.forall_mem_nil _) fun c hc => by cases hc]
  rfl

/-- An origin that is configured is the origin of a URL. -/
theorem isOrigin_of_value (h : LawfulUrls urls) {value fallback : Option String} {origin : String}
    (hvalue : parseHistoryOrigin urls value fallback = some (some origin))
    (hfallback : ∀ text, fallback = some text → ∃ base, IsOrigin urls text base) :
    ∃ base, IsOrigin urls origin base := by
  cases value with
  | none => exact hfallback origin (Option.some.inj hvalue)
  | some value =>
    rcases parseHistoryOrigin_eq_some h hvalue with ⟨-, hnone⟩ | ⟨_, _, base, -, heq, -, hbase⟩
    · cases hnone
    · cases heq
      exact ⟨base, hbase⟩

/-- Whatever is configured is an origin. -/
theorem isOrigin_of_load (h : LawfulUrls urls) {env : String → Option String}
    {origins : NetworkName → Option String} (hload : loadHistoryOrigins urls env = some origins)
    {network : NetworkName} {origin : String} (horigin : origins network = some origin) :
    ∃ base, IsOrigin urls origin base := by
  simp only [loadHistoryOrigins, Option.bind_eq_bind, Option.bind_eq_some_iff, Option.pure_def,
    Option.some.injEq] at hload
  obtain ⟨dev, hdev, testnet, htestnet, mainnet, hmainnet, rfl⟩ := hload
  have hnone : ∀ text : String, none = some text → ∃ base, IsOrigin urls text base := by
    rintro _ ⟨⟩
  cases network with
  | dev =>
    obtain rfl : dev = some origin := horigin
    exact isOrigin_of_value h hdev hnone
  | testnet =>
    obtain rfl : testnet = some origin := horigin
    refine isOrigin_of_value h htestnet ?_
    rintro _ ⟨⟩
    exact isOrigin_default h
  | mainnet =>
    obtain rfl : mainnet = some origin := horigin
    exact isOrigin_of_value h hmainnet hnone

/-- Mainnet has an explorer only if it is separated, pinned, and alone with it. -/
structure MainnetHistory (runtime : Runtime) (networks : RpcNetworks)
    (origins : NetworkName → Option String) (origin : String) : Prop where
  separated : networks.mainnetSeparationProblem runtime = none
  pinned : (networks.identities .mainnet).isSome = true
  alone : ∀ network, origins network = some origin → network = .mainnet

/-- An explorer that passes the gate is configured, and for mainnet also separated. -/
theorem gateMainnetHistory_eq_some {runtime : Runtime} {networks : RpcNetworks}
    {origins : NetworkName → Option String} {network : NetworkName} {origin : String}
    (h : gateMainnetHistory runtime networks origins network = some origin) :
    origins network = some origin ∧
      (network = .mainnet → MainnetHistory runtime networks origins origin) := by
  unfold gateMainnetHistory at h
  cases hmainnet : origins .mainnet with
  | none =>
    rw [hmainnet] at h
    refine ⟨h, ?_⟩
    rintro rfl
    cases hmainnet.symm.trans h
  | some mainnet =>
    rw [hmainnet] at h
    dsimp only at h
    split at h
    next hgate =>
      by_cases hnetwork : network = .mainnet
      · subst hnetwork
        rw [Function.update_self] at h
        cases h
      · rw [Function.update_of_ne hnetwork] at h
        exact ⟨h, fun hmain => absurd hmain hnetwork⟩
    next hgate =>
      simp only [Bool.or_eq_true, decide_eq_true_eq, not_or, Bool.not_eq_true] at hgate
      obtain ⟨⟨⟨hproblem, hpin⟩, htestnet⟩, hdev⟩ := hgate
      refine ⟨h, ?_⟩
      rintro rfl
      obtain rfl : mainnet = origin := Option.some.inj (hmainnet.symm.trans h)
      refine ⟨by simpa using hproblem, ?_, fun network hnetwork => ?_⟩
      · rw [← Option.not_isNone, hpin]
        rfl
      · cases network with
        | dev => exact absurd hnetwork hdev
        | testnet => exact absurd hnetwork htestnet
        | mainnet => rfl

/-! ## The address -/

/-- The path of the page of an address. -/
def historyPath (digits : List Char) : List (List Char) :=
  ["api".toList, "address".toList, 'Q' :: digits, "transactions".toList]

/-- The address is written as it was given, up to the case of its digits. -/
theorem formattedAddress_eq {shake256 : String → ℕ → List UInt8} {address : String}
    (h : QrlAddress shake256 address) : ∃ digits, digits.length = 128 ∧
      (∀ c ∈ digits, Hex.isLowerDigit c = true) ∧
      (formattedAddress address).toList = 'Q' :: digits ∧
      address.toLower.toList = 'q' :: digits := by
  obtain ⟨body, rfl, hlength, hdigits, -⟩ := h
  have hlist : ("Q" ++ body).toList = 'Q' :: body.toList := by
    rw [String.toList_append]
    rfl
  refine ⟨body.toList.map Char.toLower, ?_, ?_, ?_, ?_⟩
  · rw [List.length_map, String.length_toList, hlength]
  · intro c hc
    obtain ⟨c', hc', rfl⟩ := List.mem_map.1 hc
    exact Hex.isLowerDigit_toLower (hdigits c' hc')
  · rw [formattedAddress, hlist, String.toList_append, Hex.toList_toLower, List.drop_succ_cons,
      List.drop_zero, String.ofList_toList]
    rfl
  · rw [Hex.toList_toLower, hlist]
    rfl

/-- The path asked for is in normal form. -/
theorem normalPath_historyPath {digits : List Char}
    (h : ∀ c ∈ digits, Hex.isLowerDigit c = true) : WebUrl.NormalPath (historyPath digits) := by
  have hdigit : ∀ c, Hex.isLowerDigit c = true → WebUrl.isSegmentText c = true := by
    intro c hc
    have hlt : c.toNat < 128 := by
      simp only [Hex.isLowerDigit, Bool.or_eq_true, Bool.and_eq_true, decide_eq_true_eq] at hc
      rcases hc with hc | hc
      · exact lt_of_le_of_lt hc.2 (by decide)
      · exact lt_of_le_of_lt hc.2 (by decide)
    exact WebUrl.forall_ascii (p := fun c => Hex.isLowerDigit c = true →
      WebUrl.isSegmentText c = true) (by decide +kernel) hlt hc
  intro segment hsegment
  simp only [historyPath, List.mem_cons, List.not_mem_nil, or_false] at hsegment
  rcases hsegment with rfl | rfl | rfl | rfl
  · exact ⟨List.all_iff_forall_prop.1 (by decide), by decide, by decide⟩
  · exact ⟨List.all_iff_forall_prop.1 (by decide), by decide, by decide⟩
  · refine ⟨List.forall_mem_cons.2 ⟨by decide, fun c hc => hdigit c (h c hc)⟩, ?_, ?_⟩
    · simp [WebUrl.isDoubleDot]
    · simp [WebUrl.isSingleDot]
  · exact ⟨List.all_iff_forall_prop.1 (by decide), by decide, by decide⟩

/-! ## Contacts -/

/-- The page of an address at an origin is read back as that. -/
theorem parse_historyUrl (h : LawfulUrls urls) {origin : String} {base : WebUrl.Url Host}
    (hbase : IsOrigin urls origin base) {address : String} {digits : List Char}
    (hdigits : ∀ c ∈ digits, Hex.isLowerDigit c = true)
    (haddress : (formattedAddress address).toList = 'Q' :: digits) :
    WebUrl.parse urls.parseHost
        s!"{origin}/api/address/{formattedAddress address}/transactions".toList =
      some { base with path := historyPath digits } := by
  obtain ⟨text, htext⟩ := WebUrl.host_of_parse hbase.parses
  have hpathname : (historyPath digits).flatMap ('/' :: ·) =
      "/api/address/".toList ++ 'Q' :: digits ++ "/transactions".toList := by
    simp [historyPath]
  have hurl : s!"{origin}/api/address/{formattedAddress address}/transactions".toList =
      WebUrl.Url.href Host.serialize { base with path := historyPath digits } := by
    have hhref := @WebUrl.href_of_bare Host Host.serialize { base with path := historyPath digits }
      hbase.username hbase.password hbase.query hbase.fragment
    change (origin ++ "/api/address/" ++ formattedAddress address ++ "/transactions").toList = _
    rw [hhref, WebUrl.Url.pathname, hpathname, String.toList_append, String.toList_append,
      String.toList_append, hbase.text, haddress, WebUrl.Url.originText, WebUrl.Url.portText,
      WebUrl.Url.portText]
    simp
  rw [hurl]
  exact WebUrl.parse_href ⟨hbase.normal.scheme, normalPath_historyPath hdigits,
    List.cons_ne_nil _ _⟩ (h.reparse _ _ htext) (h.hostText htext).2 hbase.username
    hbase.password hbase.query hbase.fragment

/-- What is clamped lies between 1 and the maximum. -/
theorem clampPositiveInt_mem (number : Option Json → Option ℚ) (raw : Option Json)
    {fallback max : ℕ} (hfallback : 1 ≤ fallback ∧ fallback ≤ max) :
    1 ≤ clampPositiveInt number raw fallback (some max) ∧
      clampPositiveInt number raw fallback (some max) ≤ max := by
  unfold clampPositiveInt
  split
  · exact hfallback
  next n _ =>
    split
    · exact hfallback
    next hn =>
      have hmax : (some max).filter (· ≠ 0) = some max :=
        Option.filter_eq_some_iff.2 ⟨rfl, by simp; omega⟩
      rw [hmax]
      dsimp only
      have hfloor : 1 ≤ ⌊n⌋₊ := Nat.one_le_floor_iff (n : ℚ) |>.2 (not_lt.1 hn)
      omega

theorem field?_eq_some {body : Json} {key : String} {value : Json}
    (h : body.field? key = some value) :
    ∃ fields, body = .object fields ∧ fields.lookup key = some value := by
  cases body with
  | object fields => exact ⟨fields, rfl, h⟩
  | null | bool | number | infinite | string | array => cases h

/-- The network is the one the body names. -/
theorem historyNetwork?_eq_some {body : Json} {network : NetworkName}
    (h : historyNetwork? body = some network) :
    body.field? "network" = some (.string network.text) := by
  unfold historyNetwork? at h
  split at h
  next text htext => rw [htext, text_of_isNetworkName h]
  next => cases h

/-- The address is the one in the body, and valid. -/
theorem historyAddress?_eq_some {shake256 : String → ℕ → List UInt8} {body : Json}
    {address : String} (h : historyAddress? shake256 body = some address) :
    body.field? "address" = some (.string address) ∧ QrlAddress shake256 address := by
  unfold historyAddress? at h
  split at h
  next text htext =>
    split at h
    next haddress =>
      cases h
      exact ⟨htext, (isQrlAddress_iff shake256 _).1 haddress⟩
    next => cases h
  next => cases h

/-- What a request is answered by : the page of its address at the explorer of its network. -/
structure AsksFor (urls : UrlRuntime) (runtime : Runtime) (networks : RpcNetworks)
    (origins : NetworkName → Option String) (app : HistoryApp) (body : Json)
    (contact : HistoryContact) : Prop where
  page : ∃ network origin base address digits,
    body.field? "network" = some (.string (NetworkName.text network)) ∧
    origins network = some origin ∧ IsOrigin urls origin base ∧
    body.field? "address" = some (.string address) ∧ QrlAddress app.shake256 address ∧
    address.toLower.toList = 'q' :: digits ∧
    WebUrl.parse urls.parseHost contact.url.toList =
      some { base with path := historyPath digits } ∧
    (network = .mainnet → MainnetHistory runtime networks origins origin)
  first : 1 ≤ contact.page ∧ contact.page ≤ txHistoryMaxPage
  count : 1 ≤ contact.limit ∧ contact.limit ≤ txHistoryMaxLimit
  redirects : contact.maxRedirects = 0

/-- What a request contacts is the page of its address at the configured explorer. -/
theorem asksFor_of_start (h : LawfulUrls urls) {runtime : Runtime} {networks : RpcNetworks}
    {env : String → Option String} {origins : NetworkName → Option String}
    (hload : loadHistoryOrigins urls env = some origins) {app : HistoryApp}
    (happ : app.origins = gateMainnetHistory runtime networks origins) {body : Json}
    {contact : HistoryContact} (hcontact : startHistory app body = .ok contact) :
    AsksFor urls runtime networks origins app body contact := by
  unfold startHistory at hcontact
  split at hcontact
  · cases hcontact
  next network hnetwork =>
    split at hcontact
    · cases hcontact
    next origin horigin =>
      split at hcontact
      · cases hcontact
      next address haddress =>
        cases hcontact
        rw [happ, Option.filter_eq_some_iff] at horigin
        obtain ⟨hconfigured, hmainnet⟩ := gateMainnetHistory_eq_some horigin.1
        obtain ⟨base, hbase⟩ := isOrigin_of_load h hload hconfigured
        obtain ⟨hfield, haddress⟩ := historyAddress?_eq_some haddress
        obtain ⟨digits, -, hdigits, hformatted, hlower⟩ := formattedAddress_eq haddress
        refine ⟨⟨network, origin, base, address, digits, historyNetwork?_eq_some hnetwork,
          hconfigured, hbase, hfield, haddress, hlower, parse_historyUrl h hbase hdigits hformatted,
          hmainnet⟩, ?_, ?_, rfl⟩
        · exact clampPositiveInt_mem _ _ (show 1 ≤ 1 ∧ 1 ≤ txHistoryMaxPage by decide)
        · exact clampPositiveInt_mem _ _ (show 1 ≤ 5 ∧ 5 ≤ txHistoryMaxLimit by decide)

/-- Whatever is configured and whatever a client sends, the history route contacts nothing but
the page of the address of an admitted request, at the explorer of its network. -/
theorem history_confined (h : LawfulUrls urls) (runtime : Runtime) (networks : RpcNetworks)
    (env : String → Option String) (origins : NetworkName → Option String)
    (hload : loadHistoryOrigins urls env = some origins) (app : HistoryApp)
    (happ : app.origins = gateMainnetHistory runtime networks origins) (post : HistoryPost)
    (contact : HistoryContact) (hcontact : postHistory app post = .ok contact) :
    post.admitted = true ∧ corsAllows app.allowedOrigins post.origin = true ∧
      ∃ fields, post.body = .json (.object fields) ∧
        AsksFor urls runtime networks origins app (.object fields) contact := by
  unfold postHistory at hcontact
  split at hcontact
  · cases hcontact
  next body hbody =>
    split at hcontact
    · cases hcontact
    next hadmitted =>
      obtain ⟨horigin, rfl⟩ := acceptBody_eq_ok hbody
      have hasks := asksFor_of_start h hload happ hcontact
      obtain ⟨network, _, _, _, _, hnetwork, -⟩ := hasks.page
      obtain ⟨fields, hfields, -⟩ := field?_eq_some hnetwork
      exact ⟨by simpa using hadmitted, horigin, fields, ParsedBody.eq_json hfields, hfields ▸ hasks⟩

/-! ## Answers -/

/-- What the route answers without its explorer is an error. -/
theorem le_status_of_postHistory {app : HistoryApp} {post : HistoryPost} {response : HttpResponse}
    (h : postHistory app post = .error response) : 400 ≤ response.status := by
  unfold postHistory acceptBody at h
  split at h
  next hbody =>
    cases h
    split at hbody
    · cases hbody
      exact le_statusOf _
    all_goals
      split at hbody
      · cases hbody
        exact le_statusOf ⟨some 403, some "Not allowed by CORS", false⟩
      · cases hbody
  next =>
    split at h
    · cases h
      decide
    · unfold startHistory at h
      split at h
      · cases h
        decide
      · split at h
        · cases h
          decide
        · split at h
          · cases h
            decide
          · cases h

/-- A client is answered with success just by the data of the explorer for the page it asked
for, and with that data. -/
theorem answerHistory_ok_iff {app : HistoryApp} {post : HistoryPost}
    {explorer : HistoryContact → Except (Option String) Json} :
    (answerHistory app explorer post).status < 400 ↔
      ∃ contact data, postHistory app post = .ok contact ∧ explorer contact = .ok data ∧
        answerHistory app explorer post = ⟨200, data⟩ := by
  constructor
  · intro h
    unfold answerHistory at h ⊢
    split at h
    next response hrefused => exact absurd h (not_lt.2 (le_status_of_postHistory hrefused))
    next contact hcontact =>
      cases hexplorer : explorer contact with
      | ok data => exact ⟨contact, data, hcontact, hexplorer, rfl⟩
      | error code =>
        rw [hexplorer, finishHistory] at h
        split at h
        · exact absurd h (by decide)
        · exact absurd h (by decide)
  · rintro ⟨_, _, -, -, hanswer⟩
    rw [hanswer]
    exact (by decide : 200 < 400)

/-- The explorers of an environment that names one for mainnet. -/
def explorers : NetworkName → Option String
  | .dev => none
  | .testnet => some "https://zondscan.com"
  | .mainnet => some "https://explorer.example"

def mainnetExplorer (name : String) : Option String :=
  if name = "TX_HISTORY_ORIGIN_MAINNET" then some "https://explorer.example/" else none

theorem load_mainnetExplorer :
    loadHistoryOrigins letterRuntime mainnetExplorer = some explorers := by
  have hmainnet : parseHistoryOrigin letterRuntime (some "https://explorer.example/") none =
      some (some "https://explorer.example") := by
    decide +kernel
  have hother : ∀ fallback, parseHistoryOrigin letterRuntime none fallback = some fallback :=
    fun _ => rfl
  simp only [loadHistoryOrigins, mainnetExplorer, String.reduceEq, if_false, if_true, hother,
    hmainnet, Option.bind_eq_bind, Option.bind_some, Option.pure_def, Option.some.injEq]
  funext network
  cases network <;> rfl

/-- A server with that explorer and a pinned mainnet. -/
def mainnetHistoryApp : HistoryApp where
  shake256 _ _ := []
  number _ := none
  allowedOrigins := []
  origins := gateMainnetHistory threeUrls RpcProxy.nodeNetworks explorers

def zeroAddress : String := "Q" ++ String.ofList (List.replicate 128 '0')

def zeroBody : List (String × Json) :=
  [("network", .string "mainnet"), ("address", .string zeroAddress), ("limit", .number 1000)]

/-- A request for the transactions of the zero address. -/
def zeroHistory : HistoryPost where
  origin := none
  body := .json (.object zeroBody)
  admitted := true

/-- The page asked for, with the most transactions that a page can have. -/
def zeroContact : HistoryContact where
  url := s!"https://explorer.example/api/address/{formattedAddress zeroAddress}/transactions"
  page := 1
  limit := 5
  timeout := 8000
  maxContentLength := 2 * 1024 * 1024
  maxRedirects := 0

theorem postHistory_zeroHistory : postHistory mainnetHistoryApp zeroHistory = .ok zeroContact := by
  have hnetwork : historyNetwork? (.object zeroBody) = some .mainnet := by decide +kernel
  have horigin : (mainnetHistoryApp.origins .mainnet).filter (!·.isEmpty) =
      some "https://explorer.example" := by
    decide +kernel
  have hvalid : isQrlAddress mainnetHistoryApp.shake256 zeroAddress = true := by
    refine (isQrlAddress_iff _ _).2 ⟨String.ofList (List.replicate 128 '0'), rfl, ?_, ?_, .inl ?_⟩
    · rw [String.length_ofList, List.length_replicate]
    · intro c hc
      rw [String.toList_ofList, List.mem_replicate] at hc
      exact hc.2 ▸ by decide
    · rw [← String.toList_inj, Hex.toList_toLower, String.toList_ofList, List.map_replicate]
      rfl
  have haddress : historyAddress? mainnetHistoryApp.shake256 (.object zeroBody) =
      some zeroAddress := by
    have hfield : Json.field? "address" (.object zeroBody) = some (.string zeroAddress) := by
      simp [Json.field?, zeroBody, List.lookup_cons]
    simp only [historyAddress?, hfield, hvalid, if_true]
  have haccept : acceptBody mainnetHistoryApp.allowedOrigins zeroHistory.origin
      zeroHistory.body = .ok (.object zeroBody) := by
    unfold acceptBody
    rfl
  have hadmitted : (!zeroHistory.admitted) = false := by decide
  unfold postHistory
  rw [haccept]
  dsimp only
  rw [hadmitted, if_neg Bool.false_ne_true]
  unfold startHistory
  simp only [hnetwork, horigin, haddress]
  rfl

theorem history_confined_mainnet : zeroHistory.admitted = true ∧
    corsAllows mainnetHistoryApp.allowedOrigins zeroHistory.origin = true ∧
      ∃ fields, zeroHistory.body = .json (.object fields) ∧
        AsksFor letterRuntime threeUrls RpcProxy.nodeNetworks explorers
          mainnetHistoryApp (.object fields) zeroContact :=
  history_confined lawful_letterRuntime threeUrls RpcProxy.nodeNetworks
    mainnetExplorer explorers load_mainnetExplorer mainnetHistoryApp rfl zeroHistory zeroContact
    postHistory_zeroHistory

end QrlBackend
