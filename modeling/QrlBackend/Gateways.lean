import QrlBackend.Containment
import QrlBackend.Separation
import QrlBackend.UrlSerializer

/-!
# The configured gateways

`parseIpfsGateways` reads `IPFS_GATEWAYS`, or the older `IPFS_GATEWAY`, before the server
listens. Whatever the operator wrote, what it accepts is a list of URLs that are normalised
and differ, each `https` on a DNS host with base path `/ipfs/` (`gateways_accepted`), and
the list reads as itself when it is written back. `configured_contacts` is what follows for
the proxy : no request makes it contact anything else than a root or what is below it, at one
of those hosts.

The host parser and `isIP` belong to the runtime; `LawfulUrls` is what is used of them.
-/

set_option autoImplicit false

namespace QrlBackend

open Hosts

/-! ## The parser -/

/-- A value of the environment, as far as the parser looks at it. -/
inductive Setting where
  | undefined
  | text (value : String)
  | other
  deriving DecidableEq

/-- What the parser uses of the runtime. -/
structure UrlRuntime where
  parseHost : List Char → Option Host
  isIP : List Char → ℕ

def defaultIpfsGateways : List String :=
  ["https://ipfs.filebase.io/ipfs/", "https://gateway.pinata.cloud/ipfs/"]

/-- `/^https:\/\/[^/]/i`. -/
def startsHttps (input : List Char) : Bool :=
  (input.take 8).map Char.toLower = "https://".toList && (input.drop 8).head?.any (· ≠ '/')

/-- `/[\\\s@?#,]/`. -/
def isStray (c : Char) : Bool := isJsSpace c || c ∈ ['\\', '@', '?', '#', ',']

/-- The hostname, an IPv6 address without its brackets. -/
def bareHostname (hostname : List Char) : List Char :=
  if hostname.head? = some '[' then hostname.tail.dropLast else hostname

/-- What becomes of an entry, nothing if it is refused. A URL that has another scheme is
refused as one that is none. -/
def gatewayUrl (runtime : UrlRuntime) (entry : String) : Option String :=
  let input := (jsTrim entry).toList
  match WebUrl.parse runtime.parseHost input with
  | none => none
  | some parsed =>
    let url := parsed.setPathname (stripSlashes parsed.pathname ++ ['/'])
    if !startsHttps input || input.any isStray || url.scheme ≠ "https".toList ||
        url.host.serialize.isEmpty || runtime.isIP (bareHostname url.host.serialize) ≠ 0 ||
        url.port = some 0 || url.pathname ≠ "/ipfs/".toList || url.username ≠ [] ||
        url.password ≠ [] then
      none
    else some (String.ofList (url.href Host.serialize))

def gatewayError (name : String) (index : ℕ) : String :=
  s!"{name} entry {index + 1} must be an absolute HTTPS URL with a DNS hostname, a nonzero " ++
    "port, and base path /ipfs/ without credentials, query, or fragment"

/-- The entries one after the other, up to the first that is refused. -/
def gatewayUrls (runtime : UrlRuntime) (name : String) :
    List String → ℕ → Except String (List String)
  | [], _ => .ok []
  | entry :: entries, index =>
    (gatewayUrl runtime entry).elim (.error (gatewayError name index)) fun url =>
      (gatewayUrls runtime name entries (index + 1)).map (url :: ·)

/-- Gateway configuration is validated before the application can listen. -/
def parseIpfsGateways (runtime : UrlRuntime) (list legacy : Setting) :
    Except String (List String) :=
  match list, legacy with
  | .undefined, .undefined => .ok defaultIpfsGateways
  | .undefined, .text value =>
    (gatewayUrls runtime "IPFS_GATEWAY" [value] 0).map List.eraseDups
  | .undefined, .other => .error "IPFS_GATEWAY must contain HTTPS gateway URLs"
  | .text value, _ =>
    (gatewayUrls runtime "IPFS_GATEWAYS" ((value.toList.splitOn ',').map String.ofList) 0).map
      List.eraseDups
  | .other, _ => .error "IPFS_GATEWAYS must contain HTTPS gateway URLs"

/-! ## The runtime -/

/-- A character that no domain holds. -/
def isForbiddenInDomain (c : Char) : Bool :=
  c.toNat ≤ 32 || 127 ≤ c.toNat ||
    c ∈ ['#', '/', ':', '<', '>', '?', '@', '[', '\\', ']', '^', '|', '%']

/-- What the URL standard says of the host parser, and the documentation of `isIP`. -/
structure LawfulUrls (runtime : UrlRuntime) : Prop where
  /-- A serialised host is parsed as itself. -/
  reparse : ∀ text host, runtime.parseHost text = some host →
    runtime.parseHost host.serialize = some host
  /-- A domain is not empty and has no forbidden code point. -/
  domain : ∀ text name lower, runtime.parseHost text = some (.domain name lower) →
    name ≠ "" ∧ ∀ c ∈ name.toList, isForbiddenInDomain c = false
  /-- Lower-case letters and dots are a domain. -/
  letters : ∀ name (lower : name.toLower = name), name ≠ "" →
    (∀ c ∈ name.toList, c.isLower = true ∨ c = '.') →
    runtime.parseHost name.toList = some (.domain name lower)
  isIP_domain : ∀ text name lower, runtime.parseHost text = some (.domain name lower) →
    runtime.isIP name.toList = 0
  isIP_dotted : ∀ a b c d, runtime.isIP (dotted a b c d) ≠ 0
  isIP_pieces : ∀ pieces : Fin 8 → Fin 65536,
    runtime.isIP (serializePieces (List.ofFn fun i => (pieces i : ℕ))) ≠ 0

/-! ## A runtime for domains of letters -/

def isLetterOrDot (c : Char) : Bool := c.isLower || c = '.'

theorem ascii_of_isLetterOrDot {c : Char} (h : isLetterOrDot c = true) : c.toNat < 128 := by
  rw [isLetterOrDot, Bool.or_eq_true, decide_eq_true_eq] at h
  rcases h with h | rfl
  · exact WebUrl.ascii_of_isAlphanum (Bool.or_eq_true_iff.2 (.inl (Bool.or_eq_true_iff.2 (.inr h))))
  · decide

theorem letterOrDot {c : Char} (h : isLetterOrDot c = true) :
    c.toLower = c ∧ isForbiddenInDomain c = false ∧ c ≠ ':' ∧ c.isDigit = false :=
  WebUrl.forall_ascii (p := fun c => isLetterOrDot c = true →
    c.toLower = c ∧ isForbiddenInDomain c = false ∧ c ≠ ':' ∧ c.isDigit = false) (by decide +kernel)
    (ascii_of_isLetterOrDot h) h

/-- A text of lower-case characters is in lower case. -/
theorem toLower_eq_self {s : String} (h : s.toList.map Char.toLower = s.toList) :
    s.toLower = s := by
  rw [← String.toList_inj, Hex.toList_toLower, h]

theorem lower_of_letters {l : List Char} (h : l.all isLetterOrDot = true) :
    (String.ofList l).toLower = String.ofList l := by
  refine toLower_eq_self ?_
  rw [String.toList_ofList]
  conv_rhs => rw [← List.map_id l]
  exact List.map_congr_left fun c hc => (letterOrDot (List.all_eq_true.1 h c hc)).1

/-- The host parser, on the text of a domain of letters, and `isIP`, on the text of a domain or
of an address. -/
def letterRuntime : UrlRuntime where
  parseHost text :=
    if h : text ≠ [] ∧ (text.map Char.toLower).all isLetterOrDot = true then
      some (.domain (String.ofList (text.map Char.toLower)) (lower_of_letters h.2))
    else none
  isIP text :=
    if ':' ∈ text then 6
    else if text.all (fun c => c.isDigit || c = '.') && text.any Char.isDigit then 4
    else 0

/-- The hosts of this runtime are names of letters and dots. -/
theorem parseHost_letterRuntime {text : List Char} {host : Host}
    (h : letterRuntime.parseHost text = some host) :
    ∃ (name : String) (lower : name.toLower = name), host = .domain name lower ∧ name ≠ "" ∧
      ∀ c ∈ name.toList, isLetterOrDot c = true := by
  unfold letterRuntime at h
  dsimp only at h
  split at h
  next hletters =>
    refine ⟨_, _, (Option.some.inj h).symm, ?_, ?_⟩
    · intro hnil
      rw [← String.toList_eq_nil_iff, String.toList_ofList, List.map_eq_nil_iff] at hnil
      exact hletters.1 hnil
    · rw [String.toList_ofList]
      exact List.all_eq_true.1 hletters.2
  next => cases h

theorem letterRuntime_letters (name : String) (lower : name.toLower = name) (hne : name ≠ "")
    (hletters : ∀ c ∈ name.toList, isLetterOrDot c = true) :
    letterRuntime.parseHost name.toList = some (.domain name lower) := by
  have hlower : name.toList.map Char.toLower = name.toList := by
    rw [← Hex.toList_toLower, lower]
  have hall : name.toList ≠ [] ∧ (name.toList.map Char.toLower).all isLetterOrDot = true := by
    rw [hlower, List.all_eq_true]
    exact ⟨fun hnil => hne (String.toList_eq_nil_iff.1 hnil), hletters⟩
  have hcongr : ∀ name' (lower' : name'.toLower = name'), name' = name →
      Host.domain name' lower' = .domain name lower := by
    rintro name' lower' rfl
    rfl
  unfold letterRuntime
  dsimp only
  rw [dif_pos hall]
  exact congrArg some (hcongr _ _ (by rw [hlower, String.ofList_toList]))

/-- An IPv6 address is not one of them. -/
theorem colon_mem_serializePieces (pieces : Fin 8 → Fin 65536) :
    ':' ∈ serializePieces (List.ofFn fun i => (pieces i : ℕ)) := by
  unfold serializePieces
  split
  · have hjoin : ∀ (n n' : ℕ) (rest : List ℕ), ':' ∈ joinPieces (n :: n' :: rest) := by
      intro n n' rest
      simp [joinPieces, List.intercalate]
    rw [List.ofFn_succ, List.ofFn_succ]
    exact hjoin _ _ _
  · exact List.mem_append_right _ List.mem_cons_self

/-- The runtime behaves as a URL parser does. -/
theorem lawful_letterRuntime : LawfulUrls letterRuntime where
  reparse text host h := by
    obtain ⟨name, lower, rfl, hne, hletters⟩ := parseHost_letterRuntime h
    exact letterRuntime_letters name lower hne hletters
  domain text name lower h := by
    obtain ⟨name', lower', hhost, hne, hletters⟩ := parseHost_letterRuntime h
    cases hhost
    exact ⟨hne, fun c hc => (letterOrDot (hletters c hc)).2.1⟩
  letters name lower hne hletters := by
    refine letterRuntime_letters name lower hne fun c hc => ?_
    simpa [isLetterOrDot] using hletters c hc
  isIP_domain text name lower h := by
    obtain ⟨name', lower', hhost, hne, hletters⟩ := parseHost_letterRuntime h
    cases hhost
    have hcolon : ':' ∉ name.toList := fun hmem => (letterOrDot (hletters _ hmem)).2.2.1 rfl
    have hdigit : name.toList.any Char.isDigit = false := List.any_eq_false.2 fun c hc => by
      rw [(letterOrDot (hletters c hc)).2.2.2]
      exact Bool.false_ne_true
    unfold letterRuntime
    dsimp only
    rw [if_neg hcolon, hdigit, Bool.and_false, if_neg Bool.false_ne_true]
  isIP_dotted a b c d := by
    have hchar : ∀ x ∈ dotted a b c d, (x.isDigit || x = '.') = true := by
      intro x hx
      simp only [dotted, List.mem_append, List.mem_cons] at hx
      rcases hx with hx | rfl | hx | rfl | hx | rfl | hx
      all_goals first
        | rw [isDigit_of_mem_decimal hx]; rfl
        | rfl
    have hany : (dotted a b c d).any Char.isDigit = true := by
      obtain ⟨x, l, hx⟩ := List.exists_cons_of_ne_nil (Nat.toDigits_ne_nil (n := a) (b := 10))
      have hmem : x ∈ decimal a := by
        rw [decimal, hx]
        exact List.mem_cons_self
      exact List.any_eq_true.2 ⟨x, List.mem_append_left _ hmem, isDigit_of_mem_decimal hmem⟩
    have hall : (dotted a b c d).all (fun x => x.isDigit || x = '.') = true :=
      List.all_eq_true.2 hchar
    unfold letterRuntime
    dsimp only
    rw [hall, hany]
    split <;> decide
  isIP_pieces pieces := by
    unfold letterRuntime
    dsimp only
    rw [if_pos (colon_mem_serializePieces pieces)]
    decide

/-! ## What is accepted -/

/-- A URL the proxy may be configured with, in its normal form. -/
structure IsGateway (runtime : UrlRuntime) (url : String) (base : WebUrl.Url Host) : Prop
    extends GatewayBase runtime.parseHost url base where
  href : url.toList = base.href Host.serialize
  scheme : base.scheme = "https".toList
  domain : ∃ name lower, base.host = .domain name lower
  port : base.port ≠ some 0

variable {runtime : UrlRuntime}

theorem dotted_head (a b c d : Fin 256) : (dotted a b c d).head? ≠ some '[' := by
  intro hhead
  obtain ⟨x, l, hx⟩ := List.exists_cons_of_ne_nil (Nat.toDigits_ne_nil (n := a) (b := 10))
  have hdigit := isDigit_of_mem_decimal (n := a) (c := x) (by rw [decimal, hx]; simp)
  rw [dotted, decimal, hx, List.cons_append, List.head?_cons, Option.some.injEq] at hhead
  rw [hhead] at hdigit
  exact absurd hdigit (by decide)

/-- A host that is not an address is a domain. -/
theorem LawfulUrls.isDomain (h : LawfulUrls runtime) {host : Host}
    (hip : runtime.isIP (bareHostname host.serialize) = 0) :
    ∃ name lower, host = .domain name lower := by
  cases host with
  | domain name lower => exact ⟨name, lower, rfl⟩
  | ipv4 a b c d =>
    rw [Host.serialize, bareHostname, if_neg (dotted_head a b c d)] at hip
    exact absurd hip (h.isIP_dotted a b c d)
  | ipv6 pieces =>
    rw [Host.serialize, bareHostname, List.head?_cons, if_pos rfl, List.tail_cons,
      List.dropLast_concat] at hip
    exact absurd hip (h.isIP_pieces pieces)

theorem plain_of_domain {c : Char} (h : isForbiddenInDomain c = false) :
    WebUrl.isC0OrSpace c = false ∧ WebUrl.endsAuthority c = false ∧
      c ≠ '@' ∧ c ≠ ':' ∧ c ≠ '[' ∧ c ≠ ']' := by
  simp only [isForbiddenInDomain, List.mem_cons, List.not_mem_nil, or_false, Bool.or_eq_false_iff,
    decide_eq_false_iff_not, not_or] at h
  obtain ⟨⟨hspace, -⟩, hhash, hslash, hcolon, -, -, hquestion, hat, hopen, hback, hclose, -⟩ := h
  refine ⟨by simpa [WebUrl.isC0OrSpace] using hspace, ?_, hat, hcolon, hopen, hclose⟩
  simp [WebUrl.endsAuthority, WebUrl.isSlash, WebUrl.startsQueryOrFragment, hslash, hback,
    hquestion, hhash]

/-- The text of a parsed domain stands in a URL as it is. -/
theorem LawfulUrls.plainHost (h : LawfulUrls runtime) {text : List Char} {name : String}
    {lower : name.toLower = name} (hparse : runtime.parseHost text = some (.domain name lower)) :
    WebUrl.PlainHost (Host.domain name lower).serialize := by
  obtain ⟨hne, hplain⟩ := h.domain text name lower hparse
  refine ⟨fun hnil => hne (String.toList_eq_nil_iff.1 hnil), fun c hc => ?_,
    WebUrl.takeHost_append fun c hc => ?_⟩
  · obtain ⟨hspace, hends, hat, -⟩ := plain_of_domain (hplain c hc)
    exact ⟨hspace, hends, hat⟩
  · exact (plain_of_domain (hplain c hc)).2.2.2

/-- What an entry has passed. -/
theorem gatewayUrl_eq_some {entry url : String} (h : gatewayUrl runtime entry = some url) :
    ∃ parsed base : WebUrl.Url Host,
      WebUrl.parse runtime.parseHost (jsTrim entry).toList = some parsed ∧
      base = parsed.setPathname (stripSlashes parsed.pathname ++ ['/']) ∧
      (∀ c ∈ (jsTrim entry).toList, isStray c = false) ∧ base.scheme = "https".toList ∧
      runtime.isIP (bareHostname base.host.serialize) = 0 ∧ base.port ≠ some 0 ∧
      base.pathname = "/ipfs/".toList ∧ base.username = [] ∧ base.password = [] ∧
      url = String.ofList (base.href Host.serialize) := by
  unfold gatewayUrl at h
  dsimp only at h
  split at h
  · cases h
  next parsed hparse =>
    split at h
    · cases h
    next hpassed =>
      simp only [Bool.or_eq_true, decide_eq_true_eq, not_or, ne_eq, not_not, List.any_eq_true,
        not_exists, not_and, Bool.not_eq_true] at hpassed
      obtain ⟨⟨⟨⟨⟨⟨⟨⟨-, hstray⟩, hscheme⟩, -⟩, hip⟩, hport⟩, hpathname⟩, husername⟩, hpassword⟩ :=
        hpassed
      exact ⟨parsed, _, hparse, rfl, hstray, hscheme, hip, hport, hpathname, husername, hpassword,
        (Option.some.inj h).symm⟩

theorem startsQueryOrFragment_of_isStray {c : Char} (h : isStray c = false) :
    WebUrl.startsQueryOrFragment c = false := by
  simp only [isStray, List.mem_cons, List.not_mem_nil, or_false, Bool.or_eq_false_iff,
    decide_eq_false_iff_not, not_or] at h
  simp [WebUrl.startsQueryOrFragment, h.2.2.2.1, h.2.2.2.2.1]

/-- An accepted entry is a gateway. -/
theorem isGateway_of_gatewayUrl (h : LawfulUrls runtime) {entry url : String}
    (haccepted : gatewayUrl runtime entry = some url) : ∃ base, IsGateway runtime url base := by
  obtain ⟨parsed, base, hparse, hbase, hstray, hscheme, hip, hport, hpathname, husername,
    hpassword, rfl⟩ := gatewayUrl_eq_some haccepted
  obtain ⟨hquery, hfragment⟩ := WebUrl.bare_of_parse hparse fun c hc =>
    startsQueryOrFragment_of_isStray (hstray c hc)
  have hnormal : WebUrl.Normal base := hbase ▸ (WebUrl.normal_parse hparse).setPathname _
  have hquery : base.query = none := hbase ▸ hquery
  have hfragment : base.fragment = none := hbase ▸ hfragment
  obtain ⟨text, htext⟩ := WebUrl.host_of_parse hparse
  have htext : runtime.parseHost text = some base.host := hbase ▸ htext
  obtain ⟨name, lower, hdomain⟩ := h.isDomain hip
  have hplain : WebUrl.PlainHost base.host.serialize := by
    rw [hdomain] at htext ⊢
    exact h.plainHost htext
  have hhref : (String.ofList (base.href Host.serialize)).toList = base.href Host.serialize :=
    String.toList_ofList
  refine ⟨base, ⟨?_, ?_, hpathname, husername, hpassword, hquery, hfragment⟩, hhref, hscheme,
    ⟨name, lower, hdomain⟩, hport⟩
  · rw [hhref]
    exact WebUrl.parse_href hnormal (h.reparse text _ htext) hplain husername hpassword hquery
      hfragment
  · rw [hhref, WebUrl.href_of_bare husername hpassword hquery hfragment, hpathname,
      ← List.cons_append, ← List.cons_append, ← List.cons_append, ← List.append_assoc]
    exact List.suffix_append _ _

/-! ## Writing the list back -/

/-- The characters in the text of a gateway. -/
def isGatewayText (c : Char) : Bool := c = '/' || c = ':' || c.isAlphanum || !isForbiddenInDomain c

theorem isStray_of_isGatewayText {c : Char} (h : isGatewayText c = true) (hcomma : c ≠ ',') :
    isStray c = false := by
  have hlt : c.toNat < 128 := by
    by_contra hge
    have hdigit : c.isAlphanum = false :=
      Bool.eq_false_of_not_eq_true fun halnum => hge (WebUrl.ascii_of_isAlphanum halnum)
    have hforbidden : isForbiddenInDomain c = true := by
      simp only [isForbiddenInDomain, Bool.or_eq_true, decide_eq_true_eq]
      omega
    simp only [isGatewayText, hdigit, hforbidden, Bool.not_true, Bool.or_false, Bool.or_eq_true,
      decide_eq_true_eq] at h
    rcases h with rfl | rfl <;> exact hge (by decide)
  exact WebUrl.forall_ascii (p := fun c => isGatewayText c = true → c ≠ ',' → isStray c = false)
    (by decide +kernel) hlt h hcomma

/-- Text without stray characters at its ends is not trimmed. -/
theorem jsTrim_eq_self {s : String} (h : ∀ c ∈ s.toList, isJsSpace c = false) : jsTrim s = s := by
  have hdrop : ∀ l : List Char, (∀ c ∈ l, isJsSpace c = false) → l.dropWhile isJsSpace = l := by
    intro l hl
    cases l with
    | nil => rfl
    | cons c l => rw [List.dropWhile_cons, hl c List.mem_cons_self, if_neg Bool.false_ne_true]
  rw [jsTrim, hdrop _ h, hdrop _ fun c hc => h c (List.mem_reverse.1 hc), List.reverse_reverse,
    String.ofList_toList]

/-- The host of a gateway is written with the characters a domain has. -/
theorem IsGateway.host_text {url : String} {base : WebUrl.Url Host}
    (hgateway : IsGateway runtime url base) (h : LawfulUrls runtime) :
    base.host.serialize ≠ [] ∧ (∀ c ∈ base.host.serialize, isForbiddenInDomain c = false) ∧
      runtime.isIP (bareHostname base.host.serialize) = 0 := by
  obtain ⟨text, htext⟩ := WebUrl.host_of_parse hgateway.parses
  obtain ⟨name, lower, hdomain⟩ := hgateway.domain
  rw [hdomain] at htext ⊢
  obtain ⟨hne, hplain⟩ := h.domain text name lower htext
  have hhead : name.toList.head? ≠ some '[' := by
    intro hhead
    exact absurd (hplain '[' (List.mem_of_mem_head? hhead)) (by decide)
  refine ⟨fun hnil => hne (String.toList_eq_nil_iff.1 hnil), hplain, ?_⟩
  rw [Host.serialize, bareHostname, if_neg hhead]
  exact h.isIP_domain text name lower htext

theorem IsGateway.toList {url : String} {base : WebUrl.Url Host}
    (hgateway : IsGateway runtime url base) :
    url.toList = "https".toList ++ ':' :: '/' :: '/' ::
      (base.host.serialize ++ base.portText ++ "/ipfs/".toList) := by
  rw [hgateway.href, WebUrl.href_of_bare hgateway.username hgateway.password hgateway.query
    hgateway.fragment, hgateway.scheme, hgateway.pathname]

/-- The text of a gateway has no stray characters. -/
theorem IsGateway.text {url : String} {base : WebUrl.Url Host}
    (hgateway : IsGateway runtime url base) (h : LawfulUrls runtime) :
    ∀ c ∈ url.toList, isGatewayText c = true := by
  have hletters : ∀ c ∈ "https".toList ++ ':' :: '/' :: '/' :: "/ipfs/".toList,
      isGatewayText c = true :=
    List.all_iff_forall_prop.1 (by decide)
  intro c hc
  rw [hgateway.toList] at hc
  simp only [List.mem_append, List.mem_cons] at hc
  rcases hc with hc | rfl | rfl | rfl | (hc | hc) | hc
  · exact hletters c (List.mem_append_left _ hc)
  · decide
  · decide
  · decide
  · have hplain := (hgateway.host_text h).2.1 c hc
    rw [isGatewayText, hplain, Bool.not_false, Bool.or_true]
  · rcases WebUrl.mem_portText hc with rfl | hdigit
    · decide
    · rw [isGatewayText, Char.isAlphanum, hdigit]
      simp
  · exact hletters c (List.mem_append_right _ (List.mem_cons_of_mem _ (List.mem_cons_of_mem _
      (List.mem_cons_of_mem _ hc))))

/-- The path of a gateway is already what the setter writes. -/
theorem IsGateway.setPathname {url : String} {base : WebUrl.Url Host}
    (hgateway : IsGateway runtime url base) :
    base.setPathname (stripSlashes base.pathname ++ ['/']) = base := by
  have hnormal := WebUrl.normal_parse hgateway.parses
  have hvalue : stripSlashes base.pathname ++ ['/'] = "/ipfs/".toList := by
    rw [hgateway.pathname]
    decide
  have hpath : WebUrl.parsePath "ipfs/".toList = base.path :=
    WebUrl.path_injective (WebUrl.normalPath_parsePath _) hnormal.path
      (WebUrl.parsePath_ne_nil _) hnormal.path_ne_nil
      ((by decide : _ = "/ipfs/".toList).trans hgateway.pathname.symm)
  rw [hvalue, WebUrl.Url.setPathname]
  exact congrArg (fun path => ({ base with path } : WebUrl.Url Host)) hpath

/-- A gateway without a comma is accepted as it is. -/
theorem IsGateway.gatewayUrl_eq {url : String} {base : WebUrl.Url Host}
    (hgateway : IsGateway runtime url base) (h : LawfulUrls runtime) (hcomma : ',' ∉ url.toList) :
    gatewayUrl runtime url = some url := by
  have hstray : ∀ c ∈ url.toList, isStray c = false := fun c hc =>
    isStray_of_isGatewayText (hgateway.text h c hc) fun heq => hcomma (heq ▸ hc)
  have htrim : jsTrim url = url := by
    refine jsTrim_eq_self fun c hc => ?_
    exact (Bool.or_eq_false_iff.1 (hstray c hc)).1
  obtain ⟨hne, hplain, hip⟩ := hgateway.host_text h
  obtain ⟨c, host, hcons⟩ := List.exists_cons_of_ne_nil hne
  have hslash : c ≠ '/' := by
    rintro rfl
    exact absurd (hplain '/' (hcons ▸ List.mem_cons_self)) (by decide)
  have hstarts : startsHttps url.toList = true := by
    rw [hgateway.toList, hcons]
    simp [startsHttps, hslash]
  have hany : url.toList.any isStray = false := by
    rw [List.any_eq_false]
    exact fun c hc => by rw [hstray c hc]; exact Bool.false_ne_true
  have hempty : base.host.serialize.isEmpty = false := List.isEmpty_eq_false_iff.2 hne
  unfold gatewayUrl
  rw [htrim]
  dsimp only
  rw [hgateway.parses]
  dsimp only
  rw [hgateway.setPathname, ← hgateway.href, String.ofList_toList, if_neg]
  simp [hstarts, hany, hgateway.scheme, hempty, hip, hgateway.port, hgateway.pathname,
    hgateway.username, hgateway.password]

/-! ## Lists of gateways -/

/-- The entries are read one after the other : the URLs are theirs, or the first entry that is
refused is named. -/
theorem gatewayUrls_spec (runtime : UrlRuntime) (name : String) (entries : List String)
    (index : ℕ) :
    (∃ urls, gatewayUrls runtime name entries index = .ok urls ∧
      List.Forall₂ (fun entry url => gatewayUrl runtime entry = some url) entries urls) ∨
    ∃ accepted refused rest, entries = accepted ++ refused :: rest ∧
      (∀ entry ∈ accepted, gatewayUrl runtime entry ≠ none) ∧ gatewayUrl runtime refused = none ∧
      gatewayUrls runtime name entries index =
        .error (gatewayError name (index + accepted.length)) := by
  induction entries generalizing index with
  | nil => exact .inl ⟨[], rfl, .nil⟩
  | cons entry entries ih =>
    cases hentry : gatewayUrl runtime entry with
    | none =>
      refine .inr ⟨[], entry, entries, rfl, List.forall_mem_nil _, hentry, ?_⟩
      rw [gatewayUrls, hentry]
      rfl
    | some url =>
      rcases ih (index + 1) with
        ⟨urls, hurls, hall⟩ | ⟨accepted, refused, rest, rfl, hok, hno, herror⟩
      · refine .inl ⟨url :: urls, ?_, .cons hentry hall⟩
        rw [gatewayUrls, hentry, hurls]
        rfl
      · refine .inr ⟨entry :: accepted, refused, rest, rfl, ?_, hno, ?_⟩
        · refine List.forall_mem_cons.2 ⟨?_, hok⟩
          rw [hentry]
          exact Option.some_ne_none url
        · have hindex : index + 1 + accepted.length = index + (entry :: accepted).length := by
            rw [List.length_cons]
            omega
          simp only [gatewayUrls, hentry, herror, hindex]
          rfl

theorem nodup_eraseDups {α : Type} [BEq α] [LawfulBEq α] (l : List α) : l.eraseDups.Nodup := by
  induction hn : l.length using Nat.strong_induction_on generalizing l with
  | _ n ih =>
    cases l with
    | nil => exact List.nodup_nil
    | cons a l =>
      rw [List.eraseDups_cons, List.nodup_cons]
      refine ⟨fun hmem => ?_, ih _ ?_ _ rfl⟩
      · simpa using (List.mem_filter.1 (List.mem_eraseDups.1 hmem)).2
      · rw [← hn, List.length_cons]
        exact Nat.lt_succ_of_le (List.length_filter_le _ _)

/-- A list without repetitions is its own. -/
theorem eraseDups_of_nodup {α : Type} [BEq α] [LawfulBEq α] {l : List α} (h : l.Nodup) :
    l.eraseDups = l := by
  induction l with
  | nil => rfl
  | cons a l ih =>
    obtain ⟨hmem, h⟩ := List.nodup_cons.1 h
    have hfilter : (l.filter fun b => !b == a) = l := by
      refine List.filter_eq_self.2 fun b hb => ?_
      have hne : b ≠ a := fun heq => hmem (heq ▸ hb)
      simpa using hne
    rw [List.eraseDups_cons, hfilter, ih h]

/-- The entries that are read. -/
def gatewayEntries : Setting → Setting → List String
  | .text value, _ => (value.toList.splitOn ',').map String.ofList
  | .undefined, .text value => [value]
  | _, _ => []

/-- The variable that is read. -/
def gatewayVariable : Setting → String
  | .undefined => "IPFS_GATEWAY"
  | _ => "IPFS_GATEWAYS"

/-- A configuration of gateways. -/
structure Configured (runtime : UrlRuntime) (urls : List String) : Prop where
  gateways : ∀ url ∈ urls, ∃ base, IsGateway runtime url base
  ne_nil : urls ≠ []
  nodup : urls.Nodup

/-- The first entry that is no gateway keeps the configuration from loading, and is named. -/
structure RefusedAt (runtime : UrlRuntime) (list legacy : Setting) (message : String)
    (before : List String) (refused : String) (rest : List String) : Prop where
  entries : gatewayEntries list legacy = before ++ refused :: rest
  accepted : ∀ entry ∈ before, gatewayUrl runtime entry ≠ none
  refused : gatewayUrl runtime refused = none
  message : message = gatewayError (gatewayVariable list) before.length

/-- Entries that are gateways are configured in order, each once. -/
theorem configured_of_entries (h : LawfulUrls runtime) {entries urls : List String}
    (hne : entries ≠ [])
    (hall : List.Forall₂ (fun entry url => gatewayUrl runtime entry = some url) entries urls) :
    Configured runtime urls.eraseDups := by
  refine ⟨fun url hurl => ?_, fun hnil => ?_, nodup_eraseDups urls⟩
  · obtain ⟨i, hi, rfl⟩ := List.mem_iff_getElem.1 (List.mem_eraseDups.1 hurl)
    have hget := hall.get (hall.length_eq ▸ hi) hi
    exact isGateway_of_gatewayUrl h hget
  · obtain ⟨entry, rest, rfl⟩ := List.exists_cons_of_ne_nil hne
    cases hall with
    | cons => exact absurd (hnil ▸ List.mem_eraseDups.2 List.mem_cons_self) List.not_mem_nil

theorem splitOn_ne_nil (l : List Char) : (l.splitOn ',').map String.ofList ≠ [] := by
  rw [Ne, List.map_eq_nil_iff]
  exact List.splitOnP_ne_nil _ l

/-- The URL of a gateway at a domain. -/
def gatewayAt (name : String) (lower : name.toLower = name) : WebUrl.Url Host where
  scheme := "https".toList
  username := []
  password := []
  host := .domain name lower
  port := none
  path := ["ipfs".toList, []]
  query := none
  fragment := none

theorem pathname_gatewayAt (name : String) (lower : name.toLower = name) :
    (gatewayAt name lower).pathname = "/ipfs/".toList := by
  change ["ipfs".toList, []].flatMap ('/' :: ·) = _
  decide

theorem normal_gatewayAt (name : String) (lower : name.toLower = name) :
    WebUrl.Normal (gatewayAt name lower) where
  scheme := by
    have hdefault : WebUrl.defaultPort "https".toList = some 443 := by decide
    exact ⟨443, hdefault, fun _ hport => by cases hport⟩
  path := by
    have hpath : WebUrl.parsePath "ipfs/".toList = ["ipfs".toList, []] := by decide
    have hnormal := WebUrl.normalPath_parsePath "ipfs/".toList
    rwa [hpath] at hnormal
  path_ne_nil := List.cons_ne_nil _ _

/-- A domain of letters is one the server can be configured with. -/
theorem isGateway_gatewayAt (h : LawfulUrls runtime) {name : String} (lower : name.toLower = name)
    (hne : name ≠ "") (hletters : ∀ c ∈ name.toList, c.isLower = true ∨ c = '.') {url : String}
    (hurl : url.toList = "https://".toList ++ name.toList ++ "/ipfs/".toList) :
    IsGateway runtime url (gatewayAt name lower) := by
  have hparse := h.letters name lower hne hletters
  have hhref : url.toList = (gatewayAt name lower).href Host.serialize := by
    rw [hurl, WebUrl.href_of_bare rfl rfl rfl rfl, pathname_gatewayAt, WebUrl.Url.portText]
    change _ = "https".toList ++ ':' :: '/' :: '/' :: (name.toList ++ [] ++ "/ipfs/".toList)
    rw [List.append_nil]
    rfl
  refine ⟨⟨?_, ?_, pathname_gatewayAt name lower, rfl, rfl, rfl, rfl⟩, hhref, rfl,
    ⟨name, lower, rfl⟩, fun hport => by cases hport⟩
  · rw [hhref]
    exact WebUrl.parse_href (normal_gatewayAt name lower) hparse (h.plainHost hparse) rfl rfl rfl
      rfl
  · rw [hurl]
    exact List.suffix_append _ _

/-- The gateways of a server that configures none are a configuration. -/
theorem configured_default (h : LawfulUrls runtime) :
    Configured runtime defaultIpfsGateways where
  gateways := by
    have hfilebase : "ipfs.filebase.io".toLower = "ipfs.filebase.io" :=
      toLower_eq_self (by decide)
    have hpinata : "gateway.pinata.cloud".toLower = "gateway.pinata.cloud" :=
      toLower_eq_self (by decide)
    refine List.forall_mem_cons.2 
      ⟨⟨_, isGateway_gatewayAt h hfilebase (by decide) (List.all_iff_forall_prop.1 (by decide)) ?_⟩,
      List.forall_mem_singleton.2
        ⟨_, isGateway_gatewayAt h hpinata (by decide) (List.all_iff_forall_prop.1 (by decide)) ?_⟩⟩
    · decide
    · decide
  ne_nil := List.cons_ne_nil _ _
  nodup := by decide

/-- Written back, a configuration without commas reads as itself. -/
theorem Configured.reparse {urls : List String} (hconfigured : Configured runtime urls)
    (h : LawfulUrls runtime) (hcomma : ∀ url ∈ urls, ',' ∉ url.toList) (legacy : Setting) :
    parseIpfsGateways runtime (.text (",".intercalate urls)) legacy = .ok urls := by
  have hsplit : ((",".intercalate urls).toList.splitOn ',').map String.ofList = urls := by
    rw [String.toList_intercalate, show ",".toList = [','] from rfl, List.splitOn_intercalate]
    · rw [List.map_map]
      conv_rhs => rw [← List.map_id urls]
      exact List.map_congr_left fun url _ => String.ofList_toList
    · intro l hl
      obtain ⟨url, hurl, rfl⟩ := List.mem_map.1 hl
      exact hcomma url hurl
    · rw [Ne, List.map_eq_nil_iff]
      exact hconfigured.ne_nil
  have hread : ∀ (rest : List String) (index : ℕ), rest ⊆ urls →
      gatewayUrls runtime "IPFS_GATEWAYS" rest index = .ok rest := by
    intro rest
    induction rest with
    | nil => exact fun _ _ => rfl
    | cons url rest ih =>
      intro index hsub
      obtain ⟨hurl, hsub⟩ := List.cons_subset.1 hsub
      obtain ⟨base, hgateway⟩ := hconfigured.gateways url hurl
      rw [gatewayUrls, hgateway.gatewayUrl_eq h (hcomma url hurl), ih _ hsub]
      rfl
  rw [parseIpfsGateways, hsplit, hread urls 0 (List.Subset.refl urls)]
  exact congrArg Except.ok (eraseDups_of_nodup hconfigured.nodup)

/-- What reading the two variables comes to. -/
inductive GatewaysRead (runtime : UrlRuntime) (list legacy : Setting) :
    Except String (List String) → Prop
  /-- The list is a configuration, and reads as itself when it is written back. -/
  | accepted (urls : List String) : Configured runtime urls →
      ((∀ url ∈ urls, ',' ∉ url.toList) → ∀ legacy',
        parseIpfsGateways runtime (.text (",".intercalate urls)) legacy' = .ok urls) →
      GatewaysRead runtime list legacy (.ok urls)
  | notText : list = .other ∨ list = .undefined ∧ legacy = .other →
      GatewaysRead runtime list legacy
        (.error (gatewayVariable list ++ " must contain HTTPS gateway URLs"))
  | refused (message : String) (before : List String) (entry : String) (rest : List String) :
      RefusedAt runtime list legacy message before entry rest →
      GatewaysRead runtime list legacy (.error message)

/-- The list is read entry by entry. -/
theorem gatewaysRead_entries (h : LawfulUrls runtime) (list legacy : Setting)
    (hne : gatewayEntries list legacy ≠ []) :
    GatewaysRead runtime list legacy ((gatewayUrls runtime (gatewayVariable list)
      (gatewayEntries list legacy) 0).map List.eraseDups) := by
  rcases gatewayUrls_spec runtime (gatewayVariable list)
    (gatewayEntries list legacy) 0 with ⟨urls, hurls, hall⟩ |
      ⟨before, entry, rest, hsplit, hok, hno, herror⟩
  · have hconfigured := configured_of_entries h hne hall
    rw [hurls]
    exact .accepted _ hconfigured (hconfigured.reparse h)
  · rw [herror, Nat.zero_add]
    exact .refused _ before entry rest ⟨hsplit, hok, hno, rfl⟩

/-- What is read is configured. -/
theorem configured_of_parse (h : LawfulUrls runtime) {list legacy : Setting} {urls : List String}
    (hread : parseIpfsGateways runtime list legacy = .ok urls) : Configured runtime urls := by
  have hentries : gatewayEntries list legacy ≠ [] → (gatewayUrls runtime (gatewayVariable list)
      (gatewayEntries list legacy) 0).map List.eraseDups = .ok urls → Configured runtime urls := by
    intro hne hok
    have hspec := gatewaysRead_entries h list legacy hne
    rw [hok] at hspec
    cases hspec with
    | accepted _ hconfigured => exact hconfigured
  cases list with
  | other => cases hread
  | text value => exact hentries (splitOn_ne_nil value.toList) hread
  | undefined =>
    cases legacy with
    | undefined =>
      cases hread
      exact configured_default h
    | text value => exact hentries (List.cons_ne_nil _ _) hread
    | other => cases hread

/-- Every environment : the gateways are a configuration, or one of the variables is no text,
or the first entry that is no gateway is named. -/
theorem ipfs_gateways_read (h : LawfulUrls runtime) (list legacy : Setting) :
    GatewaysRead runtime list legacy (parseIpfsGateways runtime list legacy) := by
  cases list with
  | other => exact .notText (.inl rfl)
  | text value => exact gatewaysRead_entries h (.text value) legacy (splitOn_ne_nil value.toList)
  | undefined =>
    cases legacy with
    | undefined =>
      have hconfigured := configured_default h
      exact .accepted _ hconfigured (hconfigured.reparse h)
    | text value => exact gatewaysRead_entries h .undefined (.text value) (List.cons_ne_nil _ _)
    | other => exact .notText (.inr ⟨rfl, rfl⟩)

/-- Two gateways, the first given twice, once in capitals. -/
def repeatedGateways : Setting :=
  .text ("https://IPFS.example/ipfs, https://ipfs.example:443/ipfs// ," ++
    "https://gateway.example:8443/ipfs/")

theorem parse_repeatedGateways : parseIpfsGateways letterRuntime repeatedGateways .undefined =
    .ok ["https://ipfs.example/ipfs/", "https://gateway.example:8443/ipfs/"] := by
  decide +kernel

theorem ipfs_gateways_read_two :
    GatewaysRead letterRuntime repeatedGateways .undefined
      (.ok ["https://ipfs.example/ipfs/", "https://gateway.example:8443/ipfs/"]) := by
  have hread := ipfs_gateways_read lawful_letterRuntime repeatedGateways .undefined
  rwa [parse_repeatedGateways] at hread

/-! ## The proxy -/

/-- Whatever the environment and whatever requests come in, the proxy of a server that listens
contacts nothing but a root or what is below it, over https, at the host of a gateway that was
configured. -/
theorem configured_contacts (h : LawfulUrls runtime) {list legacy : Setting} {urls : List String}
    (hread : parseIpfsGateways runtime list legacy = .ok urls) (parseDate : String → Option ℤ)
    (cfg : IpfsConfig) (es : List IpfsEvent) :
    ∀ c ∈ (IpfsProxy.after parseDate { cfg with gateways := urls } es).contacted,
      ∃ cid rest, ValidArrival es c.request cid rest ∧
        ∃ gatewayUrl ∈ urls, ∃ base, IsGateway runtime gatewayUrl base ∧
          ∃ url, WebUrl.parse runtime.parseHost c.url.toList = some url ∧
            url.scheme = "https".toList ∧ Contained base cid url := by
  intro c hc
  have hconfigured := configured_of_parse h hread
  obtain ⟨gateway, req, hgateway, hadmitted, hurl⟩ :=
    (IpfsProxy.fetches_run parseDate { cfg with gateways := urls } es).serves.contacted c hc
  obtain ⟨base, hbase⟩ := hconfigured.gateways gateway.url hgateway
  obtain ⟨url, hparse, hcontained⟩ :=
    contained_fetchUrl hbase.toGatewayBase hadmitted.cid hadmitted.rest
  have hscheme : url.scheme = base.scheme := congrArg Prod.fst hcontained.origin
  exact ⟨req.cid, req.rest, hadmitted, gateway.url, hgateway, base, hbase, url, hurl ▸ hparse,
    hscheme.trans hbase.scheme, hcontained⟩

/-- A request for an image goes to the first of the two gateways. -/
theorem configured_contacts_image :
    let st := IpfsProxy.after (fun _ => none)
      { oneGateway with
        gateways := ["https://ipfs.example/ipfs/", "https://gateway.example:8443/ipfs/"] }
      imageRequest
    st.contacted.map Contact.url =
        ["https://ipfs.example/ipfs/" ++ imageCid ++ "/images/./1.png"] ∧
      ∀ c ∈ st.contacted, ∃ url,
        WebUrl.parse letterRuntime.parseHost c.url.toList = some url ∧
          url.scheme = "https".toList ∧ url.query = none := by
  refine ⟨by decide +kernel, fun c hc => ?_⟩
  obtain ⟨cid, rest, -, gatewayUrl, -, base, -, url, hparse, hscheme, hcontained⟩ :=
    configured_contacts lawful_letterRuntime parse_repeatedGateways (fun _ => none) oneGateway
      imageRequest c hc
  exact ⟨url, hparse, hscheme, hcontained.query⟩

end QrlBackend
