import QrlBackend.Configuration
import QrlBackend.Runs

/-!
# The address of a client

`utils/client-ip.ts` : every limit per client is kept under an address, which has to be the
client's own, whatever it writes into `X-Forwarded-For`. The walk over the hops is the package
`proxy-addr` (`ProxyAddr`), of which only what it documents is used.

The compiled ranges are kept between requests under the text of their list (`TrustCache`). The
lists come from the environment, so this text tells them apart, and ranges that compile are always
the current ones. Ranges that do not compile throw once, and are not tried again : the next
lookups are under the ranges that compiled last.
-/

set_option autoImplicit false

namespace QrlBackend

/-- `(address, index) => boolean`. -/
abbrev TrustProxy := String → ℕ → Bool

/-- A request, with the addresses that its `X-Forwarded-For` header lists. -/
structure IncomingMessage where
  remoteAddress : String
  forwardedFor : List String
  deriving DecidableEq

namespace IncomingMessage

/-- A proxy passes the request on : it adds whom it got the request from. -/
def via (request : IncomingMessage) (proxy : String) : IncomingMessage where
  remoteAddress := proxy
  forwardedFor := request.forwardedFor ++ [request.remoteAddress]

/-- The hops of the request, the closest first. -/
def hops (request : IncomingMessage) : List String :=
  request.remoteAddress :: request.forwardedFor.reverse

theorem hops_via (request : IncomingMessage) (proxy : String) :
    (request.via proxy).hops = proxy :: request.hops := by
  simp [via, hops]

theorem hops_foldl_via (request : IncomingMessage) (proxies : List String) :
    (proxies.foldl via request).hops = proxies.reverse ++ request.hops := by
  induction proxies generalizing request with
  | nil => rfl
  | cons proxy proxies ih =>
    rw [List.foldl_cons, ih, hops_via, List.reverse_cons, List.append_assoc]
    rfl

end IncomingMessage

/-- The package `proxy-addr`. Both functions can throw. -/
structure ProxyAddr where
  compile : List String → Option TrustProxy
  proxyaddr : IncomingMessage → TrustProxy → Option String

/-- The package returns the closest address that is not trusted. -/
structure LawfulProxyAddr (lib : ProxyAddr) : Prop where
  closest : ∀ (request : IncomingMessage) (trust : TrustProxy) (n : ℕ) (address : String),
    request.hops[n]? = some address → trust address n = false →
    (∀ i < n, ∀ hop, request.hops[i]? = some hop → trust hop i = true) →
    lib.proxyaddr request trust = some address

/-- `CONFIG.TRUSTED_PROXY_CIDRS`. -/
def trustedProxyCidrs (value nodeEnv : Option String) : List String :=
  entries (value.getD (if nodeEnv.getD "development" = "production" then "loopback" else ""))

/-! ## The compiled ranges -/

structure TrustCache where
  cachedCidrs : String
  cachedTrust : TrustProxy

def nobody : TrustProxy := fun _ _ => false

def TrustCache.initial : TrustCache := ⟨"", nobody⟩

section

variable (lib : ProxyAddr) (cidrs : List String)

/-- The key is assigned before the ranges are compiled. -/
def getTrustProxy (cache : TrustCache) : Option TrustProxy × TrustCache :=
  let key := ",".intercalate cidrs
  if key = cache.cachedCidrs then (some cache.cachedTrust, cache)
  else if cidrs.isEmpty then (some nobody, ⟨key, nobody⟩)
  else
    match lib.compile cidrs with
    | none => (none, { cache with cachedCidrs := key })
    | some trust => (some trust, ⟨key, trust⟩)

/-- Express trust-proxy callback. Forwarded hops are trusted only by CIDR. -/
def isTrustedProxy (cache : TrustCache) (address : String) (index : ℕ) :
    Option Bool × TrustCache :=
  let (trust, cache) := getTrustProxy lib cidrs cache
  (trust.map fun trust => trust address index, cache)

/-- Resolve a request's closest untrusted address. -/
def getTrustedClientIp (cache : TrustCache) (request : IncomingMessage) : String × TrustCache :=
  let (trust, cache) := getTrustProxy lib cidrs cache
  ((trust.bind (lib.proxyaddr request)).getD request.remoteAddress, cache)

/-- Whom the ranges trust, if they compile. -/
def trustOf : Option TrustProxy := if cidrs.isEmpty then some nobody else lib.compile cidrs

end

/-- Both functions leave the cache as `getTrustProxy` does. -/
def trustAfter (lib : ProxyAddr) (history : List (List String)) : TrustCache :=
  Runs.run (fun cache cidrs => (getTrustProxy lib cidrs cache).2) .initial history

/-! ## Lists of the environment -/

/-- What the lists of the environment have in common. -/
def Parsed (cidrs : List String) : Prop :=
  ∀ cidr ∈ cidrs, cidr.toList ≠ [] ∧ ',' ∉ cidr.toList

theorem mem_of_mem_jsTrim {s : String} {c : Char} (h : c ∈ (jsTrim s).toList) : c ∈ s.toList := by
  rw [jsTrim, String.toList_ofList, List.mem_reverse] at h
  have h := List.mem_reverse.1 ((List.dropWhile_suffix _).mem h)
  exact (List.dropWhile_suffix _).mem h

theorem not_mem_of_mem_splitOn {a : Char} {l : List Char} :
    ∀ {part : List Char}, part ∈ l.splitOn a → a ∉ part := by
  induction l with
  | nil =>
    intro part hpart
    rw [List.mem_singleton.1 hpart]
    exact List.not_mem_nil
  | cons c l ih =>
    intro part hpart
    rw [List.splitOn_cons_eq_if_modifyHead] at hpart
    split at hpart
    next =>
      rcases List.mem_cons.1 hpart with rfl | hpart
      · exact List.not_mem_nil
      · exact ih hpart
    next hc =>
      obtain ⟨first, rest, hsplit⟩ := List.exists_cons_of_ne_nil (List.splitOn_ne_nil a l)
      rw [hsplit] at hpart ih
      rcases List.mem_cons.1 hpart with rfl | hpart
      · refine List.not_mem_cons_of_ne_of_not_mem ?_ (ih List.mem_cons_self)
        rintro rfl
        exact hc (beq_self_eq_true a)
      · exact ih (List.mem_cons_of_mem _ hpart)

theorem parsed_trustedProxyCidrs (value nodeEnv : Option String) :
    Parsed (trustedProxyCidrs value nodeEnv) := by
  intro cidr hcidr
  obtain ⟨hmem, hne⟩ := List.mem_filter.1 hcidr
  obtain ⟨entry, hentry, rfl⟩ := List.mem_map.1 hmem
  refine ⟨fun hnil => ?_, fun hcomma => ?_⟩
  · rw [String.toList_eq_nil_iff.1 hnil] at hne
    exact absurd hne (by decide)
  · have hcomma := mem_of_mem_jsTrim hcomma
    rw [String.toList_ofList] at hcomma
    exact not_mem_of_mem_splitOn hentry hcomma

/-- The text of a list tells which list it is. -/
theorem Parsed.intercalate_injective {cidrs cidrs' : List String} (h : Parsed cidrs)
    (h' : Parsed cidrs') (heq : ",".intercalate cidrs = ",".intercalate cidrs') :
    cidrs = cidrs' := by
  have hlist := congrArg String.toList heq
  rw [String.toList_intercalate, String.toList_intercalate, show ",".toList = [','] from rfl]
    at hlist
  have hsplit : ∀ {cidrs : List String}, Parsed cidrs → cidrs ≠ [] →
      ([','].intercalate (cidrs.map String.toList)).splitOn ',' = cidrs.map String.toList := by
    intro cidrs h hne
    refine List.splitOn_intercalate ',' (fun l hl => ?_) (by simpa using hne)
    obtain ⟨cidr, hcidr, rfl⟩ := List.mem_map.1 hl
    exact (h cidr hcidr).2
  have hne : ∀ {cidrs : List String}, Parsed cidrs → cidrs ≠ [] →
      [','].intercalate (cidrs.map String.toList) ≠ [] := by
    intro cidrs h hne hnil
    have hcidrs := hsplit h hne
    rw [hnil] at hcidrs
    obtain ⟨cidr, rest, rfl⟩ := List.exists_cons_of_ne_nil hne
    exact (h cidr List.mem_cons_self).1 (List.cons.inj hcidrs).1.symm
  by_cases hcidrs : cidrs = []
  · by_contra hother
    subst hcidrs
    exact hne h' (Ne.symm hother) hlist.symm
  · by_cases hcidrs' : cidrs' = []
    · subst hcidrs'
      exact absurd hlist (hne h hcidrs)
    · have hmap := congrArg (List.splitOn ',') hlist
      rw [hsplit h hcidrs, hsplit h' hcidrs'] at hmap
      exact List.map_injective_iff.2 (fun _ _ => String.toList_inj.1) hmap

/-! ## The cache -/

variable {lib : ProxyAddr} {cidrs : List String} {cache : TrustCache}

/-- The ranges that compiled last. -/
def lastTrust (lib : ProxyAddr) (history : List (List String)) : TrustProxy :=
  (history.filterMap (trustOf lib)).getLast?.getD nobody

theorem lastTrust_snoc (history : List (List String)) (cidrs : List String) :
    lastTrust lib (history ++ [cidrs]) = (trustOf lib cidrs).getD (lastTrust lib history) := by
  unfold lastTrust
  rw [List.filterMap_append, List.getLast?_append]
  cases htrust : trustOf lib cidrs <;> simp [htrust]

/-- The cache has the key of the last ranges, and the trust that compiled last. -/
structure CacheAfter (lib : ProxyAddr) (history : List (List String)) (cache : TrustCache) :
    Prop where
  key : cache.cachedCidrs = ",".intercalate (history.getLast?.getD [])
  trust : cache.cachedTrust = lastTrust lib history

theorem trustOf_ne_nil (h : trustOf lib cidrs = none) : cidrs ≠ [] := by
  rintro rfl
  cases h

theorem compile_of_trustOf (h : trustOf lib cidrs = none) : lib.compile cidrs = none := by
  rwa [trustOf, if_neg (by simpa using trustOf_ne_nil h)] at h

/-- The same ranges again leave the trust that compiled last as it is. -/
theorem lastTrust_repeat {history : List (List String)} (h : history.getLast?.getD [] = cidrs) :
    (trustOf lib cidrs).getD (lastTrust lib history) = lastTrust lib history := by
  cases history using List.reverseRecOn with
  | nil =>
    subst h
    rfl
  | append_singleton history last =>
    obtain rfl : last = cidrs := by simpa using h
    rw [lastTrust_snoc]
    cases trustOf lib last <;> rfl

theorem CacheAfter.getTrustProxy {history : List (List String)} (h : CacheAfter lib history cache)
    (hlast : Parsed (history.getLast?.getD [])) (hparsed : Parsed cidrs) :
    CacheAfter lib (history ++ [cidrs]) (getTrustProxy lib cidrs cache).2 := by
  have hkey : ",".intercalate cidrs = ",".intercalate ((history ++ [cidrs]).getLast?.getD []) := by
    simp
  unfold QrlBackend.getTrustProxy
  dsimp only
  split
  next hsame =>
    have hrepeat := hlast.intercalate_injective hparsed (h.key.symm.trans hsame.symm)
    refine ⟨hsame.symm.trans hkey, ?_⟩
    rw [lastTrust_snoc, lastTrust_repeat hrepeat]
    exact h.trust
  next =>
    split
    next hempty =>
      refine ⟨hkey, ?_⟩
      rw [lastTrust_snoc, trustOf, if_pos hempty]
      rfl
    next hempty =>
      have hcompile : trustOf lib cidrs = lib.compile cidrs := if_neg hempty
      split
      next hnone =>
        refine ⟨hkey, ?_⟩
        rw [lastTrust_snoc, hcompile, hnone]
        exact h.trust
      next trust hsome =>
        refine ⟨hkey, ?_⟩
        rw [lastTrust_snoc, hcompile, hsome]
        rfl

theorem parsed_getLast {history : List (List String)} (h : ∀ cidrs ∈ history, Parsed cidrs) :
    Parsed (history.getLast?.getD []) := by
  cases hlast : history.getLast? with
  | none => exact fun _ hmem => absurd hmem List.not_mem_nil
  | some cidrs => exact h cidrs (List.mem_of_getLast? hlast)

theorem cacheAfter_trustAfter {history : List (List String)}
    (hhistory : ∀ cidrs ∈ history, Parsed cidrs) :
    CacheAfter lib history (trustAfter lib history) := by
  induction history using List.reverseRecOn with
  | nil => exact ⟨rfl, rfl⟩
  | append_singleton history cidrs ih =>
    have hbefore : ∀ cidrs' ∈ history, Parsed cidrs' :=
      fun cidrs' h => hhistory cidrs' (List.mem_append_left _ h)
    rw [trustAfter, Runs.run_snoc]
    exact (ih hbefore).getTrustProxy (parsed_getLast hbefore)
      (hhistory cidrs (List.mem_append_right _ (List.mem_singleton_self _)))

/-- Ranges that compile are the trusted ones. -/
theorem getTrustProxy_of_some {history : List (List String)}
    (hhistory : ∀ cidrs ∈ history, Parsed cidrs) (hparsed : Parsed cidrs) {trust : TrustProxy}
    (hsome : trustOf lib cidrs = some trust) :
    (getTrustProxy lib cidrs (trustAfter lib history)).1 = some trust := by
  have hcache := @cacheAfter_trustAfter lib history hhistory
  unfold getTrustProxy
  dsimp only
  split
  next hsame =>
    have hrepeat := (parsed_getLast hhistory).intercalate_injective hparsed
      (hcache.key.symm.trans hsame.symm)
    have htrust := @lastTrust_repeat lib cidrs history hrepeat
    rw [hsome, Option.getD_some] at htrust
    rw [hcache.trust, htrust]
  next =>
    split
    next hempty => rwa [trustOf, if_pos hempty] at hsome
    next hempty =>
      rw [trustOf, if_neg hempty] at hsome
      rw [hsome]

/-- Ranges that do not compile throw, and under the same ranges again nothing is compiled. -/
theorem getTrustProxy_of_none {history : List (List String)}
    (hhistory : ∀ cidrs ∈ history, Parsed cidrs) (hparsed : Parsed cidrs)
    (hnone : trustOf lib cidrs = none) :
    (getTrustProxy lib cidrs (trustAfter lib history)).1 =
      if history.getLast? = some cidrs then some (lastTrust lib history) else none := by
  have hcache := @cacheAfter_trustAfter lib history hhistory
  unfold getTrustProxy
  dsimp only
  rw [hcache.key, hcache.trust]
  by_cases hlast : history.getLast? = some cidrs
  · rw [if_pos hlast, if_pos (by rw [hlast]; rfl)]
  · have hkey : ",".intercalate cidrs ≠ ",".intercalate (history.getLast?.getD []) := by
      intro hsame
      have hrepeat := hparsed.intercalate_injective (parsed_getLast hhistory) hsame
      cases hget : history.getLast? with
      | none => exact trustOf_ne_nil hnone (by rw [hrepeat, hget]; rfl)
      | some last => exact hlast (by rw [hget, hrepeat, hget]; rfl)
    rw [if_neg hlast, if_neg hkey, if_neg (by simpa using trustOf_ne_nil hnone),
      compile_of_trustOf hnone]

/-! ## The client's address -/

/-- What a request is kept under, whatever was configured before it. The ranges that are trusted
are the current ones, so that behind proxies in them the client's own address is found, and
nothing the client has written matters. Ranges that do not compile trust nobody, unless they
have thrown on the last lookup already and others compiled before them : those are still
trusted. -/
theorem client_ip_unforgeable (h : LawfulProxyAddr lib) (value nodeEnv : Option String)
    (history : List (List String)) (hhistory : ∀ cidrs ∈ history, ∃ value nodeEnv,
      cidrs = trustedProxyCidrs value nodeEnv) (client : String) (forged proxies : List String) :
    let cidrs := trustedProxyCidrs value nodeEnv
    let request := proxies.foldl IncomingMessage.via ⟨client, forged⟩
    (∀ trust, trustOf lib cidrs = some trust →
      (∀ address index, (isTrustedProxy lib cidrs (trustAfter lib history) address index).1 =
        some (trust address index)) ∧
      ((∀ i proxy, proxies.reverse[i]? = some proxy → trust proxy i = true) →
        trust client proxies.length = false →
        (getTrustedClientIp lib cidrs (trustAfter lib history) request).1 = client)) ∧
    (trustOf lib cidrs = none →
      ((history.getLast? = some cidrs → lastTrust lib history = nobody) →
        (getTrustedClientIp lib cidrs (trustAfter lib history) request).1 =
          request.remoteAddress) ∧
      (history.getLast? = some cidrs →
        (getTrustedClientIp lib cidrs (trustAfter lib history) request).1 =
          (lib.proxyaddr request (lastTrust lib history)).getD request.remoteAddress)) := by
  intro cidrs request
  have hparsed : Parsed cidrs := parsed_trustedProxyCidrs value nodeEnv
  have hlists : ∀ cidrs' ∈ history, Parsed cidrs' := by
    intro cidrs' hcidrs'
    obtain ⟨value', nodeEnv', rfl⟩ := hhistory cidrs' hcidrs'
    exact parsed_trustedProxyCidrs value' nodeEnv'
  refine ⟨fun trust htrust => ⟨fun address index => ?_, fun hproxies hclient => ?_⟩,
    fun hnone => ⟨fun hnobody => ?_, fun hlast => ?_⟩⟩
  · rw [isTrustedProxy]
    dsimp only
    rw [getTrustProxy_of_some hlists hparsed htrust]
    rfl
  · have hclosest : lib.proxyaddr request trust = some client := by
      have hhops : request.hops = proxies.reverse ++ client :: forged.reverse :=
        IncomingMessage.hops_foldl_via ⟨client, forged⟩ proxies
      refine h.closest request trust proxies.length client ?_ hclient fun i hi hop hhop => ?_
      · rw [hhops, List.getElem?_append_right (by simp)]
        simp
      · rw [hhops, List.getElem?_append_left (by simpa using hi)] at hhop
        exact hproxies i hop hhop
    rw [getTrustedClientIp]
    dsimp only
    rw [getTrustProxy_of_some hlists hparsed htrust, Option.bind_some, hclosest,
      Option.getD_some]
  · have hremote : lib.proxyaddr request nobody = some request.remoteAddress :=
      h.closest request nobody 0 _ rfl rfl fun i hi => absurd hi (Nat.not_lt_zero i)
    rw [getTrustedClientIp]
    dsimp only
    rw [getTrustProxy_of_none hlists hparsed hnone]
    split
    next hlast => rw [hnobody hlast, Option.bind_some, hremote, Option.getD_some]
    next => rw [Option.bind_none, Option.getD_none]
  · rw [getTrustedClientIp]
    dsimp only
    rw [getTrustProxy_of_none hlists hparsed hnone, if_pos hlast, Option.bind_some]

/-- The walk over the hops. -/
def closestFrom (trust : TrustProxy) (index : ℕ) (address : String) : List String → String
  | [] => address
  | next :: hops =>
    if trust address index then closestFrom trust (index + 1) next hops else address

theorem closestFrom_eq (trust : TrustProxy) {address : String} (hops : List String) :
    ∀ (index n : ℕ) (first : String), (first :: hops)[n]? = some address →
      trust address (index + n) = false →
      (∀ i < n, ∀ hop, (first :: hops)[i]? = some hop → trust hop (index + i) = true) →
      closestFrom trust index first hops = address := by
  induction hops with
  | nil =>
    intro index n first hget _ _
    obtain ⟨hn, rfl⟩ := List.getElem?_eq_some_iff.1 hget
    obtain rfl : n = 0 := Nat.lt_one_iff.1 hn
    rfl
  | cons next hops ih =>
    intro index n first hget hno hyes
    unfold closestFrom
    cases n with
    | zero =>
      obtain rfl : first = address := Option.some.inj hget
      rw [Nat.add_zero] at hno
      rw [if_neg (by simp [hno])]
    | succ n =>
      have hshift : ∀ i, index + 1 + i = index + (i + 1) := fun i => by omega
      rw [if_pos (show trust first index = true from hyes 0 (Nat.succ_pos n) first rfl)]
      refine ih (index + 1) n next hget ?_ fun i hi hop hhop => ?_
      · rwa [hshift]
      · rw [hshift]
        exact hyes (i + 1) (Nat.succ_lt_succ hi) hop hhop

/-- The package, for the range that production trusts unless it is told otherwise. -/
def loopbackProxyAddr : ProxyAddr where
  compile cidrs := if cidrs = ["loopback"] then some fun address _ => address == "127.0.0.1"
    else none
  proxyaddr request trust :=
    some (closestFrom trust 0 request.remoteAddress request.forwardedFor.reverse)

theorem lawful_loopbackProxyAddr : LawfulProxyAddr loopbackProxyAddr where
  closest request trust n address hget hno hyes :=
    congrArg some (closestFrom_eq trust request.forwardedFor.reverse 0 n request.remoteAddress hget
      (by rwa [Nat.zero_add]) fun i hi hop hhop => by rw [Nat.zero_add]; exact hyes i hi hop hhop)

/-- A client behind the local nginx that claims to be somebody else. -/
theorem client_ip_unforgeable_nginx :
    (getTrustedClientIp loopbackProxyAddr ["loopback"]
      (trustAfter loopbackProxyAddr [[], ["loopback"]])
      (IncomingMessage.via ⟨"203.0.113.7", ["198.51.100.1"]⟩ "127.0.0.1")).1 = "203.0.113.7" := by
  have hloopback : trustedProxyCidrs none (some "production") = ["loopback"] := by decide +kernel
  have hunset : trustedProxyCidrs none none = [] := by decide +kernel
  have h := (client_ip_unforgeable lawful_loopbackProxyAddr none (some "production")
    [[], ["loopback"]] (fun cidrs hcidrs => ?_) "203.0.113.7" ["198.51.100.1"]
    ["127.0.0.1"]).1 (fun address _ => address == "127.0.0.1")
  · rw [hloopback] at h
    refine (h rfl).2 (fun i proxy hproxy => ?_) (by decide)
    cases i with
    | zero =>
      cases hproxy
      rfl
    | succ i => cases hproxy
  · rcases List.mem_pair.1 hcidrs with rfl | rfl
    · exact ⟨none, none, hunset.symm⟩
    · exact ⟨none, some "production", hloopback.symm⟩

end QrlBackend
