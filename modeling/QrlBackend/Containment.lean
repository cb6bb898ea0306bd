import QrlBackend.Cooldowns
import QrlBackend.WebUrl

/-!
# Containment of gateway URLs

What `ipfsHandler` fetches is put together from text : the URL of a gateway, the root and the
wildcard path. `isValidCid` and `isSafePath` look at the root and the path before that, and the
URL parser reads the whole after it. With a configured gateway (`GatewayBase`) every root and
path that these two accept lead to a URL of that gateway, below that root (`Contained`), since
all their characters stand for themselves in a path, and without two dots in a row no segment
goes back.

A request to a gateway is always one for such a URL (`Fetches`), because a request under way
keeps the root and the path that it has been accepted with.
-/

set_option autoImplicit false

namespace QrlBackend

/-! ## Accepted characters -/

theorem toNat_lt_of_isSegmentChar {c : Char} (h : isSegmentChar c = true) : c.toNat < 128 := by
  have hranges : ((((decide ('A'.val ≤ c.val ∧ c.val ≤ 'Z'.val) ||
      ('a'.val ≤ c.val && c.val ≤ 'z'.val)) || ('0'.val ≤ c.val && c.val ≤ '9'.val)) ||
      c = '.') || c = '_' || c = '-') = true := by
    exact h
  simp only [Bool.or_eq_true, Bool.and_eq_true, decide_eq_true_eq,
    UInt32.le_iff_toNat_le] at hranges
  rcases hranges with ((((⟨-, h⟩ | ⟨-, h⟩) | ⟨-, h⟩) | rfl) | rfl) | rfl
  · exact Nat.lt_of_le_of_lt h (by decide)
  · exact Nat.lt_of_le_of_lt h (by decide)
  · exact Nat.lt_of_le_of_lt h (by decide)
  all_goals decide

/-- A segment character stands for itself in a path, and ends no segment. -/
theorem isPlain_of_isSegmentChar {c : Char} (h : isSegmentChar c = true) :
    WebUrl.isPlain c = true ∧ WebUrl.isSlash c = false :=
  WebUrl.forall_ascii (p := fun c => isSegmentChar c = true →
    WebUrl.isPlain c = true ∧ WebUrl.isSlash c = false) (by decide +kernel)
    (toNat_lt_of_isSegmentChar h) h

theorem isSegmentChar_of_isBase58 {c : Char} (h : isBase58 c = true) : isSegmentChar c = true := by
  have hlt : c.toNat < 128 := by
    simp only [isBase58, Bool.or_eq_true, Bool.and_eq_true, decide_eq_true_eq] at h
    rcases h with ((((⟨-, h⟩ | ⟨-, h⟩) | ⟨-, h⟩) | ⟨-, h⟩) | ⟨-, h⟩) | ⟨-, h⟩
    all_goals exact lt_of_le_of_lt h (by decide)
  exact WebUrl.forall_ascii (p := fun c => isBase58 c = true → isSegmentChar c = true)
    (by decide +kernel) hlt h

theorem isSegmentChar_of_isBase32 {c : Char} (h : isBase32 c = true) : isSegmentChar c = true := by
  rw [isBase32, Bool.or_eq_true] at h
  rcases h with h | h
  · simp [isSegmentChar, Char.isAlphanum, h]
  · have hlt : c.toNat < 128 := by
      rw [Bool.and_eq_true, decide_eq_true_eq, decide_eq_true_eq] at h
      exact lt_of_le_of_lt h.2 (by decide)
    exact WebUrl.forall_ascii
      (p := fun c => ('2' ≤ c && c ≤ '7') = true → isSegmentChar c = true) (by decide +kernel) hlt h

theorem isSegmentChar_of_isValidCid {cid : String} (h : isValidCid cid = true) :
    ∀ c ∈ cid.toList, isSegmentChar c = true := by
  unfold isValidCid at h
  split at h
  next rest hcid =>
    rw [Bool.and_eq_true, List.all_eq_true] at h
    rw [hcid]
    exact List.forall_mem_cons.2 ⟨rfl, List.forall_mem_cons.2
      ⟨rfl, fun c hc => isSegmentChar_of_isBase58 (h.2 c hc)⟩⟩
  next rest hcid =>
    rw [Bool.and_eq_true, List.all_eq_true] at h
    rw [hcid]
    exact List.forall_mem_cons.2 ⟨rfl, fun c hc => isSegmentChar_of_isBase32 (h.2 c hc)⟩
  next => cases h

/-- A character is in one of the parts, if it is not where the list is split. -/
theorem exists_mem_splitOn {l : List Char} {a c : Char} (hc : c ∈ l) (hne : c ≠ a) :
    ∃ part ∈ l.splitOn a, c ∈ part := by
  induction l with
  | nil => cases hc
  | cons x l ih =>
    rw [List.splitOn, List.splitOnP_cons_eq_if_modifyHead]
    split
    next hx =>
      have hcl : c ∈ l :=
        (List.mem_cons.1 hc).resolve_left fun heq => hne (heq.trans (beq_iff_eq.1 hx))
      obtain ⟨part, hpart, hmem⟩ := ih hcl
      exact ⟨part, List.mem_cons_of_mem _ hpart, hmem⟩
    next =>
      rw [List.splitOn] at ih
      cases hsplit : l.splitOnP (· == a) with
      | nil => exact absurd hsplit (List.splitOnP_ne_nil _ l)
      | cons first parts =>
        rw [hsplit] at ih
        rw [List.modifyHead_cons]
        rcases List.mem_cons.1 hc with rfl | hcl
        · exact ⟨c :: first, List.mem_cons_self, List.mem_cons_self⟩
        · obtain ⟨part, hpart, hmem⟩ := ih hcl
          rcases List.mem_cons.1 hpart with rfl | hpart
          · exact ⟨x :: part, List.mem_cons_self, List.mem_cons_of_mem _ hmem⟩
          · exact ⟨part, List.mem_cons_of_mem _ hpart, hmem⟩

/-- A path that is accepted has segment characters and slashes, and no two dots in a row. -/
theorem of_isSafePath {rest : String} (h : isSafePath rest = true) :
    (∀ c ∈ rest.toList, isSegmentChar c = true ∨ c = '/') ∧
      ¬ ['.', '.'] <:+: rest.toList := by
  unfold isSafePath at h
  split at h
  next => cases h
  next hdots =>
    refine ⟨fun c hc => ?_, fun hinfix => hdots ?_⟩
    · by_cases hslash : c = '/'
      · exact .inr hslash
      · obtain ⟨part, hpart, hmem⟩ := exists_mem_splitOn hc hslash
        have hne : (!part.isEmpty) = true := by
          rw [Bool.not_eq_true', List.isEmpty_eq_false_iff]
          exact List.ne_nil_of_mem hmem
        have hall := List.all_eq_true.1 h part (List.mem_filter.2 ⟨hpart, hne⟩)
        exact .inl (List.all_eq_true.1 hall c hmem)
    · obtain ⟨tail, hprefix, hsuffix⟩ := List.infix_iff_prefix_suffix.1 hinfix
      exact List.any_eq_true.2
        ⟨tail, (List.mem_tails _ _).2 hsuffix, List.isPrefixOf_iff_prefix.2 hprefix⟩

theorem length_of_isValidCid {cid : String} (h : isValidCid cid = true) :
    46 ≤ cid.toList.length := by
  unfold isValidCid at h
  split at h
  next rest hcid =>
    rw [Bool.and_eq_true, decide_eq_true_eq] at h
    rw [hcid, List.length_cons, List.length_cons, h.1]
  next rest hcid =>
    rw [Bool.and_eq_true, decide_eq_true_eq] at h
    rw [hcid, List.length_cons]
    omega
  next => cases h

/-! ## One URL -/

section

variable {Host : Type} {parseHost : List Char → Option Host}

/-- The URL of a configured gateway : its path is `/ipfs/`, and nothing is behind that. -/
structure GatewayBase (parseHost : List Char → Option Host) (url : String)
    (base : WebUrl.Url Host) : Prop where
  parses : WebUrl.parse parseHost url.toList = some base
  ends : "/ipfs/".toList <:+ url.toList
  pathname : base.pathname = "/ipfs/".toList
  username : base.username = []
  password : base.password = []
  query : base.query = none
  fragment : base.fragment = none

/-- A URL of a gateway, for a root or below it. -/
structure Contained (base : WebUrl.Url Host) (cid : String) (url : WebUrl.Url Host) : Prop where
  origin : url.origin = base.origin
  username : url.username = []
  password : url.password = []
  query : url.query = none
  fragment : url.fragment = none
  pathname : url.pathname = "/ipfs/".toList ++ cid.toList ∨
    "/ipfs/".toList ++ cid.toList ++ ['/'] <+: url.pathname

/-- What is read behind the URL of a gateway is the rest of the path. -/
theorem GatewayBase.parse_append {url : String} {base : WebUrl.Url Host}
    (h : GatewayBase parseHost url base) :
    ∃ path : List (List Char), path.flatMap ('/' :: ·) = "/ipfs".toList ∧
      ∀ s : List Char, (∀ c ∈ s, WebUrl.isPathText c = true) →
        WebUrl.parse parseHost (url.toList ++ s) = some { base with
          path := ((s.foldl WebUrl.pathChar ⟨path, []⟩).endSegment false).path } := by
  obtain ⟨l, hl⟩ := h.ends
  have hurl : url.toList = l ++ "/ipfs".toList ++ ['/'] := by
    rw [← hl, List.append_assoc]
    rfl
  have hpathname := h.pathname
  have hne : base.path ≠ [[]] := by
    intro hpath
    rw [WebUrl.Url.pathname, hpath] at hpathname
    exact absurd hpathname (by decide)
  have hparses := h.parses
  rw [hurl] at hparses
  obtain ⟨path, hpath, hmore⟩ := WebUrl.parse_append hparses hne h.query h.fragment
  refine ⟨path, ?_, fun s hs => ?_⟩
  · rw [WebUrl.Url.pathname, hpath, List.flatMap_append] at hpathname
    exact List.append_cancel_right hpathname
  · rw [hurl, List.append_assoc, List.singleton_append]
    exact hmore s hs

theorem pathname_append (path : List (List Char)) {more : List (List Char)} (hmore : more ≠ []) :
    path.flatMap ('/' :: ·) ++ ['/'] <+: (path ++ more).flatMap ('/' :: ·) := by
  obtain ⟨segment, more, rfl⟩ := List.exists_cons_of_ne_nil hmore
  rw [List.flatMap_append, List.prefix_append_right_inj, List.flatMap_cons]
  exact ⟨segment ++ more.flatMap ('/' :: ·), rfl⟩

/-- With an accepted root and path, the URL of a gateway leads to that root. -/
theorem contained_fetchUrl {gateway : GatewayState} {req : IpfsRequest} {base : WebUrl.Url Host}
    (hbase : GatewayBase parseHost gateway.url base) (hcid : isValidCid req.cid = true)
    (hrest : isSafePath req.rest = true) :
    ∃ url, WebUrl.parse parseHost (fetchUrl gateway req).toList = some url ∧
      Contained base req.cid url := by
  obtain ⟨path, hipfs, hparse⟩ := hbase.parse_append
  have hplain : ∀ c ∈ req.cid.toList, WebUrl.isPlain c = true ∧ WebUrl.isSlash c = false :=
    fun c hc => isPlain_of_isSegmentChar (isSegmentChar_of_isValidCid hcid c hc)
  have hlength : 6 < req.cid.toList.length := by
    have := length_of_isValidCid hcid
    omega
  have hroot : (path ++ [req.cid.toList]).flatMap ('/' :: ·) =
      "/ipfs/".toList ++ req.cid.toList := by
    rw [List.flatMap_append, hipfs]
    simp
  have hcontained : ∀ path', (path'.flatMap ('/' :: ·) = "/ipfs/".toList ++ req.cid.toList ∨
      "/ipfs/".toList ++ req.cid.toList ++ ['/'] <+: path'.flatMap ('/' :: ·)) →
      Contained base req.cid { base with path := path' } :=
    fun _ hpath => ⟨rfl, hbase.username, hbase.password, hbase.query, hbase.fragment, hpath⟩
  by_cases hempty : req.rest.isEmpty
  · have hurl : (fetchUrl gateway req).toList = gateway.url.toList ++ req.cid.toList := by
      rw [fetchUrl, if_pos hempty, String.append_empty, String.toList_append]
    rw [hurl]
    refine ⟨_, hparse _ fun c hc => WebUrl.isPathText_of_isPlain (hplain c hc).1,
      hcontained _ (.inl ?_)⟩
    rw [WebUrl.foldl_pathChar_eq hplain, List.nil_append, WebUrl.endSegment_of_length hlength]
    exact hroot
  · have hurl : (fetchUrl gateway req).toList =
        gateway.url.toList ++ (req.cid.toList ++ '/' :: req.rest.toList) := by
      rw [fetchUrl, if_neg hempty, String.toList_append, String.toList_append,
        String.toList_append, List.append_assoc]
      rfl
    obtain ⟨hsegment, hdots⟩ := of_isSafePath hrest
    have hslash : WebUrl.isPlain '/' = true := by decide
    have hplain' : ∀ c ∈ req.rest.toList, WebUrl.isPlain c = true := by
      intro c hc
      rcases hsegment c hc with hc | rfl
      · exact (isPlain_of_isSegmentChar hc).1
      · exact hslash
    have htext : ∀ c ∈ req.cid.toList ++ '/' :: req.rest.toList, WebUrl.isPathText c = true := by
      refine fun c hc => WebUrl.isPathText_of_isPlain ?_
      rcases List.mem_append.1 hc with hc | hc
      · exact (hplain c hc).1
      · rcases List.mem_cons.1 hc with rfl | hc
        · exact hslash
        · exact hplain' c hc
    have hroot' : WebUrl.pathChar ⟨path, req.cid.toList⟩ '/' = ⟨path ++ [req.cid.toList], []⟩ :=
      WebUrl.endSegment_of_length hlength true
    obtain ⟨more, hne, hmore⟩ := WebUrl.prefix_of_foldl_pathChar (s := req.rest.toList)
      ⟨path ++ [req.cid.toList], []⟩ hplain' hdots
    rw [hurl]
    refine ⟨_, hparse _ htext, hcontained _ (.inr ?_)⟩
    rw [List.foldl_append, WebUrl.foldl_pathChar_eq hplain, List.nil_append, List.foldl_cons,
      hroot', hmore, ← hroot]
    exact pathname_append _ hne

end

/-! ## Runs -/

/-- The roots and paths of the requests, in order. -/
def arrivals (es : List IpfsEvent) : List (String × String) :=
  es.filterMap fun
    | .request _ _ cid splat => some (cid, readWildcardParam splat)
    | _ => none

/-- A request that has come in and has been accepted. -/
structure ValidArrival (es : List IpfsEvent) (r : ℕ) (cid rest : String) : Prop where
  arrival : (arrivals es)[r]? = some (cid, rest)
  cid : isValidCid cid = true
  rest : isSafePath rest = true

theorem ValidArrival.mono {es : List IpfsEvent} {r : ℕ} {cid rest : String}
    (h : ValidArrival es r cid rest) (e : IpfsEvent) : ValidArrival (es ++ [e]) r cid rest := by
  refine ⟨?_, h.cid, h.rest⟩
  rw [arrivals, List.filterMap_append, ← arrivals,
    List.getElem?_append_left (List.getElem?_eq_some_iff.1 h.arrival).1]
  exact h.arrival

/-- A contact for a root and path, at one of the gateways. -/
structure FetchesFor (urls : List String) (r : ℕ) (cid rest : String) (req : IpfsRequest)
    (c : Contact) : Prop where
  request : c.request = r
  cid : req.cid = cid
  rest : req.rest = rest
  url : ∃ gateway : GatewayState, gateway.url ∈ urls ∧ c.url = fetchUrl gateway req

namespace IpfsProxy

variable {cfg : IpfsConfig} {st : IpfsProxy} {r : ℕ} {now : Clock} {req : IpfsRequest}
  {urls : List String}

theorem loops_fetches {gateways : List GatewayState} {index : ℕ}
    (hurls : ∀ j gateway, index ≤ j → gateways[j]? = some gateway → gateway.url ∈ urls) :
    Loops cfg r (fun _ => True) (FetchesFor urls r req.cid req.rest) gateways now req index := by
  unfold Loops
  split
  next req' gateway remaining hturn =>
    have hcases := nextAttempt_cases now req (gateways.zipIdx.drop index)
    rw [hturn] at hcases
    cases hcases with
    | attempt gateway index' hmem =>
      refine ⟨rfl, rfl, rfl, gateway, ?_, rfl⟩
      obtain ⟨k, hk⟩ := List.getElem?_of_mem hmem
      rw [List.getElem?_drop, List.getElem?_zipIdx, Option.map_eq_some_iff] at hk
      obtain ⟨gateway', hgateway, heq⟩ := hk
      cases heq
      exact hurls _ _ (Nat.le_add_right _ _) hgateway
  next => trivial

/-- An event of a request under way leaves its root and path, and fetches for them. -/
theorem step_fetches (parseDate : String → Option ℤ) (cfg : IpfsConfig) {e : IpfsEvent}
    (he : e.about? = some r) (hreq : st.requests.get? r = some req)
    (hurls : ∀ gateway ∈ st.gateways, gateway.url ∈ urls) :
    Handled st r (fun _ => True) (fun req' => req'.cid = req.cid ∧ req'.rest = req.rest)
      (FetchesFor urls r req.cid req.rest) (st.step parseDate cfg e) := by
  have hthrows : ∀ (now : Clock) (req' : IpfsRequest) (failure : GatewayFailure),
      req'.cid = req.cid → req'.rest = req.rest →
      Throws cfg r (fun _ => True) (FetchesFor urls r req.cid req.rest) st.gateways now req'
        failure := by
    intro now req' failure hcid hrest
    refine ⟨fun _ => trivial, fun _ _ => trivial, fun _ _ => ?_⟩
    rw [← hcid, ← hrest]
    exact loops_fetches fun j gateway _ hgateway => hurls _ (List.mem_of_getElem? hgateway)
  have hreacts := reacts parseDate cfg he hreq
  generalize st.step parseDate cfg e = st' at hreacts ⊢
  cases hreacts with
  | fetched now answer hstage =>
    refine .fetched hreq (fun _ => hthrows now _ _ rfl rfl) ?_ (fun _ _ _ => trivial)
      (fun _ _ _ => trivial) (fun _ => ⟨rfl, rfl⟩) fun _ => ⟨rfl, rfl⟩
    -- The gateways behind the one of the attempt are the same.
    intro response _ _ gateways _ hsame
    refine loops_fetches fun j gateway hj hgateway => ?_
    rw [hsame j (Nat.ne_of_gt hj)] at hgateway
    exact hurls _ (List.mem_of_getElem? hgateway)
  | read now result stream hstage =>
    exact .read (fun _ => hthrows now _ _ rfl rfl) (fun _ _ => trivial) (fun _ _ _ _ => trivial)
      (fun _ _ => ⟨rfl, rfl⟩) (fun _ _ => hthrows now _ _ rfl rfl)
      (fun _ _ _ _ _ => ⟨rfl, rfl⟩) trivial
  | written now result stream hstage =>
    exact .written (fun _ => hthrows now _ _ rfl rfl) ⟨rfl, rfl⟩
  | attemptTimeout hstarted => exact .await ⟨rfl, rfl⟩
  | deadline => exact .await ⟨rfl, rfl⟩
  | disconnect => exact .await ⟨rfl, rfl⟩
  | ignored e hfetched hread => exact .same hreq ⟨rfl, rfl⟩

/-- A request that arrives is refused, or accepted and then fetched for. -/
theorem request_fetches (parseDate : String → Option ℤ) (cfg : IpfsConfig)
    (hurls : ∀ gateway ∈ st.gateways, gateway.url ∈ urls) (opened : ℚ) (now : Clock)
    (cid : String) (splat : List String) :
    (∃ res, RefusedAtOnce st res (st.step parseDate cfg (.request opened now cid splat))) ∨
      isValidCid cid = true ∧ isSafePath (readWildcardParam splat) = true ∧
      ∃ slots, Handled { st with slots, next := st.next + 1 } st.next (fun _ => True)
        (fun req => req.cid = cid ∧ req.rest = readWildcardParam splat)
        (FetchesFor urls st.next cid (readWildcardParam splat))
        (st.step parseDate cfg (.request opened now cid splat)) := by
  have hloop : ∀ slot, Loops cfg st.next (fun _ => True)
      (FetchesFor urls st.next cid (readWildcardParam splat)) st.gateways now
      (newRequest cfg opened cid (readWildcardParam splat) slot) 0 :=
    fun slot => loops_fetches fun j gateway _ hgateway =>
      hurls _ (List.mem_of_getElem? hgateway)
  unfold IpfsProxy.step IpfsProxy.request
  dsimp only
  split
  · exact .inl ⟨_, rfl, rfl, rfl, rfl, rfl, _, _, _, rfl, rfl, rfl, .inl rfl⟩
  next hcid =>
    split
    · exact .inl ⟨_, rfl, rfl, rfl, rfl, rfl, _, _, _, rfl, rfl, rfl, .inl rfl⟩
    next hrest =>
      rw [Bool.not_eq_true', Bool.not_eq_false] at hcid hrest
      split
      · exact .inl ⟨_, rfl, rfl, rfl, rfl, rfl, _, _, _, rfl, rfl, rfl, .inr rfl⟩
      next slot slots _ => exact .inr ⟨hcid, hrest, slots, .advance (hloop slot)⟩

/-! ### The URLs of the gateways -/

theorem shouldCoolDownForServerError_url (cfg : IpfsConfig) (gateway : GatewayState)
    (cid : String) (status : ℕ) (now : ℤ) :
    (shouldCoolDownForServerError cfg gateway cid status now).2.url = gateway.url := by
  unfold shouldCoolDownForServerError
  split
  · rfl
  · dsimp only
    split <;> rfl

theorem upstreamError_urls (parseDate : String → Option ℤ) {gateway : GatewayState}
    (hgateway : st.gateways[req.index]? = some gateway) (response : GatewayResponse) :
    (st.upstreamError parseDate cfg r now req gateway response).gateways.map GatewayState.url =
      st.gateways.map GatewayState.url := by
  have hset : ∀ gateway' : GatewayState, gateway'.url = gateway.url →
      (st.gateways.set req.index gateway').map GatewayState.url =
        st.gateways.map GatewayState.url := by
    intro gateway' hurl
    obtain ⟨hlt, hget⟩ := List.getElem?_eq_some_iff.1 hgateway
    rw [List.map_set, hurl, ← hget, ← List.getElem_map GatewayState.url]
    exact List.set_getElem_self (by rwa [List.length_map])
  unfold IpfsProxy.upstreamError
  dsimp only
  split
  next =>
    rw [gateways_advance]
    refine hset _ ?_
    split
    · rfl
    · have hurl := shouldCoolDownForServerError_url cfg gateway req.cid response.status now.date
      split
      · exact hurl
      · exact hurl
  next => rfl

theorem fetched_urls (parseDate : String → Option ℤ) (answer : Except String GatewayResponse) :
    (st.fetched parseDate cfg r now req answer).gateways.map GatewayState.url =
      st.gateways.map GatewayState.url := by
  unfold IpfsProxy.fetched
  split
  · rw [gateways_attemptThrew]
  next response =>
    split
    · rw [gateways_attemptThrew]
    · split
      · rw [gateways_streamGatewayResponse]
      · split
        next gateway hgateway => exact upstreamError_urls parseDate hgateway response
        next => rfl

/-- The URLs of the gateways stay what they are. -/
theorem step_urls (parseDate : String → Option ℤ) (cfg : IpfsConfig) (st : IpfsProxy)
    (e : IpfsEvent) :
    (st.step parseDate cfg e).gateways.map GatewayState.url =
      st.gateways.map GatewayState.url := by
  cases habout : e.about? with
  | none =>
    cases e with
    | request opened now cid splat => exact congrArg _ (gateways_request _ _ _)
    | fetched | read | written | attemptTimeout | deadline | disconnect => cases habout
  | some r =>
    cases hreq : st.requests.get? r with
    | none => rw [step_of_none parseDate cfg habout hreq]
    | some req =>
      have hreacts := reacts parseDate cfg habout hreq
      generalize st.step parseDate cfg e = st' at hreacts ⊢
      cases hreacts with
      | fetched now answer hstage => exact fetched_urls parseDate answer
      | read now result stream hstage => rw [gateways_read]
      | written now result stream hstage => rw [gateways_written]
      | attemptTimeout hstarted => rfl
      | deadline => rfl
      | disconnect => rfl
      | ignored e hfetched hread => rfl

/-! ### All requests -/

/-- The requests under way and the contacts are for requests that have been accepted. -/
structure Serves (cfg : IpfsConfig) (es : List IpfsEvent) (st : IpfsProxy) : Prop where
  underWay : ∀ r req, st.requests.get? r = some req → ValidArrival es r req.cid req.rest
  contacted : ∀ c ∈ st.contacted, ∃ (gateway : GatewayState) (req : IpfsRequest),
    gateway.url ∈ cfg.gateways ∧ ValidArrival es c.request req.cid req.rest ∧
      c.url = fetchUrl gateway req

theorem Serves.mono {es : List IpfsEvent} (h : Serves cfg es st) (e : IpfsEvent) :
    Serves cfg (es ++ [e]) st where
  underWay r req hreq := (h.underWay r req hreq).mono e
  contacted c hc := by
    obtain ⟨gateway, req, hgateway, hadmitted, hurl⟩ := h.contacted c hc
    exact ⟨gateway, req, hgateway, hadmitted.mono e, hurl⟩

/-- A handler goes on with the root and path that have been accepted. -/
theorem Serves.handled {es : List IpfsEvent} {st' : IpfsProxy} {cid rest : String}
    (h : Serves cfg es st)
    (hstep : Handled st r (fun _ => True) (fun req => req.cid = cid ∧ req.rest = rest)
      (FetchesFor cfg.gateways r cid rest) st')
    (hadmitted : ValidArrival es r cid rest) : Serves cfg es st' := by
  have hunderWay {entry : Option IpfsRequest} (hframe : Frame st r entry st')
      (hentry : ∀ req, entry = some req → req.cid = cid ∧ req.rest = rest) :
      ∀ r' req, st'.requests.get? r' = some req → ValidArrival es r' req.cid req.rest := by
    intro r' req hreq
    rw [hframe.get?] at hreq
    split at hreq
    next hr =>
      obtain ⟨rfl, rfl⟩ := hentry req hreq
      rwa [hr]
    next => exact h.underWay r' req hreq
  cases hstep with
  | finished req _ hframe _ hsame =>
    refine ⟨hunderWay hframe fun req' heq => ?_, hsame ▸ h.contacted⟩
    cases heq
  | awaits req hroot hframe _ hsame =>
    exact ⟨hunderWay hframe fun req' heq => Option.some.inj heq ▸ hroot, hsame ▸ h.contacted⟩
  | contacts req c hfetch hframe _ hadded =>
    obtain ⟨rfl, hcid, hrest, gateway, hgateway, hurl⟩ := hfetch
    refine ⟨hunderWay hframe fun req' heq => Option.some.inj heq ▸ ⟨hcid, hrest⟩, fun c' hc' => ?_⟩
    rw [hadded, List.mem_append, List.mem_singleton] at hc'
    rcases hc' with hc' | rfl
    · exact h.contacted c' hc'
    · exact ⟨gateway, req, hgateway, by rwa [hcid, hrest], hurl⟩

/-- What holds in every state. -/
structure Fetches (cfg : IpfsConfig) (es : List IpfsEvent) (st : IpfsProxy) : Prop where
  next : st.next = (arrivals es).length
  urls : st.gateways.map GatewayState.url = cfg.gateways
  serves : Serves cfg es st

theorem Fetches.mem_urls {es : List IpfsEvent} (h : Fetches cfg es st) :
    ∀ gateway ∈ st.gateways, gateway.url ∈ cfg.gateways := by
  intro gateway hgateway
  rw [← h.urls]
  exact List.mem_map_of_mem hgateway

theorem arrivals_snoc (es : List IpfsEvent) (e : IpfsEvent) :
    arrivals (es ++ [e]) = arrivals es ++ arrivals [e] :=
  List.filterMap_append

theorem arrivals_snoc_of_about? (es : List IpfsEvent) {e : IpfsEvent} (he : e.about? = some r) :
    arrivals (es ++ [e]) = arrivals es := by
  rw [arrivals_snoc]
  cases e <;> first | exact List.append_nil _ | cases he

theorem fetches_run (parseDate : String → Option ℤ) (cfg : IpfsConfig) (es : List IpfsEvent) :
    Fetches cfg es (after parseDate cfg es) := by
  induction es using List.reverseRecOn with
  | nil =>
    refine ⟨rfl, ?_, fun r req hreq => ?_, fun c hc => ?_⟩
    · show (cfg.gateways.map fun url => (⟨url, 0, .empty⟩ : GatewayState)).map _ = _
      rw [List.map_map]
      exact List.map_id' _
    · cases hreq
    · cases hc
  | append_singleton es e ih =>
    have hurls := (step_urls parseDate cfg (after parseDate cfg es) e).trans ih.urls
    have hserves := ih.serves.mono e
    rw [after_snoc]
    cases habout : e.about? with
    | none =>
      cases e with
      | fetched | read | written | attemptTimeout | deadline | disconnect => cases habout
      | request opened now cid splat =>
        have hlength : (arrivals (es ++ [.request opened now cid splat])).length =
            (after parseDate cfg es).next + 1 := by
          rw [ih.next, arrivals_snoc, List.length_append]
          rfl
        obtain ⟨res, hrefused⟩ | ⟨hcid, hrest, slots, hstep⟩ :=
          request_fetches parseDate cfg ih.mem_urls opened now cid splat
        · refine ⟨hrefused.next.trans hlength.symm, hurls, ?_, ?_⟩
          · rw [hrefused.requests]
            exact hserves.underWay
          · rw [hrefused.contacted]
            exact hserves.contacted
        · have hadmitted : ValidArrival (es ++ [.request opened now cid splat])
              (after parseDate cfg es).next cid (readWildcardParam splat) := by
            refine ⟨?_, hcid, hrest⟩
            rw [arrivals_snoc, ih.next]
            exact List.getElem?_concat_length
          have hserves' : Serves cfg (es ++ [.request opened now cid splat])
              { after parseDate cfg es with slots, next := (after parseDate cfg es).next + 1 } :=
            ⟨hserves.underWay, hserves.contacted⟩
          exact ⟨hstep.next_eq.trans hlength.symm, hurls, hserves'.handled hstep hadmitted⟩
    | some r =>
      have hlength := congrArg List.length (arrivals_snoc_of_about? es habout)
      cases hreq : (after parseDate cfg es).requests.get? r with
      | none =>
        rw [step_of_none parseDate cfg habout hreq]
        exact ⟨ih.next.trans hlength.symm, ih.urls, hserves⟩
      | some req =>
        have hstep := step_fetches parseDate cfg habout hreq ih.mem_urls
        exact ⟨hstep.next_eq.trans (ih.next.trans hlength.symm), hurls,
          hserves.handled hstep (hserves.underWay r req hreq)⟩

end IpfsProxy

/-- Every accepted root and path lead to a URL of the gateway, for that root or below it, and
nothing else is fetched, whatever requests come in. -/
theorem gateway_containment {Host : Type} (parseHost : List Char → Option Host) :
    (∀ (gateway : GatewayState) (req : IpfsRequest) (base : WebUrl.Url Host),
      GatewayBase parseHost gateway.url base → isValidCid req.cid = true →
      isSafePath req.rest = true →
      ∃ url, WebUrl.parse parseHost (fetchUrl gateway req).toList = some url ∧
        Contained base req.cid url) ∧
    ∀ (parseDate : String → Option ℤ) (cfg : IpfsConfig),
      (∀ url ∈ cfg.gateways, ∃ base, GatewayBase parseHost url base) →
      ∀ (es : List IpfsEvent), ∀ c ∈ (IpfsProxy.after parseDate cfg es).contacted,
        ∃ cid rest, ValidArrival es c.request cid rest ∧
          ∃ gatewayUrl ∈ cfg.gateways, ∃ base, GatewayBase parseHost gatewayUrl base ∧
            ∃ url, WebUrl.parse parseHost c.url.toList = some url ∧ Contained base cid url := by
  refine ⟨fun _ _ _ => contained_fetchUrl, fun parseDate cfg hbase es c hc => ?_⟩
  obtain ⟨gateway, req, hgateway, hadmitted, hurl⟩ :=
    (IpfsProxy.fetches_run parseDate cfg es).serves.contacted c hc
  obtain ⟨base, hgatewayBase⟩ := hbase gateway.url hgateway
  refine ⟨req.cid, req.rest, hadmitted, gateway.url, hgateway, base, hgatewayBase, ?_⟩
  rw [hurl]
  exact contained_fetchUrl hgatewayBase hadmitted.cid hadmitted.rest

/-- The URL of a gateway at a domain. -/
def domainBase (domain : String) : WebUrl.Url (List Char) where
  scheme := "https".toList
  username := []
  password := []
  host := domain.toList
  port := none
  path := ["ipfs".toList, []]
  query := none
  fragment := none

/-- The host parser, on the text of an ASCII domain. -/
def parseDomain (host : List Char) : Option (List Char) := some (host.map Char.toLower)

/-- The gateways of a server that configures none. -/
def defaultGateways : IpfsConfig :=
  { oneGateway with
    gateways := ["https://ipfs.filebase.io/ipfs/", "https://gateway.pinata.cloud/ipfs/"] }

theorem gatewayBase_filebase :
    GatewayBase parseDomain "https://ipfs.filebase.io/ipfs/" (domainBase "ipfs.filebase.io") :=
  ⟨by decide +kernel, by decide, rfl, rfl, rfl, rfl, rfl⟩

theorem gatewayBase_pinata :
    GatewayBase parseDomain "https://gateway.pinata.cloud/ipfs/"
      (domainBase "gateway.pinata.cloud") :=
  ⟨by decide +kernel, by decide, rfl, rfl, rfl, rfl, rfl⟩

def imageCid : String := "QmYwAPJzv5CZsnA625s3Xf2nemtYgPpHdWEz79ojWnPbdG"

/-- A request for an image, with a segment that does not count. -/
def imageRequest : List IpfsEvent := [.request 0 ⟨1000, 0⟩ imageCid ["images", ".", "1.png"]]

theorem gateway_containment_image :
    (IpfsProxy.after (fun _ => none) defaultGateways imageRequest).contacted.map Contact.url =
        ["https://ipfs.filebase.io/ipfs/" ++ imageCid ++ "/images/./1.png"] ∧
      (∃ url, WebUrl.parse parseDomain (fetchUrl ⟨"https://ipfs.filebase.io/ipfs/", 0, .empty⟩
          (IpfsProxy.newRequest defaultGateways 0 imageCid "images/./1.png" 0)).toList =
            some url ∧
        Contained (domainBase "ipfs.filebase.io") imageCid url) ∧
      ∀ c ∈ (IpfsProxy.after (fun _ => none) defaultGateways imageRequest).contacted,
        ∃ url, WebUrl.parse parseDomain c.url.toList = some url ∧ url.query = none := by
  obtain ⟨hurl, hrun⟩ := gateway_containment parseDomain
  have hbase : ∀ url ∈ defaultGateways.gateways, ∃ base, GatewayBase parseDomain url base :=
    List.forall_mem_cons.2 ⟨⟨_, gatewayBase_filebase⟩,
      List.forall_mem_cons.2 ⟨⟨_, gatewayBase_pinata⟩, List.forall_mem_nil _⟩⟩
  refine ⟨by decide +kernel, ?_, fun c hc => ?_⟩
  · apply hurl
    · exact gatewayBase_filebase
    · decide +kernel
    · decide +kernel
  · obtain ⟨cid, rest, -, -, -, base, hgateway, url, hparse, hcontained⟩ :=
      hrun (fun _ => none) defaultGateways hbase imageRequest c hc
    exact ⟨url, hparse, hcontained.query⟩

end QrlBackend
