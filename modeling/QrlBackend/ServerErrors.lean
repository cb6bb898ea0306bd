import QrlBackend.RecentKeys
import QrlBackend.RequestRules

/-!
# Cooldown after server errors

`shouldCoolDownForServerError` counts the root CIDs that failed at a gateway in the last
`serverErrorWindowMs`. Its map is a `RecentKeys` map of the failures since the last cooldown
(`tracks_sightings`), so the count is the number of distinct CIDs in the window.
-/

set_option autoImplicit false

namespace QrlBackend

/-- A response of a gateway that is not a success. -/
structure UpstreamFailure where
  gateway : ℕ
  cid : String
  path : String
  status : ℕ
  time : ℤ

/-- The failures that are counted. -/
def IsServerError (status : ℕ) : Prop := status = 502 ∨ status = 503 ∨ status = 504

namespace GatewayState

variable (cfg : IpfsConfig)

/-- The gateway after a failure. -/
def observe (gateway : GatewayState) (f : UpstreamFailure) : GatewayState :=
  (shouldCoolDownForServerError cfg gateway f.cid f.status f.time).2

def cools (gateway : GatewayState) (f : UpstreamFailure) : Bool :=
  (shouldCoolDownForServerError cfg gateway f.cid f.status f.time).1

/-- What the call for the `n`-th failure returns. -/
def coolsAt (gateway : GatewayState) (fs : List UpstreamFailure) (n : ℕ) : Bool :=
  fs[n]?.any fun f => (Runs.run (observe cfg) gateway (fs.take n)).cools cfg f

/-- The root CIDs of the failures since the last cooldown that are in the window at the
`n`-th, which counts itself. -/
def failedCids (gateway : GatewayState) (fs : List UpstreamFailure) (n : ℕ) : Set String :=
  {cid | ∃ j e f, fs[j]? = some e ∧ fs[n]? = some f ∧ j ≤ n ∧ IsServerError e.status ∧
    rootCid e.cid = cid ∧ (j = n ∨ f.time - e.time < cfg.serverErrorWindowMs) ∧
    ∀ k, j ≤ k → k < n → gateway.coolsAt cfg fs k = false}

/-- The failures that the map has seen before the `n`-th. -/
def sightings (gateway : GatewayState) (fs : List UpstreamFailure) (n : ℕ) :
    Set (String × ℤ) :=
  {o | ∃ j e, fs[j]? = some e ∧ j < n ∧ IsServerError e.status ∧ o = (rootCid e.cid, e.time) ∧
    ∀ k, j ≤ k → k < n → gateway.coolsAt cfg fs k = false}

/-! ## One call -/

variable {cfg} {gateway : GatewayState} {f : UpstreamFailure}

/-- The map after a failure that is counted, if it does not cool the gateway down. -/
def noted (cfg : IpfsConfig) (gateway : GatewayState) (f : UpstreamFailure) : JsMap String ℤ :=
  RecentKeys.note (cfg.serverErrorWindowMs : ℤ) f.time (rootCid f.cid) gateway.serverErrorCids

theorem shouldCoolDown_of_not (h : ¬IsServerError f.status) :
    gateway.cools cfg f = false ∧ gateway.observe cfg f = gateway := by
  have hstatus : f.status ≠ 502 ∧ f.status ≠ 503 ∧ f.status ≠ 504 := by
    rwa [IsServerError, not_or, not_or] at h
  unfold cools observe shouldCoolDownForServerError
  rw [if_pos hstatus]
  exact ⟨rfl, rfl⟩

theorem shouldCoolDown_of_isServerError (h : IsServerError f.status) :
    shouldCoolDownForServerError cfg gateway f.cid f.status f.time =
      if (noted cfg gateway f).size < cfg.serverErrorMinCids then
        (false, { gateway with serverErrorCids := noted cfg gateway f })
      else (true, { gateway with serverErrorCids := .empty }) := by
  have hstatus : ¬(f.status ≠ 502 ∧ f.status ≠ 503 ∧ f.status ≠ 504) := by
    rcases h with h | h | h <;> simp [h]
  unfold shouldCoolDownForServerError
  rw [if_neg hstatus]
  rfl

theorem cools_iff : gateway.cools cfg f = true ↔
    IsServerError f.status ∧ cfg.serverErrorMinCids ≤ (noted cfg gateway f).size := by
  by_cases h : IsServerError f.status
  · rw [cools, shouldCoolDown_of_isServerError h, and_iff_right h]
    split
    next hlt => simpa using hlt
    next hlt => simpa using hlt
  · rw [(shouldCoolDown_of_not h).1]
    exact iff_of_false Bool.false_ne_true fun h' => h h'.1

/-- Each call either starts over or keeps what it noted. -/
theorem serverErrorCids_observe (h : IsServerError f.status) :
    (gateway.observe cfg f).serverErrorCids =
      if gateway.cools cfg f then .empty else noted cfg gateway f := by
  rw [observe, cools, shouldCoolDown_of_isServerError h]
  split <;> rfl

/-- Every call leaves fewer CIDs than cool the gateway down. -/
theorem size_observe (h : gateway.serverErrorCids.size < cfg.serverErrorMinCids) :
    (gateway.observe cfg f).serverErrorCids.size < cfg.serverErrorMinCids := by
  by_cases herror : IsServerError f.status
  · rw [serverErrorCids_observe herror]
    split
    next => exact Nat.lt_of_lt_of_le (by decide) cfg.le_serverErrorMinCids
    next hcools => exact Nat.lt_of_not_le fun hle => hcools (cools_iff.2 ⟨herror, hle⟩)
  · rwa [(shouldCoolDown_of_not herror).2]

/-! ## Runs -/

variable {fs : List UpstreamFailure} {n : ℕ}

theorem run_take_succ (h : fs[n]? = some f) : Runs.run (observe cfg) gateway (fs.take (n + 1)) =
    (Runs.run (observe cfg) gateway (fs.take n)).observe cfg f := by
  rw [List.take_add_one, h, Option.toList_some, Runs.run_snoc]

theorem coolsAt_eq (h : fs[n]? = some f) :
    gateway.coolsAt cfg fs n = (Runs.run (observe cfg) gateway (fs.take n)).cools cfg f := by
  rw [coolsAt, h, Option.any_some]

theorem sightings_succ_of_cools (h : gateway.coolsAt cfg fs n = true) :
    gateway.sightings cfg fs (n + 1) = ∅ := by
  refine Set.eq_empty_of_forall_notMem ?_
  rintro o ⟨j, e, -, hj, -, -, hcools⟩
  rw [hcools n (Nat.le_of_lt_succ hj) n.lt_succ_self] at h
  cases h

theorem sightings_succ (hf : fs[n]? = some f) (h : gateway.coolsAt cfg fs n = false) :
    gateway.sightings cfg fs (n + 1) =
      {o | IsServerError f.status ∧ o = (rootCid f.cid, f.time)} ∪ gateway.sightings cfg fs n := by
  ext o
  constructor
  · rintro ⟨j, e, he, hj, herror, ho, hcools⟩
    rcases Nat.lt_succ_iff_lt_or_eq.1 hj with hj | rfl
    · exact .inr ⟨j, e, he, hj, herror, ho, fun k hk hkn => hcools k hk (by omega)⟩
    · cases hf.symm.trans he
      exact .inl ⟨herror, ho⟩
  · rintro (⟨herror, ho⟩ | ⟨j, e, he, hj, herror, ho, hcools⟩)
    · refine ⟨n, f, hf, n.lt_succ_self, herror, ho, fun k hk hkn => ?_⟩
      rwa [Nat.le_antisymm (Nat.le_of_lt_succ hkn) hk]
    · refine ⟨j, e, he, by omega, herror, ho, fun k hk hkn => ?_⟩
      rcases Nat.lt_succ_iff_lt_or_eq.1 hkn with hkn | rfl
      · exact hcools k hk hkn
      · exact h

/-- The failures before an event were not later. -/
theorem sightings_le (hsorted : fs.Pairwise fun e f => e.time ≤ f.time) (hf : fs[n]? = some f) :
    ∀ o ∈ gateway.sightings cfg fs n, o.2 ≤ f.time := by
  rintro o ⟨j, e, he, hj, -, rfl, -⟩
  obtain ⟨hjl, rfl⟩ := List.getElem?_eq_some_iff.1 he
  obtain ⟨hnl, rfl⟩ := List.getElem?_eq_some_iff.1 hf
  exact List.pairwise_iff_getElem.1 hsorted j n hjl hnl hj

theorem tracks_sightings (hempty : gateway.serverErrorCids = .empty)
    (hsorted : fs.Pairwise fun e f => e.time ≤ f.time) (hn : n ≤ fs.length) :
    RecentKeys.Tracks (cfg.serverErrorWindowMs : ℤ)
      (Runs.run (observe cfg) gateway (fs.take n)).serverErrorCids
      (gateway.sightings cfg fs n) := by
  induction n with
  | zero =>
    have hnone : gateway.sightings cfg fs 0 = ∅ :=
      Set.eq_empty_of_forall_notMem fun o ⟨j, e, _, hj, _⟩ => absurd hj j.not_lt_zero
    rw [List.take_zero, Runs.run_nil, hempty, hnone]
    exact .empty _
  | succ n ih =>
    have hf : fs[n]? = some fs[n] := List.getElem?_eq_getElem hn
    have h := ih (Nat.le_of_succ_le hn)
    rw [run_take_succ hf]
    by_cases herror : IsServerError fs[n].status
    · rw [serverErrorCids_observe herror, ← coolsAt_eq hf]
      split
      next hcools =>
        rw [sightings_succ_of_cools hcools]
        exact .empty _
      next hcools =>
        have hsucc : gateway.sightings cfg fs (n + 1) =
            insert (rootCid fs[n].cid, fs[n].time) (gateway.sightings cfg fs n) := by
          rw [sightings_succ hf (Bool.eq_false_iff.2 hcools)]
          ext o
          simp [herror]
        rw [hsucc]
        exact h.note _ (sightings_le hsorted hf)
    · obtain ⟨hcools, hsame⟩ := @shouldCoolDown_of_not cfg
        (Runs.run (observe cfg) gateway (fs.take n)) _ herror
      have hsucc : gateway.sightings cfg fs (n + 1) = gateway.sightings cfg fs n := by
        rw [sightings_succ hf ((coolsAt_eq hf).trans hcools)]
        ext o
        simp [herror]
      rwa [hsame, hsucc]

theorem failedCids_eq (hf : fs[n]? = some f) (herror : IsServerError f.status) :
    gateway.failedCids cfg fs n = {cid | cid = rootCid f.cid ∨
      ∃ t, (cid, t) ∈ gateway.sightings cfg fs n ∧ f.time - t < cfg.serverErrorWindowMs} := by
  ext cid
  constructor
  · rintro ⟨j, e, f', he, hf', hj, heerror, rfl, hrecent, hcools⟩
    cases hf.symm.trans hf'
    rcases Nat.lt_or_eq_of_le hj with hj | rfl
    · exact .inr ⟨e.time, ⟨j, e, he, hj, heerror, rfl, hcools⟩, hrecent.resolve_left hj.ne⟩
    · cases hf.symm.trans he
      exact .inl rfl
  · rintro (rfl | ⟨t, ⟨j, e, he, hj, heerror, ho, hcools⟩, hrecent⟩)
    · exact ⟨n, f, f, hf, hf, le_rfl, herror, rfl, .inl rfl, fun k hk hkn => by omega⟩
    · cases ho
      exact ⟨j, e, f, he, hf, hj.le, heerror, rfl, .inr hrecent, hcools⟩

/-- The decision of a call. -/
theorem coolsAt_iff (hempty : gateway.serverErrorCids = .empty)
    (hsorted : fs.Pairwise fun e f => e.time ≤ f.time) (hf : fs[n]? = some f) :
    gateway.coolsAt cfg fs n = true ↔ IsServerError f.status ∧
      cfg.serverErrorMinCids ≤ (gateway.failedCids cfg fs n).ncard := by
  obtain ⟨hn, -⟩ := List.getElem?_eq_some_iff.1 hf
  rw [coolsAt_eq hf, cools_iff]
  refine and_congr_right fun herror => ?_
  rw [failedCids_eq hf herror, noted,
    (tracks_sightings hempty hsorted hn.le).size_note _ (sightings_le hsorted hf)]

/-- The CIDs held between calls. -/
theorem size_run (hempty : gateway.serverErrorCids = .empty) (fs : List UpstreamFailure) :
    (Runs.run (observe cfg) gateway fs).serverErrorCids.size < cfg.serverErrorMinCids := by
  let I (g : GatewayState) : Prop := g.serverErrorCids.size < cfg.serverErrorMinCids
  refine Runs.run_invariant (I := I) (fun _ _ h => size_observe h) fs ?_
  dsimp only [I]
  rw [hempty]
  exact Nat.lt_of_lt_of_le (by decide) cfg.le_serverErrorMinCids

end GatewayState

/-! ## The gateways -/

/-- The gateways after a failure at one of them. -/
def observeAt (cfg : IpfsConfig) (gateways : List GatewayState) (f : UpstreamFailure) :
    List GatewayState :=
  gateways.modify f.gateway fun gateway => gateway.observe cfg f

/-- A gateway sees its own failures only. -/
theorem getElem?_run_observeAt (cfg : IpfsConfig) (fs : List UpstreamFailure) (i : ℕ) :
    ∀ gateways : List GatewayState, (Runs.run (observeAt cfg) gateways fs)[i]? =
      gateways[i]?.map fun gateway =>
        Runs.run (GatewayState.observe cfg) gateway (fs.filter (·.gateway = i)) := by
  induction fs with
  | nil => simp
  | cons f fs ih =>
    intro gateways
    rw [Runs.run_cons, ih, observeAt, List.getElem?_modify, List.filter_cons]
    by_cases hi : f.gateway = i <;> cases gateways[i]? <;> simp [hi]

theorem isBase32_toLower {cid : String} (h : "b".toList.isPrefixOf cid.toList = true) :
    "b".toList.isPrefixOf cid.toLower.toList = true := by
  rw [Hex.toList_toLower]
  cases hcid : cid.toList with
  | nil =>
    rw [hcid] at h
    cases h
  | cons c rest =>
    rw [hcid] at h
    change ('b' == c && [].isPrefixOf rest) = true at h
    rw [List.isPrefixOf_nil_left, Bool.and_true, beq_iff_eq] at h
    subst h
    rfl

/-- Letter case apart, base32 CIDs are counted once, and others as they are. -/
theorem rootCid_eq_iff (cid cid' : String) : rootCid cid = rootCid cid' ↔ cid = cid' ∨
    "b".toList.isPrefixOf cid.toList = true ∧ "b".toList.isPrefixOf cid'.toList = true ∧
      cid.toLower = cid'.toLower := by
  unfold rootCid
  split
  next h =>
    split
    next h' =>
      refine ⟨fun heq => .inr ⟨h, h', heq⟩, ?_⟩
      rintro (rfl | ⟨-, -, heq⟩)
      · rfl
      · exact heq
    next h' =>
      constructor
      · rintro rfl
        exact absurd (isBase32_toLower h) h'
      · rintro (rfl | ⟨-, hcid', -⟩)
        · exact absurd h h'
        · exact absurd hcid' h'
  next h =>
    split
    next h' =>
      constructor
      · rintro rfl
        exact absurd (isBase32_toLower h') h
      · rintro (rfl | ⟨hcid, -, -⟩)
        · exact absurd h' h
        · exact absurd hcid h
    next h' => exact ⟨.inl, fun heq => heq.resolve_right fun hcid => h hcid.1⟩

/-! ## The proxy -/

namespace IpfsProxy

/-- The failure that an answer reports, for which the handler calls
`shouldCoolDownForServerError`. -/
def reported (req : IpfsRequest) (now : Clock) :
    Except String GatewayResponse → Option UpstreamFailure
  | .error _ => none
  | .ok response =>
    if req.attemptAborted || isOk response.status then none
    else if 500 ≤ response.status ∧ response.status < 600 then
      some ⟨req.index, req.cid, req.rest, response.status, now.date⟩
    else none

def failure? (st : IpfsProxy) : IpfsEvent → Option UpstreamFailure
  | .fetched r now answer =>
    match st.requests.get? r with
    | none => none
    | some req =>
      match req.stage with
      | .fetching => reported req now answer
      | .reading _ => none
      | .writing _ => none
  | .request _ _ _ _ => none
  | .read _ _ _ => none
  | .written _ _ _ => none
  | .attemptTimeout _ => none
  | .deadline _ => none
  | .disconnect _ => none

variable {cfg : IpfsConfig} {st : IpfsProxy} {r : ℕ} {now : Clock} {req : IpfsRequest}

theorem failure?_fetched (hreq : st.requests.get? r = some req) (hstage : req.stage = .fetching)
    (now : Clock) (answer : Except String GatewayResponse) :
    st.failure? (.fetched r now answer) = reported req now answer := by
  unfold failure?
  dsimp only
  rw [hreq]
  dsimp only
  rw [hstage]

theorem failure?_of_none {e : IpfsEvent} (he : e.about? = some r)
    (hreq : st.requests.get? r = none) : st.failure? e = none := by
  cases e with
  | fetched r' now answer =>
    cases he
    unfold failure?
    dsimp only
    rw [hreq]
  | request | read | written | attemptTimeout | deadline | disconnect => rfl

theorem failure?_of_ignored {e : IpfsEvent} (he : e.about? = some r)
    (hreq : st.requests.get? r = some req)
    (hfetched : ∀ now answer, e = .fetched r now answer → req.stage ≠ .fetching) :
    st.failure? e = none := by
  cases e with
  | fetched r' now answer =>
    cases he
    have hstage := hfetched now answer rfl
    unfold failure?
    dsimp only
    rw [hreq]
    dsimp only
    split
    next hfetching => exact absurd hfetching hstage
    next => rfl
    next => rfl
  | request | read | written | attemptTimeout | deadline | disconnect => rfl

/-- The maps of the gateways. -/
def cidMaps (gateways : List GatewayState) : List (JsMap String ℤ) :=
  gateways.map GatewayState.serverErrorCids

theorem cidMaps_set {gateways : List GatewayState} {index : ℕ} {gateway gateway' : GatewayState}
    (change : GatewayState → GatewayState) (hgateway : gateways[index]? = some gateway)
    (hsame : gateway'.serverErrorCids = (change gateway).serverErrorCids) :
    cidMaps (gateways.set index gateway') = cidMaps (gateways.modify index change) := by
  rw [List.modify_eq_set_getElem?, hgateway, Option.map_eq_map, Option.map_some, Option.getD_some,
    cidMaps, cidMaps, List.map_set, List.map_set, hsame]

theorem cidMaps_upstreamError {parseDate : String → Option ℤ} {gateway : GatewayState}
    {response : GatewayResponse} (hgateway : st.gateways[req.index]? = some gateway) :
    cidMaps (st.upstreamError parseDate cfg r now req gateway response).gateways =
      if 500 ≤ response.status ∧ response.status < 600 then
        cidMaps (observeAt cfg st.gateways
          ⟨req.index, req.cid, req.rest, response.status, now.date⟩)
      else cidMaps st.gateways := by
  unfold upstreamError
  dsimp only
  by_cases h : response.status = 429
  · have hserver : ¬(500 ≤ response.status ∧ response.status < 600) := by omega
    rw [if_pos (.inl h), gateways_advance, if_neg hserver, if_neg hserver, if_pos h, if_pos rfl]
    rw [cidMaps_set id hgateway, List.modify_id]
    rfl
  · rw [if_neg h]
    by_cases hserver : 500 ≤ response.status ∧ response.status < 600
    · rw [if_pos (.inr hserver), gateways_advance, if_pos hserver, if_pos hserver]
      refine cidMaps_set _ hgateway ?_
      split <;> rfl
    · rw [if_neg (by tauto), if_neg hserver]
      rfl

theorem cidMaps_fetched (parseDate : String → Option ℤ) (answer : Except String GatewayResponse) :
    cidMaps (st.fetched parseDate cfg r now req answer).gateways =
      cidMaps ((reported req now answer).elim st.gateways (observeAt cfg st.gateways)) := by
  unfold fetched reported
  cases answer with
  | error errorName => exact congrArg cidMaps (gateways_attemptThrew _ _)
  | ok response =>
    dsimp only
    cases haborted : req.attemptAborted with
    | true => exact congrArg cidMaps (gateways_attemptThrew _ _)
    | false =>
      cases hok : isOk response.status with
      | true => exact congrArg cidMaps (gateways_streamGatewayResponse _)
      | false =>
        simp only [Bool.or_self, Bool.false_eq_true, if_false]
        cases hgateway : st.gateways[req.index]? with
        | none =>
          dsimp only
          split
          next =>
            have hlength := List.getElem?_eq_none_iff.1 hgateway
            rw [Option.elim_some, observeAt, List.modify_eq_self hlength]
          next => rfl
        | some gateway =>
          dsimp only
          rw [cidMaps_upstreamError hgateway]
          split <;> rfl

/-- The maps change by the failures that responses report. -/
theorem cidMaps_step (parseDate : String → Option ℤ) (cfg : IpfsConfig) (st : IpfsProxy)
    (e : IpfsEvent) : cidMaps (st.step parseDate cfg e).gateways =
      cidMaps ((st.failure? e).elim st.gateways (observeAt cfg st.gateways)) := by
  cases habout : e.about? with
  | none =>
    cases e with
    | request opened now cid splat => exact congrArg cidMaps (gateways_request _ _ _)
    | fetched | read | written | attemptTimeout | deadline | disconnect => cases habout
  | some r =>
    cases hreq : st.requests.get? r with
    | none =>
      rw [step_of_none parseDate cfg habout hreq, failure?_of_none habout hreq, Option.elim_none]
    | some req =>
      have hreacts := reacts parseDate cfg habout hreq
      generalize st.step parseDate cfg e = st' at hreacts ⊢
      cases hreacts with
      | fetched now answer hstage =>
        rw [failure?_fetched hreq hstage]
        exact cidMaps_fetched parseDate answer
      | read now result stream hstage => exact congrArg cidMaps (gateways_read _ _)
      | written now result stream hstage => exact congrArg cidMaps (gateways_written _ _)
      | attemptTimeout hstarted => rfl
      | deadline => rfl
      | disconnect => rfl
      | ignored e hfetched hread => rw [failure?_of_ignored habout hreq hfetched, Option.elim_none]

/-- What a failure does to a map does not depend on the rest of the gateway. -/
theorem cidMaps_observeAt {gateways gateways' : List GatewayState}
    (h : cidMaps gateways = cidMaps gateways') (f : UpstreamFailure) :
    cidMaps (observeAt cfg gateways f) = cidMaps (observeAt cfg gateways' f) := by
  have hobserve (gateway : GatewayState) : (gateway.observe cfg f).serverErrorCids =
      (GatewayState.observe cfg ⟨"", 0, gateway.serverErrorCids⟩ f).serverErrorCids := by
    unfold GatewayState.observe shouldCoolDownForServerError
    split
    · rfl
    · dsimp only
      split <;> rfl
  refine List.ext_getElem? fun i => ?_
  have hi := congrArg (fun maps => maps[i]?) h
  simp only [cidMaps, observeAt, List.getElem?_map, List.getElem?_modify] at hi ⊢
  cases hgateway : gateways[i]? with
  | none =>
    rw [hgateway, Option.map_none, eq_comm, Option.map_eq_none_iff] at hi
    rw [hi]
  | some gateway =>
    rw [hgateway, Option.map_some, eq_comm, Option.map_eq_some_iff] at hi
    obtain ⟨gateway', hgateway', hsame⟩ := hi
    rw [hgateway']
    simp only [Option.map_eq_map, Option.map_some, Option.some.injEq]
    split
    · rw [hobserve, hobserve gateway', hsame]
    · exact hsame.symm

/-- In every run the gateways have counted the failures that their responses reported. -/
theorem cidMaps_run (parseDate : String → Option ℤ) (cfg : IpfsConfig) (es : List IpfsEvent) :
    cidMaps (Runs.run (IpfsProxy.step parseDate cfg) (.init cfg) es).gateways =
      cidMaps (Runs.run (observeAt cfg) (init cfg).gateways
        (Runs.collect (IpfsProxy.step parseDate cfg) failure? (.init cfg) es)) := by
  induction es using List.reverseRecOn with
  | nil => rfl
  | append_singleton es e ih =>
    rw [Runs.run_snoc, cidMaps_step, Runs.collect_snoc, Runs.run_append]
    cases failure? _ e with
    | none => exact ih
    | some f => exact cidMaps_observeAt ih f

/-- A gateway's map is that of its own failures in the run. -/
theorem serverErrorCids_run {parseDate : String → Option ℤ} {es : List IpfsEvent} {i : ℕ}
    {gateway : GatewayState}
    (h : (Runs.run (IpfsProxy.step parseDate cfg) (.init cfg) es).gateways[i]? = some gateway) :
    ∃ url, cfg.gateways[i]? = some url ∧ gateway.serverErrorCids =
      (Runs.run (GatewayState.observe cfg) ⟨url, 0, .empty⟩
        ((Runs.collect (IpfsProxy.step parseDate cfg) failure? (.init cfg) es).filter
          (·.gateway = i))).serverErrorCids := by
  have hmap := congrArg (fun maps => maps[i]?) (cidMaps_run parseDate cfg es)
  simp only [cidMaps, List.getElem?_map, h, Option.map_some, getElem?_run_observeAt] at hmap
  rw [init, List.getElem?_map] at hmap
  cases hurl : cfg.gateways[i]? with
  | none =>
    rw [hurl] at hmap
    cases hmap
  | some url =>
    rw [hurl] at hmap
    exact ⟨url, rfl, Option.some.inj hmap⟩

end IpfsProxy

/-- A gateway is cooled down at just those server errors at which as many distinct CIDs as
the configuration asks have failed in the window since the last cooldown. The map between
calls has fewer, no gateway has a part in the count of another, and in a run of the proxy the
map of a gateway is that of the failures which its responses reported. -/
theorem server_error_cooldown (cfg : IpfsConfig) :
    (∀ (gateway : GatewayState) (fs : List UpstreamFailure),
      gateway.serverErrorCids = .empty → fs.Pairwise (fun e f => e.time ≤ f.time) →
      (∀ n f, fs[n]? = some f → (gateway.coolsAt cfg fs n = true ↔
        (f.status = 502 ∨ f.status = 503 ∨ f.status = 504) ∧
          cfg.serverErrorMinCids ≤ (gateway.failedCids cfg fs n).ncard)) ∧
      (Runs.run (GatewayState.observe cfg) gateway fs).serverErrorCids.size <
        cfg.serverErrorMinCids) ∧
    (∀ (gateways : List GatewayState) (fs : List UpstreamFailure) (i : ℕ),
      (Runs.run (observeAt cfg) gateways fs)[i]? = gateways[i]?.map fun gateway =>
        Runs.run (GatewayState.observe cfg) gateway (fs.filter (·.gateway = i))) ∧
    (∀ (parseDate : String → Option ℤ) (es : List IpfsEvent) (i : ℕ) (gateway : GatewayState),
      (Runs.run (IpfsProxy.step parseDate cfg) (.init cfg) es).gateways[i]? = some gateway →
      ∃ url, cfg.gateways[i]? = some url ∧ gateway.serverErrorCids =
        (Runs.run (GatewayState.observe cfg) ⟨url, 0, .empty⟩
          ((Runs.collect (IpfsProxy.step parseDate cfg) IpfsProxy.failure? (.init cfg) es).filter
            (·.gateway = i))).serverErrorCids) ∧
    ∀ cid cid' : String, rootCid cid = rootCid cid' ↔ cid = cid' ∨
      "b".toList.isPrefixOf cid.toList = true ∧ "b".toList.isPrefixOf cid'.toList = true ∧
        cid.toLower = cid'.toLower := by
  refine ⟨fun gateway fs hempty hsorted => ⟨fun n f hf => ?_, ?_⟩, fun gateways fs i => ?_,
    fun parseDate es i gateway h => ?_, rootCid_eq_iff⟩
  · exact GatewayState.coolsAt_iff hempty hsorted hf
  · exact GatewayState.size_run hempty fs
  · exact getElem?_run_observeAt cfg fs i gateways
  · exact IpfsProxy.serverErrorCids_run h

/-- The third CID in a minute. -/
theorem server_error_cooldown_third :
    let cfg : IpfsConfig := {
      gateways := ["https://a.test/ipfs/"]
      fetchTimeoutMs := 8000
      fallbackReserveMs := 1000
      maxCooldownMs := 900000
      serverErrorMinCids := 3
      serverErrorWindowMs := 60000
      maxSizeBytes := 10485760
      maxConcurrent := 8
      maxInflightBytes := 41943040
      le_fallbackReserveMs := by decide
      le_maxCooldownMs := by decide
      le_serverErrorMinCids := by decide }
    let gateway : GatewayState := ⟨"https://a.test/ipfs/", 0, .empty⟩
    let fs : List UpstreamFailure := [⟨0, "Qm1", "", 502, 5⟩, ⟨0, "Qm2", "x", 503, 30000⟩,
      ⟨0, "Qm3", "", 504, 60004⟩]
    3 ≤ (gateway.failedCids cfg fs 2).ncard := by
  intro cfg gateway fs
  have hcools : gateway.coolsAt cfg fs 2 = true := by decide +kernel
  exact (((server_error_cooldown cfg).1 gateway fs rfl (by decide)).1 2 _ rfl).1 hcools |>.2

end QrlBackend
