import QrlBackend.HealthMonitor
import QrlBackend.StableSort

/-!
# The ready endpoints

What `readyEndpointsForAttempt` returns for any endpoint table, time and configuration
(`readySet_spec`) : the URLs of the records whose head is fresh and verified and that lag
the highest such record by no more than the bound, by state and latency with the configured
order breaking ties. Every other record is without influence, whatever it reports
(`readyEndpoints_insert`).
-/

set_option autoImplicit false

namespace QrlBackend

/-! ## The order of attempts -/

namespace EndpointRecord

theorem precedes_total (a b : EndpointRecord) : a.precedes b = true ∨ b.precedes a = true := by
  unfold precedes
  rcases lt_trichotomy a.state.order b.state.order with hlt | heq | hgt
  · exact .inl (by simp [hlt])
  · rw [heq]
    cases a.lastLatencyMs with
    | none => exact .inr (by simp)
    | some la =>
      cases b.lastLatencyMs with
      | none => exact .inl (by simp)
      | some lb => simpa using le_total la lb
  · exact .inr (by simp [hgt])

theorem precedes_trans {a b c : EndpointRecord} (hab : a.precedes b = true)
    (hbc : b.precedes c = true) : a.precedes c = true := by
  unfold precedes at *
  simp only [Bool.or_eq_true, Bool.and_eq_true, decide_eq_true_eq] at *
  rcases hab with hab | ⟨hab, hla⟩
  · rcases hbc with hbc | ⟨hbc, -⟩
    · exact .inl (hab.trans hbc)
    · exact .inl (hab.trans_eq hbc)
  · rcases hbc with hbc | ⟨hbc, hlb⟩
    · exact .inl (hab.trans_lt hbc)
    · refine .inr ⟨hab.trans hbc, ?_⟩
      cases hc : c.lastLatencyMs with
      | none => simp
      | some lc =>
        cases hb : b.lastLatencyMs with
        | none => simp [hb, hc] at hlb
        | some lb =>
          cases ha : a.lastLatencyMs with
          | none => simp [ha, hb] at hla
          | some la =>
            simp only [ha, hb, hc, decide_eq_true_eq] at hla hlb ⊢
            exact hla.trans hlb

instance : Std.Total fun a b : EndpointRecord => a.precedes b = true := ⟨precedes_total⟩

instance : IsTrans EndpointRecord fun a b => a.precedes b = true :=
  ⟨fun _ _ _ => precedes_trans⟩

/-- Neither state nor latency tells the records apart. -/
def ties (a b : EndpointRecord) : Bool :=
  decide (a.state = b.state) && decide (a.lastLatencyMs = b.lastLatencyMs)

theorem precedes_of_ties {a b c : EndpointRecord} (hb : a.ties b = true) (hc : a.ties c = true) :
    b.precedes c = true := by
  simp only [ties, Bool.and_eq_true, decide_eq_true_eq] at hb hc
  unfold precedes
  rw [← hb.1, ← hb.2, ← hc.1, ← hc.2]
  cases a.lastLatencyMs <;> simp

end EndpointRecord

namespace HealthMonitor

variable {cfg : RpcHealthConfig} {now : ℕ} {st : HealthMonitor} {network : NetworkName}

/-- The record has a fresh head, and the pinned identity if there is one. -/
def Verified (cfg : RpcHealthConfig) (now : ℕ) (st : HealthMonitor) (network : NetworkName)
    (ep : EndpointRecord) : Prop :=
  ep.hasFreshHead cfg now = true ∧ ep.matchesIdentity (st.expectedIdentities network) = true

theorem mem_fresh {ep : EndpointRecord} : ep ∈ st.fresh cfg now network ↔
    ep ∈ st.networks network ∧ Verified cfg now st network ep := by
  rw [fresh, List.mem_filter, Bool.and_eq_true]
  rfl

/-- A fresh head has a height. -/
theorem lastHeight_of_fresh {ep : EndpointRecord} (h : ep.hasFreshHead cfg now = true) :
    ∃ height, ep.lastHeight = some height := by
  unfold EndpointRecord.hasFreshHead at h
  split at h
  next height _ _ hheight _ _ => exact ⟨height, hheight⟩
  next => cases h

/-! ## The highest head -/

theorem le_foldl_max {f : EndpointRecord → ℕ} {l : List EndpointRecord} : ∀ {start : ℕ},
    start ≤ l.foldl (fun height ep => max height (f ep)) start ∧
    ∀ ep ∈ l, f ep ≤ l.foldl (fun height ep => max height (f ep)) start := by
  induction l with
  | nil => simp
  | cons ep l ih =>
    intro start
    obtain ⟨hstart, hall⟩ := @ih (max start (f ep))
    rw [List.foldl_cons]
    refine ⟨(le_max_left _ _).trans hstart, fun ep' hep' => ?_⟩
    rcases List.mem_cons.1 hep' with rfl | hep'
    · exact (le_max_right _ _).trans hstart
    · exact hall ep' hep'

/-- The maximum is the start or one of the values. -/
theorem foldl_max_mem {f : EndpointRecord → ℕ} {l : List EndpointRecord} : ∀ {start : ℕ},
    l.foldl (fun height ep => max height (f ep)) start = start ∨
    ∃ ep ∈ l, l.foldl (fun height ep => max height (f ep)) start = f ep := by
  induction l with
  | nil => simp
  | cons ep l ih =>
    intro start
    rw [List.foldl_cons]
    rcases @ih (max start (f ep)) with hstart | ⟨ep', hmem, hmax⟩
    · rw [hstart]
      rcases max_choice start (f ep) with h | h
      · exact .inl h
      · exact .inr ⟨ep, List.mem_cons_self, h⟩
    · exact .inr ⟨ep', List.mem_cons_of_mem _ hmem, hmax⟩

/-- The height of the highest of the records. -/
def highest (records : List EndpointRecord) : ℕ :=
  records.foldl (fun height ep => max height (ep.lastHeight.getD 0)) 0

/-- The records that lag the highest of them by no more than the bound. -/
def abreast (cfg : RpcHealthConfig) (records : List EndpointRecord) : List EndpointRecord :=
  records.filter fun ep => highest records - ep.lastHeight.getD 0 ≤ cfg.maxLagBlocks

/-- The records in the order of attempts whose URL is that of a ready record. -/
theorem readyEndpointsForAttempt_eq : st.readyEndpointsForAttempt cfg now network =
    (((st.networks network).insertionSort fun a b => a.precedes b).filter fun ep =>
      ((abreast cfg (st.fresh cfg now network)).map (·.url)).contains ep.url).map (·.url) := by
  rw [readyEndpointsForAttempt, orderEndpointsForAttempt, List.filter_map]
  rfl

theorem mem_abreast {records : List EndpointRecord} {ep : EndpointRecord} :
    ep ∈ abreast cfg records ↔ ep ∈ records ∧ ∀ other ∈ records,
      other.lastHeight.getD 0 ≤ ep.lastHeight.getD 0 + cfg.maxLagBlocks := by
  rw [abreast, List.mem_filter, decide_eq_true_eq, Nat.sub_le_iff_le_add']
  refine and_congr_right fun _ => ⟨fun h other hother => ?_, fun h => ?_⟩
  · exact (le_foldl_max.2 other hother).trans h
  · rcases @foldl_max_mem (fun ep => ep.lastHeight.getD 0) records 0 with hzero | ⟨other, hmem, heq⟩
    · exact (Nat.le_of_eq hzero).trans (Nat.zero_le _)
    · exact (Nat.le_of_eq heq).trans (h other hmem)

/-- The highest record is one of them. -/
theorem abreast_ne_nil {records : List EndpointRecord} (h : records ≠ []) :
    abreast cfg records ≠ [] := by
  obtain ⟨ep, hep⟩ := List.exists_mem_of_ne_nil _ h
  rcases @foldl_max_mem (fun ep => ep.lastHeight.getD 0) records 0 with hzero | ⟨top, hmem, heq⟩
  · refine List.ne_nil_of_mem (mem_abreast.2 ⟨hep, fun other hother => ?_⟩)
    have hle := (@le_foldl_max (fun ep => ep.lastHeight.getD 0) records 0).2 other hother
    omega
  · refine List.ne_nil_of_mem (mem_abreast.2 ⟨hmem, fun other hother => ?_⟩)
    have hle := (@le_foldl_max (fun ep => ep.lastHeight.getD 0) records 0).2 other hother
    omega

/-! ## The specification -/

/-- What the ready endpoints of a network are. -/
structure ReadySpec (cfg : RpcHealthConfig) (now : ℕ) (st : HealthMonitor)
    (network : NetworkName) : Prop where
  mem_iff : ∀ url, url ∈ st.readyEndpointsForAttempt cfg now network ↔
    ∃ ep ∈ st.networks network, ep.url = url ∧ Verified cfg now st network ep ∧
      ∃ height, ep.lastHeight = some height ∧
        ∀ other ∈ st.networks network, Verified cfg now st network other →
          ∀ otherHeight, other.lastHeight = some otherHeight →
            otherHeight ≤ height + cfg.maxLagBlocks
  /-- They are URLs of records in order, and records that tie are in the configured order. -/
  ordered : ∃ records : List EndpointRecord,
    st.readyEndpointsForAttempt cfg now network = records.map (·.url) ∧
    records.Pairwise (fun a b => a.precedes b = true) ∧
    ∀ ep : EndpointRecord, records.filter ep.ties = ((st.networks network).filter fun r =>
      (st.readyEndpointsForAttempt cfg now network).contains r.url).filter ep.ties
  ne_nil_iff : st.readyEndpointsForAttempt cfg now network ≠ [] ↔
    ∃ ep ∈ st.networks network, Verified cfg now st network ep

theorem mem_readyEndpointsForAttempt {url : String} :
    url ∈ st.readyEndpointsForAttempt cfg now network ↔
      ∃ ep ∈ abreast cfg (st.fresh cfg now network), ep.url = url := by
  rw [readyEndpointsForAttempt_eq, List.mem_map]
  constructor
  · rintro ⟨ep, hep, rfl⟩
    exact List.mem_map.1 (List.contains_iff_mem.1 (List.mem_filter.1 hep).2)
  · rintro ⟨ep, hep, rfl⟩
    refine ⟨ep, List.mem_filter.2 ⟨(List.mem_insertionSort _).2 ?_, ?_⟩, rfl⟩
    · exact (mem_fresh.1 (mem_abreast.1 hep).1).1
    · exact List.contains_iff_mem.2 (List.mem_map_of_mem hep)

theorem readySpec (cfg : RpcHealthConfig) (now : ℕ) (st : HealthMonitor) (network : NetworkName) :
    ReadySpec cfg now st network where
  mem_iff url := by
    rw [mem_readyEndpointsForAttempt]
    constructor
    · rintro ⟨ep, hep, rfl⟩
      obtain ⟨hfresh, hlag⟩ := mem_abreast.1 hep
      obtain ⟨hmem, hverified⟩ := mem_fresh.1 hfresh
      obtain ⟨height, hheight⟩ := lastHeight_of_fresh hverified.1
      refine ⟨ep, hmem, rfl, hverified, height, hheight, fun other hother hver h hh => ?_⟩
      simpa [hheight, hh] using hlag other (mem_fresh.2 ⟨hother, hver⟩)
    · rintro ⟨ep, hmem, rfl, hverified, height, hheight, hlag⟩
      refine ⟨ep, mem_abreast.2 ⟨mem_fresh.2 ⟨hmem, hverified⟩, fun other hother => ?_⟩, rfl⟩
      obtain ⟨hmem', hverified'⟩ := mem_fresh.1 hother
      obtain ⟨height', hheight'⟩ := lastHeight_of_fresh hverified'.1
      simpa [hheight, hheight'] using hlag other hmem' hverified' height' hheight'
  ordered := by
    refine ⟨_, readyEndpointsForAttempt_eq, ?_, fun ep => ?_⟩
    · exact (List.pairwise_insertionSort _ _).sublist List.filter_sublist
    · have hsame : ∀ r ∈ st.networks network,
          ((abreast cfg (st.fresh cfg now network)).map (·.url)).contains r.url =
            (st.readyEndpointsForAttempt cfg now network).contains r.url := by
        intro r _
        rw [Bool.eq_iff_iff, List.contains_iff_mem, List.contains_iff_mem,
          mem_readyEndpointsForAttempt, List.mem_map]
      rw [StableSort.filter_insertionSort, List.filter_congr hsame]
      exact StableSort.filter_ties (fun _ _ => EndpointRecord.precedes_of_ties) _
  ne_nil_iff := by
    constructor
    · intro hne
      obtain ⟨url, hurl⟩ := List.exists_mem_of_ne_nil _ hne
      obtain ⟨ep, hep, -⟩ := mem_readyEndpointsForAttempt.1 hurl
      exact ⟨ep, mem_fresh.1 (mem_abreast.1 hep).1⟩
    · rintro ⟨ep, hep⟩
      obtain ⟨top, htop⟩ := List.exists_mem_of_ne_nil _
        (@abreast_ne_nil cfg _ (List.ne_nil_of_mem (mem_fresh.2 hep)))
      exact List.ne_nil_of_mem (mem_readyEndpointsForAttempt.2 ⟨top, htop, rfl⟩)

/-! ## Non-interference -/

/-- Records with distinct URLs are told apart by them. -/
theorem eq_of_url_eq {records : List EndpointRecord} (h : (records.map (·.url)).Nodup)
    {a b : EndpointRecord} (ha : a ∈ records) (hb : b ∈ records) (hurl : a.url = b.url) : a = b :=
  List.inj_on_of_nodup_map h ha hb hurl

/-- With distinct URLs, the ready endpoints are the sorted URLs of the records that are
verified and abreast, and nothing else of the table matters. -/
theorem readyEndpointsForAttempt_of_nodup (h : ((st.networks network).map (·.url)).Nodup) :
    st.readyEndpointsForAttempt cfg now network =
      ((abreast cfg (st.fresh cfg now network)).insertionSort fun a b => a.precedes b).map
        (·.url) := by
  set height := highest (st.fresh cfg now network)
  have hsame : ∀ r ∈ st.networks network,
      ((abreast cfg (st.fresh cfg now network)).map (·.url)).contains r.url =
        (decide (height - r.lastHeight.getD 0 ≤ cfg.maxLagBlocks) &&
          (r.hasFreshHead cfg now && r.matchesIdentity (st.expectedIdentities network))) := by
    intro r hr
    rw [Bool.eq_iff_iff, List.contains_iff_mem, List.mem_map, Bool.and_eq_true]
    constructor
    · rintro ⟨ep, hep, hurl⟩
      obtain ⟨hfresh, hlag⟩ := List.mem_filter.1 hep
      obtain ⟨hmem, hverified⟩ := List.mem_filter.1 hfresh
      obtain rfl := eq_of_url_eq h hmem hr hurl
      exact ⟨hlag, hverified⟩
    · rintro ⟨hlag, hverified⟩
      exact ⟨r, List.mem_filter.2 ⟨List.mem_filter.2 ⟨hr, hverified⟩, hlag⟩, rfl⟩
  rw [readyEndpointsForAttempt_eq, StableSort.filter_insertionSort, List.filter_congr hsame,
    ← List.filter_filter]
  rfl

/-- The ready endpoints are as specified, and tables with distinct URLs and the same fresh
and verified records in the same order have the same ready endpoints. -/
theorem readySet_spec (cfg : RpcHealthConfig) (now : ℕ) :
    (∀ st network, ReadySpec cfg now st network) ∧
    ∀ (st st' : HealthMonitor) network, ((st.networks network).map (·.url)).Nodup →
      ((st'.networks network).map (·.url)).Nodup →
      st.fresh cfg now network = st'.fresh cfg now network →
      st.readyEndpointsForAttempt cfg now network =
        st'.readyEndpointsForAttempt cfg now network := by
  refine ⟨readySpec cfg now, fun st st' network hnodup hnodup' hfresh => ?_⟩
  rw [readyEndpointsForAttempt_of_nodup hnodup, readyEndpointsForAttempt_of_nodup hnodup', hfresh]

/-- Why a record has no influence : it is down, stalled or not polled yet, it syncs, its poll
has expired, its head is not recent, or the chain is a wrong one. -/
inductive Unfit (cfg : RpcHealthConfig) (now : ℕ) (st : HealthMonitor) (network : NetworkName)
    (ep : EndpointRecord) : Prop
  | notUp (h : ep.state ≠ .up)
  | syncing (h : ep.syncing ≠ some false)
  | expired {verifiedAt : ℕ} (h : ep.lastVerifiedPollAt = some verifiedAt)
      (hage : max (cfg.pollIntervalMs * 3) (cfg.pollTimeoutMs * 2) < now - verifiedAt)
  | oldHead {headTimestamp : ℕ} (h : ep.headTimestamp = some headTimestamp)
      (hage : cfg.maxHeadAgeMs < now - headTimestamp)
  | wrongChain {expected : RpcIdentity} (h : st.expectedIdentities network = some expected)
      (hne : ∀ verified, ep.verifiedIdentity = some verified →
        verified.chainId ≠ expected.chainId ∨ verified.genesisHash ≠ expected.genesisHash)

theorem Unfit.not_verified {ep : EndpointRecord} (h : Unfit cfg now st network ep) :
    ¬Verified cfg now st network ep := by
  rintro ⟨hfresh, hidentity⟩
  unfold EndpointRecord.hasFreshHead at hfresh
  dsimp only at hfresh
  split at hfresh
  next height headTimestamp verifiedAt hheight hhead hpoll =>
    simp only [Bool.and_eq_true, decide_eq_true_eq] at hfresh
    obtain ⟨⟨⟨⟨hup, hsynced⟩, hpolled⟩, hrecent⟩, -⟩ := hfresh
    cases h with
    | notUp hstate => exact hstate hup
    | syncing hsyncing => exact hsyncing hsynced
    | expired hpoll' hage =>
      obtain rfl := Option.some.inj (hpoll.symm.trans hpoll')
      exact absurd hpolled (not_le.2 hage)
    | oldHead hhead' hage =>
      obtain rfl := Option.some.inj (hhead.symm.trans hhead')
      exact absurd hrecent (not_le.2 hage)
    | wrongChain hexpected hne =>
      rw [hexpected, EndpointRecord.matchesIdentity] at hidentity
      split at hidentity
      · cases hidentity
      next verified hverified =>
        simp only [Bool.and_eq_true, decide_eq_true_eq] at hidentity
        exact (hne verified hverified).elim (· hidentity.1) (· hidentity.2)
  next => cases hfresh

/-- Such a record neither adds, removes nor reorders an endpoint wherever it is put in, whatever
height it reports. -/
theorem readyEndpoints_insert {st' : HealthMonitor} {before after : List EndpointRecord}
    {ep : EndpointRecord} (h : Unfit cfg now st network ep)
    (hrecords : st.networks network = before ++ ep :: after)
    (hrecords' : st'.networks network = before ++ after)
    (hidentity : st'.expectedIdentities network = st.expectedIdentities network)
    (hnodup : ((st.networks network).map (·.url)).Nodup) :
    st.readyEndpointsForAttempt cfg now network =
      st'.readyEndpointsForAttempt cfg now network := by
  have hnodup' : ((st'.networks network).map (·.url)).Nodup := by
    rw [hrecords] at hnodup
    rw [hrecords']
    exact hnodup.sublist (((List.sublist_cons_self ep after).append_left before).map _)
  have hfresh : st.fresh cfg now network = st'.fresh cfg now network := by
    have hno : (ep.hasFreshHead cfg now && ep.matchesIdentity (st.expectedIdentities network)) =
        false := by
      rw [Bool.eq_false_iff, ne_eq, Bool.and_eq_true]
      exact h.not_verified
    unfold fresh
    rw [hrecords, hrecords', hidentity, List.filter_append, List.filter_append, List.filter_cons,
      hno, if_neg Bool.false_ne_true]
  rw [readyEndpointsForAttempt_of_nodup hnodup, readyEndpointsForAttempt_of_nodup hnodup', hfresh]

/-- A record with a verified head of the height. -/
def verifiedRecord (url : String) (height : ℕ) : EndpointRecord :=
  { makeEndpointRecord 0 url with
    state := .up
    lastHeight := some height
    lastVerifiedPollAt := some 0
    headTimestamp := some 0
    syncing := some false }

/-- An endpoint that is down has no influence, however high it is. -/
theorem readySet_spec_down :
    let alone := fun _ : NetworkName => [verifiedRecord "http://a" 7]
    let behind := fun _ : NetworkName =>
      [{ verifiedRecord "http://b" 1000 with state := .down }, verifiedRecord "http://a" 7]
    (HealthMonitor.mk behind (fun _ => none) fun _ _ => none).readyEndpointsForAttempt .unset 0
        .mainnet =
      (HealthMonitor.mk alone (fun _ => none) fun _ _ => none).readyEndpointsForAttempt .unset 0
        .mainnet :=
  (readySet_spec .unset 0).2 _ _ .mainnet (by decide) (by decide) (by rfl)

end HealthMonitor

end QrlBackend
