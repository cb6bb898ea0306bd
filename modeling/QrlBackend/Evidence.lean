import QrlBackend.HealthMonitor

/-!
# Readiness is backed by evidence

The polls of an endpoint so far, with what each came to (`history`), determine its record :
every field is what the latest poll that passed the checks wrote, and the failures after
it (`Tracked`). An endpoint that is ready has a recent successful poll of a moving head,
and, if its network is pinned, nothing has failed since that poll verified the chain
(`readiness_backed`).
-/

set_option autoImplicit false

namespace QrlBackend

namespace HealthMonitor

/-- A poll that passed the checks. `verifiedAt` is the first reading of the turn that ended
it, `completedAt` the last. -/
structure Passed where
  expectedIdentity : Option RpcIdentity
  start : ℕ
  answers : PollAnswers
  head : Head
  verifiedAt : ℕ
  completedAt : ℕ

inductive PollResult where
  | passed (p : Passed)
  | failed

/-- What a poll of the endpoint comes to, if the event ends one. -/
def result? (network : NetworkName) (i : ℕ) (st : HealthMonitor) : Event → Option PollResult
  | .respond network' i' status _ _ =>
    if network' = network ∧ i' = i then
      match st.polls network i with
      | none => none
      | some poll => if poll.responded || isOk status then none else some .failed
    else none
  | .finish network' i' answers err endedAt _ changedAt =>
    if network' = network ∧ i' = i then
      match st.polls network i with
      | none => none
      | some poll =>
        match Poll.outcome poll answers err with
        | .error _ => some .failed
        | .ok head =>
          some (.passed ⟨poll.expectedIdentity, poll.start, answers, head, endedAt, changedAt⟩)
    else none
  | .pin _ _ | .begin _ _ _ => none

/-- The polls of an endpoint so far, oldest first. -/
def history (cfg : RpcHealthConfig) (st : HealthMonitor) (events : List Event)
    (network : NetworkName) (i : ℕ) : List PollResult :=
  Runs.collect (step cfg) (result? network i) st events

def successes (results : List PollResult) : List Passed :=
  results.filterMap fun
    | .passed p => some p
    | .failed => none

/-- The last successful poll that saw the height increase over the successful poll before
it. The first one counts as an increase. -/
def LastIncrease (polls : List Passed) (p : Passed) : Prop :=
  ∃ earlier later, polls = earlier ++ p :: later ∧
    (∀ q ∈ earlier.getLast?, q.head.height < p.head.height) ∧
    List.IsChain (fun q q' => q'.head.height ≤ q.head.height) (p :: later)

/-- The answers spell the pinned chain ID and genesis hash. -/
structure Identifies (identity : RpcIdentity) (answers : PollAnswers) : Prop where
  chainId : ∃ s, query "qrl_chainId" answers.chainId = .ok (.string s) ∧
    s.toLower = identity.chainId
  genesis : ∃ block s, query "qrl_getBlockByNumber" answers.genesis = .ok block ∧
    block.fieldIs "number" "0x0" = true ∧ block.field? "hash" = some (.string s) ∧
    s.toLower = identity.genesisHash

/-- What an endpoint's polls say when it is ready at a time : the latest successful one is
recent and of a fresh head that was moving, few failed since, and none if the network is
pinned, whose chain that poll verified. -/
structure Backed (cfg : RpcHealthConfig) (expectedIdentity : Option RpcIdentity) (t : ℕ)
    (results : List PollResult) (latest : Passed) (failures : ℕ) : Prop where
  checked : verify latest.expectedIdentity latest.start latest.answers = .ok latest.head
  completed : latest.completedAt ≤ t
  recent : t ≤ latest.completedAt + max (3 * cfg.pollIntervalMs) (2 * cfg.pollTimeoutMs)
  synced : latest.head.syncing = false
  notOld : t ≤ latest.head.timestamp * 1000 + cfg.maxHeadAgeMs
  notFuture : latest.head.timestamp * 1000 ≤ t + cfg.maxHeadFutureMs
  moving : ∃ increase, LastIncrease (successes results) increase ∧
    latest.completedAt ≤ increase.completedAt + cfg.stallAfterMs
  few : failures < cfg.downAfterFailures
  pinned : ∀ identity, expectedIdentity = some identity →
    Identifies identity latest.answers ∧ failures = 0

/-! ## The last increase -/

theorem lastIncrease_first (p : Passed) : LastIncrease [p] p :=
  ⟨[], [], rfl, by simp, .singleton _⟩

/-- A poll with a greater height is the last increase. -/
theorem lastIncrease_advance {polls : List Passed} {p q : Passed} (hlast : polls.getLast? = some q)
    (hlt : q.head.height < p.head.height) : LastIncrease (polls ++ [p]) p := by
  refine ⟨polls, [], rfl, fun q' hq' => ?_, .singleton _⟩
  rw [hlast] at hq'
  cases hq'
  exact hlt

/-- Any other poll keeps the last increase. -/
theorem LastIncrease.keep {polls : List Passed} {p q inc : Passed} (h : LastIncrease polls inc)
    (hlast : polls.getLast? = some q) (hle : p.head.height ≤ q.head.height) :
    LastIncrease (polls ++ [p]) inc := by
  obtain ⟨earlier, later, rfl, hinc, hchain⟩ := h
  refine ⟨earlier, later ++ [p], by simp, hinc, ?_⟩
  rw [← List.cons_append]
  refine hchain.append (.singleton _) fun q' hq' p' hp' => ?_
  rw [List.getLast?_append_of_ne_nil _ (by simp)] at hlast
  rw [hlast] at hq'
  cases hq'
  cases hp'
  exact hle

/-! ## Records and histories -/

/-- The record of an endpoint with these polls. -/
inductive Tracked (cfg : RpcHealthConfig) (ep : EndpointRecord) : List PollResult → Prop
  | unseen (n : ℕ) (hheight : ep.lastHeight = none) : Tracked cfg ep (List.replicate n .failed)
  | seen (before : List PollResult) (latest increase : Passed) (failures : ℕ)
      (hchecked : verify latest.expectedIdentity latest.start latest.answers = .ok latest.head)
      (hincrease : LastIncrease (successes before ++ [latest]) increase)
      (hheight : ep.lastHeight = some latest.head.height)
      (hchange : ep.lastHeightChangeAt = increase.completedAt)
      (hverified : ep.lastVerifiedPollAt = some latest.verifiedAt)
      (htimestamp : ep.headTimestamp = some (latest.head.timestamp * 1000))
      (hsyncing : ep.syncing = some latest.head.syncing)
      (hfailures : ep.consecutiveFailures = failures)
      (hidentity : ep.verifiedIdentity = if failures = 0 then latest.expectedIdentity else none)
      (hup : ep.state = .up → failures < cfg.downAfterFailures ∧
        latest.completedAt ≤ increase.completedAt + cfg.stallAfterMs) :
      Tracked cfg ep (before ++ .passed latest :: List.replicate failures .failed)

variable {cfg : RpcHealthConfig} {ep : EndpointRecord} {results : List PollResult}

/-- The fields a failure reads and keeps. -/
theorem Tracked.failed (h : Tracked cfg ep results) (polledAt : Option ℕ)
    (latencyMs : Option ℤ) (err : JsError) :
    Tracked cfg ({ ep with lastPollAt := polledAt, lastLatencyMs := latencyMs }.applyFailure cfg
      err) (results ++ [.failed]) := by
  cases h with
  | unseen n hheight =>
    rw [← List.replicate_succ']
    exact .unseen (n + 1) hheight
  | seen before latest increase failures hchecked hincrease hheight hchange hverified htimestamp
      hsyncing hfailures hidentity hup =>
    rw [List.append_assoc, List.cons_append, ← List.replicate_succ']
    refine .seen before latest increase (failures + 1) hchecked hincrease hheight hchange hverified
      htimestamp hsyncing (congrArg (· + 1) hfailures) (if_neg (Nat.succ_ne_zero _)).symm ?_
    intro hstate
    simp only [EndpointRecord.applyFailure, hfailures] at hstate
    split at hstate
    · cases hstate
    next hfew => exact ⟨Nat.lt_of_not_le hfew, (hup hstate).2⟩

theorem successes_replicate_failed (n : ℕ) : successes (List.replicate n .failed) = [] := by
  simp [successes]

theorem successes_seen (before : List PollResult) (p : Passed) (n : ℕ) :
    successes (before ++ .passed p :: List.replicate n .failed) = successes before ++ [p] := by
  simp [successes]

/-- A poll that sees no increase leaves an endpoint up only if the last one was not too long
ago. -/
theorem moving_of_up {now height last : ℕ} (hlast : ep.lastHeight = some last)
    (hle : height ≤ last) (hup : (ep.applyPollSuccess cfg now height).state = .up) :
    now ≤ ep.lastHeightChangeAt + cfg.stallAfterMs := by
  have hnot : decide (last < height) = false := decide_eq_false hle.not_gt
  simp only [EndpointRecord.applyPollSuccess, hlast, hnot, Bool.false_eq_true, if_false] at hup
  split at hup
  · cases hup
  · omega

theorem Tracked.passed (h : Tracked cfg ep results) (poll : Poll) {answers : PollAnswers}
    {head : Head} (hchecked : verify poll.expectedIdentity poll.start answers = .ok head)
    (endedAt latencyAt changedAt : ℕ) :
    Tracked cfg (passed cfg poll endedAt latencyAt changedAt head ep) (results ++
      [.passed ⟨poll.expectedIdentity, poll.start, answers, head, endedAt, changedAt⟩]) := by
  set p : Passed := ⟨poll.expectedIdentity, poll.start, answers, head, endedAt, changedAt⟩
  have hseen : ∀ increase, LastIncrease (successes results ++ [p]) increase →
      (HealthMonitor.passed cfg poll endedAt latencyAt changedAt head ep).lastHeightChangeAt =
        increase.completedAt →
      ((HealthMonitor.passed cfg poll endedAt latencyAt changedAt head ep).state = .up →
        p.completedAt ≤ increase.completedAt + cfg.stallAfterMs) →
      Tracked cfg (HealthMonitor.passed cfg poll endedAt latencyAt changedAt head ep)
        (results ++ [.passed p]) := fun increase hincrease hchange hup =>
    .seen results p increase 0 hchecked hincrease rfl hchange rfl rfl rfl rfl rfl
      fun hstate => ⟨cfg.downAfterFailures_pos, hup hstate⟩
  cases h with
  | unseen n hheight =>
    refine hseen p ?_ ?_ fun _ => Nat.le_add_right _ _
    · rw [successes_replicate_failed]
      exact lastIncrease_first p
    · simp [HealthMonitor.passed, EndpointRecord.applyPollSuccess, hheight, p]
  | seen before latest increase failures _ hincrease hheight hchange =>
    have hlast : (successes before ++ [latest]).getLast? = some latest := by simp
    rcases Nat.lt_or_ge latest.head.height head.height with hlt | hle
    · refine hseen p ?_ ?_ fun _ => Nat.le_add_right _ _
      · rw [successes_seen]
        exact lastIncrease_advance hlast hlt
      · simp [HealthMonitor.passed, EndpointRecord.applyPollSuccess, hheight, hlt, p]
    · refine hseen increase ?_ ?_ fun hstate => ?_
      · rw [successes_seen]
        exact hincrease.keep hlast hle
      · simp [HealthMonitor.passed, EndpointRecord.applyPollSuccess, hheight, hle.not_gt, hchange]
      · rw [← hchange]
        exact moving_of_up hheight hle hstate

/-! ## Runs -/

/-- What an event does to a record, by the poll of the endpoint that it ends. -/
inductive Written (cfg : RpcHealthConfig) : Option PollResult →
    (EndpointRecord → EndpointRecord) → Prop
  | untouched : Written cfg none id
  | arrived (polledAt : ℕ) (latencyMs : ℤ) : Written cfg none fun ep =>
      { ep with lastPollAt := some polledAt, lastLatencyMs := some latencyMs }
  | failed (f : EndpointRecord → EndpointRecord)
      (hf : ∀ ep, ∃ polledAt latencyMs err, f ep =
        { ep with lastPollAt := polledAt, lastLatencyMs := latencyMs }.applyFailure cfg err) :
      Written cfg (some .failed) f
  | passed (poll : Poll) (answers : PollAnswers) (head : Head) (endedAt latencyAt changedAt : ℕ)
      (hchecked : verify poll.expectedIdentity poll.start answers = .ok head) :
      Written cfg
        (some (.passed ⟨poll.expectedIdentity, poll.start, answers, head, endedAt, changedAt⟩))
        (passed cfg poll endedAt latencyAt changedAt head)

theorem Written.url {result : Option PollResult} {f : EndpointRecord → EndpointRecord}
    (hf : Written cfg result f) (ep : EndpointRecord) : (f ep).url = ep.url := by
  cases hf with
  | untouched | arrived | passed => rfl
  | failed _ hf =>
    obtain ⟨polledAt, latencyMs, err, heq⟩ := hf ep
    rw [heq]
    rfl

theorem Written.tracked {result : Option PollResult} {f : EndpointRecord → EndpointRecord}
    (hf : Written cfg result f) (h : Tracked cfg ep results) :
    Tracked cfg (f ep) (results ++ result.toList) := by
  cases hf with
  | untouched => simpa using h
  | arrived polledAt latencyMs =>
    rw [Option.toList_none, List.append_nil]
    cases h with
    | unseen n hheight => exact .unseen n hheight
    | seen before latest increase failures hchecked hincrease hheight hchange hverified
        htimestamp hsyncing hfailures hidentity hup =>
      exact .seen before latest increase failures hchecked hincrease hheight hchange hverified
        htimestamp hsyncing hfailures hidentity hup
  | failed _ hf =>
    obtain ⟨polledAt, latencyMs, err, heq⟩ := hf ep
    rw [heq]
    exact h.failed polledAt latencyMs err
  | passed poll answers head endedAt latencyAt changedAt hchecked =>
    exact h.passed poll hchecked endedAt latencyAt changedAt

theorem getElem?_modifyRecord (st : HealthMonitor) (network : NetworkName) (i : ℕ)
    (f : EndpointRecord → EndpointRecord) :
    ((st.modifyRecord network i f).networks network)[i]? = ((st.networks network)[i]?).map f := by
  unfold modifyRecord
  dsimp only
  rw [Function.update_self, List.getElem?_modify_eq]
  rfl

theorem getElem?_modifyRecord_of_ne (st : HealthMonitor) {network network' : NetworkName}
    {i i' : ℕ} (f : EndpointRecord → EndpointRecord) (h : ¬(network' = network ∧ i' = i)) :
    ((st.modifyRecord network' i' f).networks network)[i]? = (st.networks network)[i]? := by
  unfold modifyRecord
  dsimp only
  by_cases hn : network = network'
  · subst hn
    rw [Function.update_self, List.getElem?_modify_ne _ _ fun hi => h ⟨rfl, hi⟩]
  · rw [Function.update_of_ne hn]

theorem written_step (st : HealthMonitor) (network : NetworkName) (i : ℕ) (event : Event) :
    ∃ f, ((step cfg st event).networks network)[i]? = ((st.networks network)[i]?).map f ∧
      Written cfg (result? network i st event) f := by
  have hsame : ∃ f, (st.networks network)[i]? = ((st.networks network)[i]?).map f ∧
      Written cfg none f := ⟨id, by simp, .untouched⟩
  cases event with
  | pin => exact hsame
  | begin network' i' =>
    unfold step
    dsimp only
    split
    · exact hsame
    · split <;> exact hsame
  | respond network' i' status polledAt latencyAt =>
    by_cases hi : network' = network ∧ i' = i
    · obtain ⟨rfl, rfl⟩ := hi
      cases hpoll : st.polls network' i' with
      | none => simpa [step, result?, hpoll] using hsame
      | some poll =>
        cases hresponded : poll.responded with
        | true => simpa [step, result?, hpoll, hresponded] using hsame
        | false =>
          simp only [step, result?, hpoll, hresponded, onRespond, Bool.false_or, and_self, if_true,
            Bool.false_eq_true, if_false]
          cases hok : isOk status with
          | true => exact ⟨_, getElem?_modifyRecord _ _ _ _, .arrived _ _⟩
          | false => exact ⟨_, getElem?_modifyRecord _ _ _ _, .failed _ fun ep => ⟨_, _, _, rfl⟩⟩
    · have hother : ((step cfg st (.respond network' i' status polledAt latencyAt)).networks
          network)[i]? = (st.networks network)[i]? := by
        unfold step onRespond
        dsimp only
        split
        · split
          · rfl
          · split <;> exact getElem?_modifyRecord_of_ne _ _ hi
        · rfl
      rw [hother, result?, if_neg hi]
      exact hsame
  | finish network' i' answers err endedAt latencyAt changedAt =>
    by_cases hi : network' = network ∧ i' = i
    · obtain ⟨rfl, rfl⟩ := hi
      cases hpoll : st.polls network' i' with
      | none => simpa [step, result?, hpoll] using hsame
      | some poll =>
        simp only [step, result?, hpoll, and_self, if_true]
        refine ⟨_, getElem?_modifyRecord _ _ _ _, ?_⟩
        cases hout : Poll.outcome poll answers err with
        | error failure =>
          refine .failed _ fun ep => ?_
          cases failure with
          | unparseable => exact ⟨ep.lastPollAt, ep.lastLatencyMs, _, rfl⟩
          | thrown err => exact ⟨_, _, _, rfl⟩
        | ok head =>
          refine .passed poll answers head endedAt latencyAt changedAt ?_
          unfold Poll.outcome at hout
          split at hout
          · exact hout
          · cases hout
    · have hother : ((step cfg st (.finish network' i' answers err endedAt latencyAt
          changedAt)).networks network)[i]? = (st.networks network)[i]? := by
        unfold step
        dsimp only
        split
        · rfl
        · exact getElem?_modifyRecord_of_ne _ _ hi
      rw [hother, result?, if_neg hi]
      exact hsame

/-- Polls keep the endpoints of a network in place. -/
theorem urls_after (cfg : RpcHealthConfig) (now : ℕ) (endpoints : NetworkName → List String)
    (expectedIdentities : NetworkName → Option RpcIdentity) (events : List Event)
    (network : NetworkName) (i : ℕ) :
    (((Runs.run (step cfg) (init now endpoints expectedIdentities) events).networks
      network)[i]?).map (·.url) = (endpoints network)[i]? := by
  induction events using List.reverseRecOn with
  | nil => simp [init, makeEndpointRecord, Function.comp_def]
  | append_singleton events event ih =>
    obtain ⟨f, hrecord, hwritten⟩ := @written_step cfg
      (Runs.run (step cfg) (init now endpoints expectedIdentities) events) network i event
    rw [Runs.run_snoc, hrecord, Option.map_map, ← ih]
    congr 1
    funext ep
    exact hwritten.url ep

/-- Every record is the one its endpoint's polls determine. -/
theorem tracked_after (cfg : RpcHealthConfig) (now : ℕ) (endpoints : NetworkName → List String)
    (expectedIdentities : NetworkName → Option RpcIdentity) (events : List Event)
    (network : NetworkName) (i : ℕ) : ∀ ep,
    ((Runs.run (step cfg) (init now endpoints expectedIdentities) events).networks
      network)[i]? = some ep →
    Tracked cfg ep (history cfg (init now endpoints expectedIdentities) events network i) := by
  induction events using List.reverseRecOn with
  | nil =>
    intro ep hep
    simp only [Runs.run_nil, init, List.getElem?_map, Option.map_eq_some_iff] at hep
    obtain ⟨url, -, rfl⟩ := hep
    exact .unseen 0 rfl
  | append_singleton events event ih =>
    intro ep hep
    obtain ⟨f, hrecord, hwritten⟩ := @written_step cfg
      (Runs.run (step cfg) (init now endpoints expectedIdentities) events) network i event
    rw [Runs.run_snoc, hrecord] at hep
    obtain ⟨ep', hep', rfl⟩ := Option.map_eq_some_iff.1 hep
    rw [history, Runs.collect_snoc]
    exact hwritten.tracked (ih ep' hep')

/-! ## Readiness -/

/-- A ready endpoint has a record with a fresh head and the pinned identity. -/
theorem exists_of_ready {st : HealthMonitor} {network : NetworkName} {t : ℕ} {url : String}
    (h : url ∈ st.readyEndpointsForAttempt cfg t network) :
    ∃ (i : ℕ) (ep : EndpointRecord), (st.networks network)[i]? = some ep ∧ ep.url = url ∧
      ep.hasFreshHead cfg t = true ∧ ep.matchesIdentity (st.expectedIdentities network) = true := by
  unfold readyEndpointsForAttempt at h
  dsimp only at h
  rw [List.mem_filter, List.contains_iff_mem, List.mem_map] at h
  obtain ⟨-, ep, hep, rfl⟩ := h
  have hfresh := List.mem_filter.1 (List.mem_filter.1 hep).1
  rw [Bool.and_eq_true] at hfresh
  obtain ⟨i, hi⟩ := List.mem_iff_getElem?.1 hfresh.1
  exact ⟨i, ep, hi, rfl, hfresh.2⟩

/-- What the identity checks of a poll accept. -/
theorem verifyIdentity_iff (expected : RpcIdentity) (answers : PollAnswers) :
    verifyIdentity expected answers = .ok () ↔
      (∃ s, query "qrl_chainId" answers.chainId = .ok (.string s) ∧ isChainIdText s = true ∧
        s.toLower = expected.chainId) ∧
      ∃ block s, query "qrl_getBlockByNumber" answers.genesis = .ok block ∧
        block.fieldIs "number" "0x0" = true ∧ block.field? "hash" = some (.string s) ∧
        isHash s = true ∧ s.toLower = expected.genesisHash := by
  constructor
  · intro h
    unfold verifyIdentity at h
    cases hchain : query "qrl_chainId" answers.chainId with
    | error => rw [hchain] at h; cases h
    | ok json =>
      rw [hchain] at h
      dsimp only [bind, Except.bind] at h
      split at h
      next chainId =>
        split at h
        next hid =>
          cases hgenesis : query "qrl_getBlockByNumber" answers.genesis with
          | error => rw [hgenesis] at h; cases h
          | ok block =>
            rw [hgenesis] at h
            dsimp only at h
            split at h
            next hash hfield =>
              split at h
              next hhash =>
                simp only [Bool.and_eq_true, decide_eq_true_eq] at hid hhash
                exact ⟨⟨chainId, rfl, hid⟩, block, hash, rfl, hhash.1.1, hfield, hhash.1.2, hhash.2⟩
              next => cases h
            next => cases h
        next => cases h
      next => cases h
  · rintro ⟨⟨s, hchain, htext, hlower⟩, block, s', hgenesis, hnumber, hfield, hhash, hlower'⟩
    unfold verifyIdentity
    rw [hchain, hgenesis]
    dsimp only [bind, Except.bind]
    rw [if_pos (by simp [htext, hlower]), hfield]
    exact if_pos (by simp [hnumber, hhash, hlower'])

theorem identifies_of_verifyIdentity {identity : RpcIdentity} {answers : PollAnswers}
    (h : verifyIdentity identity answers = .ok ()) : Identifies identity answers := by
  obtain ⟨⟨s, hchain, -, hlower⟩, block, s', hgenesis, hnumber, hfield, -, hlower'⟩ :=
    (verifyIdentity_iff identity answers).1 h
  exact ⟨⟨s, hchain, hlower⟩, block, s', hgenesis, hnumber, hfield, hlower'⟩

/-- A poll of a pinned network that passed the checks identified the upstream. -/
theorem identifies_of_verify {identity : RpcIdentity} {start : ℕ} {answers : PollAnswers}
    {head : Head} (h : verify (some identity) start answers = .ok head) :
    Identifies identity answers := by
  unfold verify at h
  cases hheight : answers.height with
  | error => rw [hheight] at h; cases h
  | ok json =>
    rw [hheight] at h
    dsimp only [Except.mapError, bind, Except.bind] at h
    split at h
    · cases h
    · cases hidentity : verifyIdentity identity answers with
      | error => rw [hidentity] at h; cases h
      | ok => exact identifies_of_verifyIdentity hidentity

/-- The readings of the turn that ended a successful poll. -/
theorem readings_of_passed {st : HealthMonitor} {events : List Event} {network : NetworkName}
    {i : ℕ} {p : Passed} (h : .passed p ∈ history cfg st events network i) :
    ∃ event ∈ events, ∃ latencyAt, event.readings = [p.verifiedAt, latencyAt, p.completedAt] := by
  obtain ⟨st', event, hmem, hresult⟩ := Runs.exists_of_mem_collect h
  refine ⟨event, hmem, ?_⟩
  cases event with
  | pin => cases hresult
  | begin => cases hresult
  | respond =>
    simp only [result?] at hresult
    split at hresult
    · split at hresult
      · cases hresult
      · split at hresult <;> cases hresult
    · cases hresult
  | finish network' i' answers err endedAt latencyAt changedAt =>
    simp only [result?] at hresult
    split at hresult
    · split at hresult
      · cases hresult
      · split at hresult
        · cases hresult
        · cases hresult
          exact ⟨latencyAt, rfl⟩
    · cases hresult

/-- A successful poll's readings are in order, and before any later time. -/
theorem clocked_of_passed {st : HealthMonitor} {events : List Event} {network : NetworkName}
    {i : ℕ} {p : Passed} {t : ℕ} (hclock : (events.flatMap Event.readings ++ [t]).Pairwise (· ≤ ·))
    (h : .passed p ∈ history cfg st events network i) :
    p.verifiedAt ≤ p.completedAt ∧ p.completedAt ≤ t := by
  obtain ⟨event, hmem, latencyAt, hreadings⟩ := readings_of_passed h
  rw [List.pairwise_append] at hclock
  obtain ⟨hordered, -, hbefore⟩ := hclock
  have hevent := (List.pairwise_flatMap.1 hordered).1 event hmem
  have hread : p.completedAt ∈ events.flatMap Event.readings :=
    List.mem_flatMap.2 ⟨event, hmem, by rw [hreadings]; simp⟩
  rw [hreadings] at hevent
  simp only [List.pairwise_cons, List.mem_cons] at hevent
  exact ⟨hevent.1 _ (by simp), hbefore _ hread t (List.mem_singleton_self t)⟩

/-- After any non-overlapping polls of an endpoint under a clock that never runs backwards,
a ready endpoint is backed by the polls of a record with its URL. -/
theorem readiness_backed (cfg : RpcHealthConfig) (now : ℕ) (endpoints : NetworkName → List String)
    (expectedIdentities : NetworkName → Option RpcIdentity) (events : List Event) (t : ℕ)
    (hclock : (events.flatMap Event.readings ++ [t]).Pairwise (· ≤ ·)) (network : NetworkName)
    (url : String)
    (hready : url ∈ (Runs.run (step cfg) (init now endpoints expectedIdentities)
      events).readyEndpointsForAttempt cfg t network) :
    ∃ i before latest failures, (endpoints network)[i]? = some url ∧
      history cfg (init now endpoints expectedIdentities) events network i =
        before ++ .passed latest :: List.replicate failures .failed ∧
      Backed cfg ((Runs.run (step cfg) (init now endpoints expectedIdentities)
        events).expectedIdentities network) t (before ++ [.passed latest]) latest failures := by
  obtain ⟨i, ep, hep, rfl, hhead, hmatches⟩ := exists_of_ready hready
  have hurl := urls_after cfg now endpoints expectedIdentities events network i
  rw [hep, Option.map_some] at hurl
  have htracked := tracked_after cfg now endpoints expectedIdentities events network i ep hep
  have hclocked := fun p => @clocked_of_passed cfg (init now endpoints expectedIdentities) events
    network i p t hclock
  refine ⟨i, ?_⟩
  generalize history cfg (init now endpoints expectedIdentities) events network i = results at *
  unfold EndpointRecord.hasFreshHead at hhead
  cases htracked with
  | unseen n hheight => rw [hheight] at hhead; cases hhead
  | seen before latest increase failures hchecked hincrease hheight hchange hverified htimestamp
      hsyncing hfailures hidentity hup =>
    rw [hheight, htimestamp, hverified, hsyncing] at hhead
    simp only [Bool.and_eq_true, decide_eq_true_eq, Option.some.injEq] at hhead
    obtain ⟨⟨⟨⟨hstate, hsynced⟩, hrecent⟩, hold⟩, hfuture⟩ := hhead
    obtain ⟨hfew, hmoving⟩ := hup hstate
    obtain ⟨hverifiedAt, hcompleted⟩ := hclocked latest (by simp)
    refine ⟨before, latest, failures, hurl.symm, rfl, hchecked, hcompleted, by omega, hsynced,
      by omega, by omega, ⟨increase, ?_, hmoving⟩, hfew, fun identity hpinned => ?_⟩
    · simpa [successes] using hincrease
    · rw [hpinned] at hmatches
      simp only [EndpointRecord.matchesIdentity, hidentity] at hmatches
      by_cases hnone : failures = 0
      · rw [if_pos hnone] at hmatches
        refine ⟨?_, hnone⟩
        cases hexpected : latest.expectedIdentity with
        | none => rw [hexpected] at hmatches; cases hmatches
        | some verified =>
          rw [hexpected] at hmatches hchecked
          simp only [Bool.and_eq_true, decide_eq_true_eq] at hmatches
          have hidentifies := identifies_of_verify hchecked
          exact ⟨hmatches.1 ▸ hidentifies.chainId, hmatches.2 ▸ hidentifies.genesis⟩
      · rw [if_neg hnone] at hmatches
        cases hmatches

/-- One poll of a pinned endpoint, whose answers spell the pin. -/
def polledOnce : List Event :=
  let envelope := fun id result => Json.object [("jsonrpc", .string "2.0"), ("id", id),
    ("result", result)]
  let answer := fun method result => Fetched.responded 200 (.ok (envelope (.string method) result))
  [.begin .mainnet 0 5, .respond .mainnet 0 200 7 7,
    .finish .mainnet 0
      { height := .ok (envelope (.number 5) (.string "0x2a"))
        chainId := answer "qrl_chainId" (.string "0x1A")
        genesis := answer "qrl_getBlockByNumber" (.object [("number", .string "0x0"),
          ("hash", .string ("0x" ++ String.ofList (List.replicate 64 'B')))])
        syncing := answer "qrl_syncing" (.bool false)
        block := answer "qrl_getBlockByNumber" (.object [("number", .string "0x2a"),
          ("timestamp", .string "0x0")]) }
      (.error "") 9 9 9]

/-- The chain the answers are on. -/
def pinnedIdentity : RpcIdentity :=
  ⟨"0x1a", "0x" ++ String.ofList (List.replicate 64 'b'), by decide, by decide⟩

theorem readiness_backed_once : ∃ i before latest failures,
    ["http://a"][i]? = some "http://a" ∧
    history .unset (init 0 (fun _ => ["http://a"]) fun _ => some pinnedIdentity) polledOnce
      .mainnet i = before ++ .passed latest :: List.replicate failures .failed ∧
    Backed .unset ((Runs.run (step .unset) (init 0 (fun _ => ["http://a"]) fun _ =>
        some pinnedIdentity) polledOnce).expectedIdentities .mainnet) 10
      (before ++ [.passed latest]) latest failures :=
  readiness_backed .unset 0 (fun _ => ["http://a"]) (fun _ => some pinnedIdentity) polledOnce 10
    (by decide) .mainnet "http://a" (by decide +kernel)

end HealthMonitor

end QrlBackend
