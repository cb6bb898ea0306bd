import Mathlib.Data.List.MinMax
import QrlBackend.Cooldowns

/-!
# The failure that is reported

When no gateway has the content, the client is told one of the failures. `outcomes` lists how
the attempts of a request came to nothing. A status that no other gateway would change ends
the search and is reported (`AttemptOutcome.IsTerminal`). Of the others the first of the most
significant kind is reported, a timeout before a server error, then a broken connection, then
a gateway that asks to slow down.

The handler keeps the failure to report while it searches, and `Search` is the invariant : it
is `List.argmax` of the outcomes so far. So it depends on them alone, and its kind not on
their order.
-/

set_option autoImplicit false

namespace QrlBackend

/-! ## Outcomes of attempts -/

/-- How an attempt comes to nothing. -/
inductive AttemptOutcome where
  | timeout
  | unreachable
  | streamError
  | status (status : ℕ)
  deriving DecidableEq

namespace AttemptOutcome

/-- The failure that reports the outcome. -/
def failure : AttemptOutcome → GatewayFailure
  | timeout => timeoutFailure
  | unreachable => ⟨502, "gateway unreachable", none⟩
  | streamError => ⟨502, "gateway stream error", none⟩
  | status s => IpfsProxy.statusFailure s

/-- A status other than 429 and the 5xx ones. -/
def IsTerminal : AttemptOutcome → Prop
  | status s => ¬ IpfsProxy.IsRetryable s
  | _ => False

/-- The kinds of the outcomes that do not end the search, by their significance. -/
def rank : AttemptOutcome → ℕ
  | timeout => 3
  | status s => if s = 429 then 0 else 2
  | unreachable => 1
  | streamError => 1

/-- What an exception in an attempt is. -/
def thrown (readingBody timedOut : Bool) : AttemptOutcome :=
  if timedOut then timeout else if readingBody then streamError else unreachable

theorem failure_thrown (readingBody timedOut : Bool) :
    (thrown readingBody timedOut).failure = attemptFailure readingBody timedOut := by
  cases readingBody <;> cases timedOut <;> rfl

theorem not_isTerminal_thrown (readingBody timedOut : Bool) :
    ¬ (thrown readingBody timedOut).IsTerminal := by
  cases readingBody <;> cases timedOut <;> exact not_false

/-- The priorities of the handler are the significance of the outcomes. -/
theorem failurePriority_failure {o : AttemptOutcome} (h : ¬ o.IsTerminal) :
    failurePriority o.failure = o.rank + 1 := by
  cases o with
  | timeout | unreachable | streamError => rfl
  | status s =>
    have hretry : s = 429 ∨ 500 ≤ s ∧ s < 600 := not_not.1 h
    have hne : s ≠ 404 := by omega
    rw [failure, IpfsProxy.statusFailure, if_neg hne, failurePriority, rank]
    by_cases hs : s = 429
    · subst hs
      rfl
    · have hle : 500 ≤ s := by omega
      simp [hs, hle]

/-- The failure of the most significant outcome, the first of its kind, or the one that a
request starts with. -/
def reported (os : List AttemptOutcome) : GatewayFailure :=
  ((os.argmax rank).map failure).getD coolingFailure

/-- One more outcome is reported if it matters more. -/
theorem reported_snoc {os : List AttemptOutcome} (hos : ∀ o ∈ os, ¬ o.IsTerminal)
    {o : AttemptOutcome} (ho : ¬ o.IsTerminal) :
    reported (os ++ [o]) = preferFailure (reported os) o.failure := by
  unfold reported
  rw [List.argmax_concat]
  cases hmax : os.argmax rank with
  | none =>
    have hpos : failurePriority coolingFailure < failurePriority o.failure := by
      rw [failurePriority_failure ho]
      exact Nat.succ_pos _
    exact (if_pos hpos).symm
  | some m =>
    have hiff : failurePriority m.failure < failurePriority o.failure ↔ m.rank < o.rank := by
      rw [failurePriority_failure ho, failurePriority_failure (hos m (List.argmax_mem hmax)),
        Nat.add_lt_add_iff_right]
    dsimp only [Option.map_some, Option.getD_some]
    by_cases hlt : m.rank < o.rank
    · rw [if_pos hlt]
      exact (if_pos (hiff.2 hlt)).symm
    · rw [if_neg hlt]
      exact (if_neg (mt hiff.1 hlt)).symm

/-- No outcome is more significant, and none before is as significant. -/
def MostSignificant (os : List AttemptOutcome) (o : AttemptOutcome) : Prop :=
  ∃ earlier later, os = earlier ++ o :: later ∧ (∀ o' ∈ earlier, o'.rank < o.rank) ∧
    ∀ o' ∈ later, o'.rank ≤ o.rank

/-- The first outcome of the highest priority is the most significant. -/
theorem mostSignificant_argmax {os : List AttemptOutcome} {m : AttemptOutcome}
    (h : m ∈ os.argmax rank) : MostSignificant os m := by
  induction os using List.reverseRecOn generalizing m with
  | nil => cases h
  | append_singleton os o ih =>
    rw [List.argmax_concat] at h
    cases hmax : os.argmax rank with
    | none =>
      rw [List.argmax_eq_none] at hmax
      subst hmax
      cases h
      exact ⟨[], [], rfl, nofun, nofun⟩
    | some m' =>
      rw [hmax] at h
      obtain ⟨earlier, later, rfl, hearlier, hlater⟩ := ih hmax
      dsimp only at h
      split at h
      next hlt =>
        cases h
        refine ⟨earlier ++ m' :: later, [], rfl, fun o' ho' => ?_, nofun⟩
        rcases List.mem_append.1 ho' with ho' | ho'
        · exact (hearlier o' ho').trans hlt
        · rcases List.mem_cons.1 ho' with rfl | ho'
          · exact hlt
          · exact (hlater o' ho').trans_lt hlt
      next hnot =>
        cases h
        refine ⟨earlier, later ++ [o], by simp, hearlier, fun o' ho' => ?_⟩
        rcases List.mem_append.1 ho' with ho' | ho'
        · exact hlater o' ho'
        · rw [List.mem_singleton.1 ho']
          exact not_lt.1 hnot

theorem MostSignificant.mem {os : List AttemptOutcome} {o : AttemptOutcome}
    (h : MostSignificant os o) : o ∈ os := by
  obtain ⟨earlier, later, rfl, -, -⟩ := h
  exact List.mem_append_right _ List.mem_cons_self

theorem MostSignificant.le {os : List AttemptOutcome} {o : AttemptOutcome}
    (h : MostSignificant os o) : ∀ o' ∈ os, o'.rank ≤ o.rank := by
  obtain ⟨earlier, later, rfl, hearlier, hlater⟩ := h
  intro o' ho'
  rcases List.mem_append.1 ho' with ho' | ho'
  · exact (hearlier o' ho').le
  · rcases List.mem_cons.1 ho' with rfl | ho'
    · exact le_rfl
    · exact hlater o' ho'

/-- The kind does not depend on the order of the outcomes. -/
theorem MostSignificant.rank_perm {os os' : List AttemptOutcome} {o o' : AttemptOutcome}
    (h : MostSignificant os o) (h' : MostSignificant os' o') (hperm : os.Perm os') :
    o'.rank = o.rank :=
  le_antisymm (h.le o' (hperm.mem_iff.2 h'.mem)) (h'.le o (hperm.mem_iff.1 h.mem))

/-- Some outcome is reported, if there is any. -/
theorem exists_reported {os : List AttemptOutcome} (hne : os ≠ []) :
    ∃ m, MostSignificant os m ∧ reported os = m.failure := by
  cases hmax : os.argmax rank with
  | none => exact absurd (List.argmax_eq_none.1 hmax) hne
  | some m => exact ⟨m, mostSignificant_argmax hmax, by rw [reported, hmax]; rfl⟩

end AttemptOutcome

namespace IpfsProxy

/-! ## The search of a request -/

/-- What an exception in reading a body is, while nothing has been streamed to the client. -/
def streamOutcome? (req : IpfsRequest) (errorName : String) : Option AttemptOutcome :=
  if req.streamingStarted || req.res.headersSent then none
  else some (.thrown true (req.attemptAborted || errorName = "AbortError"))

/-- The outcome of the attempt of a request that an event ends. -/
def outcome? (req : IpfsRequest) : IpfsEvent → Option AttemptOutcome
  | .fetched _ _ answer =>
    match req.stage, answer with
    | .fetching, .error errorName =>
      some (.thrown false (req.attemptAborted || errorName = "AbortError"))
    | .fetching, .ok response =>
      if req.attemptAborted then some (.thrown false true)
      else if isOk response.status then none
      else some (.status response.status)
    | _, _ => none
  | .read _ _ result =>
    match req.stage, result with
    | .reading _, .error errorName => streamOutcome? req errorName
    | .reading _, .ok _ => if req.attemptAborted then streamOutcome? req "AbortError" else none
    | _, _ => none
  | .written _ _ result =>
    match req.stage, result with
    | .writing _, .error errorName =>
      streamOutcome? req (if req.attemptAborted then "AbortError" else errorName)
    | .writing _, .ok _ => if req.attemptAborted then streamOutcome? req "AbortError" else none
    | _, _ => none
  | _ => none

/-- The outcomes of the attempts of a request, in order. -/
def outcomes (parseDate : String → Option ℤ) (cfg : IpfsConfig) (r : ℕ) (es : List IpfsEvent) :
    List AttemptOutcome :=
  Runs.collect (IpfsProxy.step parseDate cfg)
    (fun st e => if e.about? = some r then (st.requests.get? r).bind (outcome? · e) else none)
    (.init cfg) es

/-- The answer reports the failure. -/
def Reports (failure : GatewayFailure) (res : ClientResponse) : Prop :=
  res.status = failure.status ∧ res.json = some (.object (("error", .string failure.error) ::
    (failure.upstreamStatus.map fun status : ℕ => ("status", Json.number status)).toList))

/-- The client is there, and there is time. -/
structure InTime (now : Clock) (req : IpfsRequest) : Prop where
  connected : req.clientDisconnected = false
  aborted : req.aborted = false
  time : now.performance < req.deadline

variable {parseDate : String → Option ℤ} {cfg : IpfsConfig} {st : IpfsProxy} {r : ℕ} {now : Clock}
  {req : IpfsRequest}

/-- What is answered is what was reported. -/
theorem reports_answerFailure (gateways : List GatewayState) (h : InTime now req)
    (failure : GatewayFailure) :
    Reports failure (answerFailure gateways now { req with failure }).res := by
  have hintime : (req.aborted || decide (req.deadline ≤ now.performance)) = false := by
    rw [h.aborted, decide_eq_false (not_le.2 h.time), Bool.or_self]
  unfold answerFailure
  dsimp only
  rw [h.connected, if_neg Bool.false_ne_true, hintime]
  exact ⟨rfl, rfl⟩

/-- A request that has made an attempt goes on with another gateway, or the failure is
reported. -/
structure GoesOnWith (length r : ℕ) (failure : GatewayFailure) (req : IpfsRequest) (c : Contact) :
    Prop where
  request : c.request = r
  failure : req.failure = failure
  index : req.index < length

theorem loops_reports (req : IpfsRequest) (gateways : List GatewayState)
    (failure : GatewayFailure) (index : ℕ) :
    Loops cfg r (fun req' => InTime now req → Reports failure req'.res)
      (GoesOnWith gateways.length r failure) gateways now { req with failure } index := by
  unfold Loops
  split
  next req' gateway remaining hturn =>
    have hcases := nextAttempt_cases now { req with failure } (gateways.zipIdx.drop index)
    rw [hturn] at hcases
    cases hcases with
    | attempt gateway index' hmem =>
      have hentry := List.mem_zipIdx_iff_getElem?.1 (List.mem_of_mem_drop hmem)
      exact ⟨rfl, rfl, (List.getElem?_eq_some_iff.1 hentry).1⟩
  next req' hturn =>
    intro htime
    rcases over_of_nextAttempt hturn with ⟨rfl, haborted | hlate⟩ | ⟨rfl, -⟩
    · exact absurd haborted (Bool.eq_false_iff.1 htime.aborted)
    · exact absurd htime.time (not_lt.2 hlate)
    · exact reports_answerFailure gateways htime failure

/-- What an event does that ends an attempt without a terminal status. -/
def Tries (st : IpfsProxy) (r : ℕ) (now : Clock) (req : IpfsRequest) (o : AttemptOutcome)
    (st' : IpfsProxy) : Prop :=
  Handled st r
    (fun req' => InTime now req → Reports (preferFailure req.failure o.failure) req'.res)
    (fun _ => False)
    (GoesOnWith st.gateways.length r (preferFailure req.failure o.failure)) st'

/-- An exception before anything was streamed is another try. -/
theorem attemptThrew_tries (hsent : (req.streamingStarted || req.res.headersSent) = false)
    (readingBody : Bool) (errorName : String) :
    Tries st r now req (.thrown readingBody (req.attemptAborted || errorName = "AbortError"))
      (st.attemptThrew cfg r now req readingBody errorName) := by
  refine .attemptThrew ⟨fun hgone htime => ?_, fun _ hsent' => ?_, fun _ _ => ?_⟩
  · rw [htime.connected] at hgone
    cases hgone
  · rw [hsent] at hsent'
    cases hsent'
  · rw [AttemptOutcome.failure_thrown]
    exact loops_reports req _ _ _

/-- So is a refusal that can be retried. -/
theorem upstreamError_tries (parseDate : String → Option ℤ) (gateway : GatewayState)
    {response : GatewayResponse} (hretry : IsRetryable response.status) :
    Tries st r now req (.status response.status)
      (st.upstreamError parseDate cfg r now req gateway response) := by
  refine .upstreamError (fun _ gateways hlength _ => ?_) fun hterminal => absurd hretry hterminal
  rw [← hlength]
  exact loops_reports req gateways _ _

/-- What an event does to a request : nothing to the search, another try, or its end. -/
inductive Searches (st : IpfsProxy) (r : ℕ) (req : IpfsRequest) (e : IpfsEvent)
    (st' : IpfsProxy) : Prop
  | quiet (hnone : outcome? req e = none)
      (h : Handled st r (fun _ => True)
        (fun req' => req'.failure = req.failure ∧ req'.index = req.index) (fun _ _ => False) st')
  | tries (now : Clock) (o : AttemptOutcome) (hnow : e.now? = some now)
      (hsome : outcome? req e = some o) (ho : ¬ o.IsTerminal) (h : Tries st r now req o st')
  | stops (now : Clock) (o : AttemptOutcome) (hnow : e.now? = some now)
      (hsome : outcome? req e = some o) (ho : o.IsTerminal)
      (h : Handled st r (fun req' => InTime now req → Reports o.failure req'.res) (fun _ => False)
        (fun _ _ => False) st')

theorem streamGatewayResponse_quiet (response : GatewayResponse) :
    Handled st r (fun _ => True)
      (fun req' => req'.failure = req.failure ∧ req'.index = req.index) (fun _ _ => False)
      (st.streamGatewayResponse cfg r req response) :=
  .streamGatewayResponse (fun _ _ _ => trivial) fun _ => ⟨rfl, rfl⟩

/-- An exception after something has been streamed ends the request. -/
theorem attemptThrew_quiet (hsent : (req.streamingStarted || req.res.headersSent) = true)
    (readingBody : Bool) (errorName : String) (failure : GatewayFailure) (index : ℕ) :
    Handled st r (fun _ => True)
      (fun req' => req'.failure = failure ∧ req'.index = index) (fun _ _ => False)
      (st.attemptThrew cfg r now req readingBody errorName) := by
  refine .attemptThrew ⟨fun _ => trivial, fun _ _ => trivial, fun _ hunsent => ?_⟩
  rw [hsent] at hunsent
  cases hunsent

/-- What comes of the answer of a gateway. -/
theorem fetched_searches (parseDate : String → Option ℤ) (hstage : req.stage = .fetching)
    (hunsent : (req.streamingStarted || req.res.headersSent) = false)
    (hindex : req.index < st.gateways.length) (answer : Except String GatewayResponse) :
    Searches st r req (.fetched r now answer) (st.fetched parseDate cfg r now req answer) := by
  unfold IpfsProxy.fetched
  cases answer with
  | error errorName =>
    exact .tries now _ rfl (by simp [outcome?, hstage]) (AttemptOutcome.not_isTerminal_thrown _ _)
      (attemptThrew_tries hunsent false errorName)
  | ok response =>
    dsimp only
    split
    next haborted =>
      have htries : Tries st r now req
          (.thrown false (req.attemptAborted || "AbortError" = "AbortError"))
          (st.attemptThrew cfg r now req false "AbortError") :=
        attemptThrew_tries hunsent false "AbortError"
      rw [haborted, Bool.true_or] at htries
      exact .tries now _ rfl (by simp [outcome?, hstage, haborted])
        (AttemptOutcome.not_isTerminal_thrown _ _) htries
    next haborted =>
      split
      next hok =>
        exact .quiet (by simp [outcome?, hstage, haborted, hok])
          (streamGatewayResponse_quiet response)
      next hok =>
        have houtcome : outcome? req (.fetched r now (.ok response)) =
            some (.status response.status) := by
          simp [outcome?, hstage, haborted, hok]
        rw [List.getElem?_eq_getElem hindex]
        dsimp only
        by_cases hretry : IsRetryable response.status
        · exact .tries now _ rfl houtcome (not_not_intro hretry)
            (upstreamError_tries parseDate _ hretry)
        · refine .stops now _ rfl houtcome hretry (.upstreamError (fun h => absurd h hretry)
            fun _ htime => ?_)
          exact reports_answerFailure _ htime _

/-- An exception in reading a body, before or after something has been streamed. -/
theorem attemptThrew_searches (errorName : String) {e : IpfsEvent} (hnow : e.now? = some now)
    (houtcome : outcome? req e = streamOutcome? req errorName) :
    Searches st r req e (st.attemptThrew cfg r now req true errorName) := by
  cases hsent : (req.streamingStarted || req.res.headersSent) with
  | false =>
    refine .tries now _ hnow ?_ (AttemptOutcome.not_isTerminal_thrown _ _)
      (attemptThrew_tries hsent true errorName)
    rw [houtcome, streamOutcome?, hsent]
    rfl
  | true =>
    refine .quiet ?_ (attemptThrew_quiet hsent true errorName _ _)
    rw [houtcome, streamOutcome?, hsent]
    rfl

/-- What comes of reading its body. -/
theorem read_searches {stream : StreamState} (hstage : req.stage = .reading stream)
    (result : Except String Chunk) :
    Searches st r req (.read r now result) (st.read cfg r now req stream result) := by
  unfold IpfsProxy.read
  cases result with
  | error errorName => exact attemptThrew_searches errorName rfl (by simp [outcome?, hstage])
  | ok chunk =>
    dsimp only
    split
    next haborted =>
      exact attemptThrew_searches "AbortError" rfl (by simp [outcome?, hstage, haborted])
    next haborted =>
      refine .quiet (by simp [outcome?, hstage, haborted]) ?_
      cases chunk with
      | done => exact .finish trivial
      | bytes value writeThrows =>
        dsimp only
        split
        · exact .finish trivial
        · split
          · exact .await ⟨rfl, rfl⟩
          · cases writeThrows with
            | true => exact attemptThrew_quiet (Bool.true_or _) true "Error" _ _
            | false => exact .await ⟨rfl, rfl⟩
      | nonBinary => exact .finish trivial

theorem written_searches {stream : StreamState} (hstage : req.stage = .writing stream)
    (result : Except String Unit) :
    Searches st r req (.written r now result) (st.written cfg r now req stream result) := by
  unfold IpfsProxy.written
  split
  next haborted =>
    refine attemptThrew_searches "AbortError" rfl ?_
    cases result with
    | error errorName => simp [outcome?, hstage, haborted]
    | ok => simp [outcome?, hstage, haborted]
  next haborted =>
    cases result with
    | error errorName =>
      exact attemptThrew_searches errorName rfl (by simp [outcome?, hstage, haborted])
    | ok => exact .quiet (by simp [outcome?, hstage, haborted]) (.await ⟨rfl, rfl⟩)

/-- An event of a request under way. -/
theorem searches (hreq : st.requests.get? r = some req)
    (hunsent : req.stage = .fetching → (req.streamingStarted || req.res.headersSent) = false)
    (hindex : req.index < st.gateways.length) (parseDate : String → Option ℤ) (cfg : IpfsConfig)
    {e : IpfsEvent} (he : e.about? = some r) :
    Searches st r req e (st.step parseDate cfg e) := by
  have hsame : Handled st r (fun _ => True)
      (fun req' => req'.failure = req.failure ∧ req'.index = req.index) (fun _ _ => False) st :=
    .same hreq ⟨rfl, rfl⟩
  unfold IpfsProxy.step
  cases e with
  | request => cases he
  | fetched r' now answer =>
    cases he
    dsimp only
    rw [hreq]
    dsimp only
    split
    next hstage => exact fetched_searches parseDate hstage (hunsent hstage) hindex answer
    next hstage =>
      refine .quiet ?_ hsame
      cases hst : req.stage with
      | fetching => exact absurd hst hstage
      | reading => simp [outcome?, hst]
      | writing => simp [outcome?, hst]
  | read r' now result =>
    cases he
    dsimp only
    rw [hreq]
    dsimp only
    split
    next stream hstage => exact read_searches hstage result
    next hstage =>
      refine .quiet ?_ hsame
      cases hst : req.stage with
      | reading stream => exact absurd hst (hstage stream)
      | fetching => simp [outcome?, hst]
      | writing => simp [outcome?, hst]
  | written r' now result =>
    cases he
    dsimp only
    rw [hreq]
    dsimp only
    split
    next stream hstage => exact written_searches hstage result
    next hstage =>
      refine .quiet ?_ hsame
      cases hst : req.stage with
      | writing stream => exact absurd hst (hstage stream)
      | fetching => simp [outcome?, hst]
      | reading => simp [outcome?, hst]
  | attemptTimeout r' =>
    cases he
    dsimp only
    rw [hreq]
    dsimp only
    split
    · exact .quiet rfl hsame
    · exact .quiet rfl (.await ⟨rfl, rfl⟩)
  | deadline r' =>
    cases he
    dsimp only
    rw [hreq]
    exact .quiet rfl (.await ⟨rfl, rfl⟩)
  | disconnect r' =>
    cases he
    dsimp only
    rw [hreq]
    exact .quiet rfl (.await ⟨rfl, rfl⟩)

/-! ## Runs -/

/-- The failure that a request under way has kept is that of its outcomes. -/
structure Search (cfg : IpfsConfig) (os : List AttemptOutcome) (req : IpfsRequest) : Prop where
  failure : req.failure = AttemptOutcome.reported os
  going : ∀ o ∈ os, ¬ o.IsTerminal
  index : req.index < cfg.gateways.length

/-- What holds of a request in every state of a run. -/
structure Searching (parseDate : String → Option ℤ) (cfg : IpfsConfig) (r : ℕ)
    (es : List IpfsEvent) : Prop where
  search : ∀ req, (after parseDate cfg es).requests.get? r = some req →
    Search cfg (outcomes parseDate cfg r es) req
  fresh : (after parseDate cfg es).next ≤ r → outcomes parseDate cfg r es = []

/-- The outcomes so far, and that of one more event. -/
theorem outcomes_snoc (es : List IpfsEvent) (e : IpfsEvent) :
    outcomes parseDate cfg r (es ++ [e]) = outcomes parseDate cfg r es ++
      (if e.about? = some r then
        ((after parseDate cfg es).requests.get? r).bind (outcome? · e) else none).toList :=
  Runs.collect_snoc _ _ _ _

/-- A request has sent nothing while it waits for a gateway. -/
theorem Sound.unsent {here : Prop} {b : GatewayBody} (h : Sound cfg here b req)
    (hstage : req.stage = .fetching) :
    (req.streamingStarted || req.res.headersSent) = false := by
  have hbytes : b.bytes = [] := by
    have hreceived := h.received
    rwa [hstage] at hreceived
  have hbody : req.res.body = [] := h.bytes.trans hbytes
  rw [Bool.or_eq_false_iff, ← Bool.not_eq_true, ← Bool.not_eq_true, h.started, h.sent, not_not]
  exact ⟨hbody, hbody⟩

/-- An event of a request under way, in a run. -/
theorem Search.searches {es : List IpfsEvent}
    (h : Search cfg (outcomes parseDate cfg r es) req)
    (hreq : (after parseDate cfg es).requests.get? r = some req) {e : IpfsEvent}
    (he : e.about? = some r) :
    Searches (after parseDate cfg es) r req e (after parseDate cfg (es ++ [e])) := by
  have hsound := ((delivered_run parseDate cfg r es).2.underWay req hreq).1
  rw [after_snoc]
  refine IpfsProxy.searches hreq hsound.unsent ?_ parseDate cfg he
  rw [length_gateways_after]
  exact h.index

/-- Every event keeps the search in step with its outcomes. -/
theorem Search.step {es : List IpfsEvent} (h : Search cfg (outcomes parseDate cfg r es) req)
    (hreq : (after parseDate cfg es).requests.get? r = some req) {e : IpfsEvent}
    (he : e.about? = some r) {req' : IpfsRequest}
    (hreq' : (after parseDate cfg (es ++ [e])).requests.get? r = some req') :
    Search cfg (outcomes parseDate cfg r (es ++ [e])) req' := by
  rw [outcomes_snoc, if_pos he, hreq, Option.bind_some]
  cases h.searches hreq he with
  | quiet hnone hstep =>
    rw [hnone, Option.toList_none, List.append_nil]
    obtain ⟨hfailure, hindex⟩ | ⟨c, hc⟩ := Handled.get?_of hstep hreq'
    · exact ⟨hfailure.trans h.failure, h.going, hindex ▸ h.index⟩
    · exact hc.elim
  | tries now o hnow hsome ho hstep =>
    rw [hsome, Option.toList_some]
    obtain hnone | ⟨c, hc⟩ := Handled.get?_of hstep hreq'
    · exact hnone.elim
    · refine ⟨?_, fun o' ho' => ?_, ?_⟩
      · rw [hc.failure, h.failure, AttemptOutcome.reported_snoc h.going ho]
      · rcases List.mem_append.1 ho' with ho' | ho'
        · exact h.going o' ho'
        · exact List.mem_singleton.1 ho' ▸ ho
      · rw [← length_gateways_after parseDate cfg es]
        exact hc.index
  | stops now o hnow hsome ho hstep =>
    obtain hnone | ⟨c, hc⟩ := Handled.get?_of hstep hreq'
    · exact hnone.elim
    · exact hc.elim

theorem Loops.weaken {F : IpfsRequest → Prop} {C : IpfsRequest → Contact → Prop}
    {gateways : List GatewayState} {index : ℕ} (h : Loops cfg r F C gateways now req index) :
    Loops cfg r (fun _ => True) C gateways now req index := by
  unfold Loops at h ⊢
  split
  next hturn =>
    rw [hturn] at h
    exact h
  next => trivial

/-- A request that comes in. -/
theorem search_request {es : List IpfsEvent} {opened : ℚ} {now : Clock} {cid : String}
    {splat : List String}
    (hnone : (after parseDate cfg es).requests.get? (after parseDate cfg es).next = none)
    (hreq : (after parseDate cfg (es ++ [.request opened now cid splat])).requests.get?
      (after parseDate cfg es).next = some req) : Search cfg [] req := by
  rw [after_snoc] at hreq
  obtain ⟨res, hrefused⟩ | ⟨slots, hstep⟩ := Handled.request (F := fun _ => True)
    (A := fun _ => False)
    (C := GoesOnWith (after parseDate cfg es).gateways.length (after parseDate cfg es).next
      coolingFailure) cfg (after parseDate cfg es) opened now cid (readWildcardParam splat)
    fun slot => (loops_reports (newRequest cfg opened cid _ slot) _ _ 0).weaken
  · rw [IpfsProxy.step, hrefused.requests, hnone] at hreq
    cases hreq
  · obtain hawaits | ⟨c, hc⟩ := Handled.get?_of hstep hreq
    · exact hawaits.elim
    · exact ⟨hc.failure, List.forall_mem_nil _, length_gateways_after parseDate cfg es ▸ hc.index⟩

/-- In every run, a request under way has the outcomes it reports. -/
theorem searching_run (parseDate : String → Option ℤ) (cfg : IpfsConfig) (r : ℕ)
    (es : List IpfsEvent) : Searching parseDate cfg r es := by
  induction es using List.reverseRecOn with
  | nil =>
    refine ⟨fun req hreq => ?_, fun _ => rfl⟩
    cases hreq
  | append_singleton es e ih =>
    have hdelivered := (delivered_run parseDate cfg r es).2
    rw [← after] at hdelivered
    by_cases habout : e.about? = some r
    · cases hreq : (after parseDate cfg es).requests.get? r with
      | none =>
        have hsame := step_of_none parseDate cfg habout hreq
        refine ⟨fun req' hreq' => ?_, fun hr => ?_⟩
        · rw [after_snoc, hsame, hreq] at hreq'
          cases hreq'
        · rw [after_snoc, hsame] at hr
          rw [outcomes_snoc, ih.fresh hr, if_pos habout, hreq]
          rfl
      | some req =>
        refine ⟨fun req' hreq' => (ih.search req hreq).step hreq habout hreq', fun hr => ?_⟩
        have hlt : (after parseDate cfg es).next ≤ r := by
          have hstep := (handled_step parseDate cfg habout hreq).next_eq
          rw [after_snoc, hstep] at hr
          exact hr
        rw [(hdelivered.fresh hlt).1] at hreq
        cases hreq
    · have hsame : outcomes parseDate cfg r (es ++ [e]) = outcomes parseDate cfg r es := by
        rw [outcomes_snoc, if_neg habout, Option.toList_none, List.append_nil]
      by_cases hnew : e.about? = none ∧ r = (after parseDate cfg es).next
      · obtain ⟨hnone, rfl⟩ := hnew
        have hempty := hsame.trans (ih.fresh le_rfl)
        refine ⟨fun req hreq => ?_, fun _ => hempty⟩
        cases e with
        | fetched | read | written | attemptTimeout | deadline | disconnect => cases hnone
        | request now cid splat =>
          rw [hempty]
          exact search_request (hdelivered.fresh le_rfl).1 hreq
      · have huntouched := untouched_step parseDate cfg
          (fun hnone hr => hnew ⟨hnone, hr⟩) habout
        rw [← after_snoc] at huntouched
        refine ⟨fun req hreq => ?_, fun hr => ?_⟩
        · rw [hsame]
          exact ih.search req (huntouched.get? ▸ hreq)
        · rw [hsame]
          exact ih.fresh (huntouched.next.trans hr)

/-- A request under way, there and in time, has an attempt that an event ends. -/
structure Ends (parseDate : String → Option ℤ) (cfg : IpfsConfig) (r : ℕ) (es : List IpfsEvent)
    (e : IpfsEvent) (o : AttemptOutcome) (req : IpfsRequest) (now : Clock) : Prop where
  about : e.about? = some r
  request : (after parseDate cfg es).requests.get? r = some req
  outcome : outcome? req e = some o
  time : e.now? = some now
  inTime : InTime now req

/-- The search goes on with another gateway. -/
def SearchGoesOn (parseDate : String → Option ℤ) (cfg : IpfsConfig) (r : ℕ) (es : List IpfsEvent)
    (e : IpfsEvent) : Prop :=
  (after parseDate cfg (es ++ [e])).answersOf r = [] ∧
    ∃ c, (after parseDate cfg (es ++ [e])).contactsOf r =
      (after parseDate cfg es).contactsOf r ++ [c]

/-- The search is over, and the failure is reported. -/
def SearchReports (parseDate : String → Option ℤ) (cfg : IpfsConfig) (r : ℕ) (es : List IpfsEvent)
    (e : IpfsEvent) (failure : GatewayFailure) : Prop :=
  (after parseDate cfg (es ++ [e])).contactsOf r = (after parseDate cfg es).contactsOf r ∧
    (after parseDate cfg (es ++ [e])).requests.get? r = none ∧
    ∃ res, (after parseDate cfg (es ++ [e])).answersOf r = [res] ∧ Reports failure res

variable {es : List IpfsEvent} {e : IpfsEvent} {o : AttemptOutcome}

/-- What is known of the outcomes when an attempt ends. -/
theorem Ends.outcomes (h : Ends parseDate cfg r es e o req now) :
    outcomes parseDate cfg r (es ++ [e]) = IpfsProxy.outcomes parseDate cfg r es ++ [o] ∧
      ∀ o' ∈ IpfsProxy.outcomes parseDate cfg r es, ¬ o'.IsTerminal := by
  refine ⟨?_, ((searching_run parseDate cfg r es).search req h.request).going⟩
  rw [outcomes_snoc, if_pos h.about, h.request, Option.bind_some, h.outcome, Option.toList_some]

/-- A request that ends without a gateway reports its outcomes. -/
theorem finished_reports {failure : GatewayFailure} {req' : IpfsRequest}
    (hanswers : (after parseDate cfg es).answersOf r = [])
    (hframe : Frame (after parseDate cfg es) r none (after parseDate cfg (es ++ [e])))
    (hanswered : (after parseDate cfg (es ++ [e])).answered =
      (after parseDate cfg es).answered ++ [(r, req'.res)])
    (hcontacted : (after parseDate cfg (es ++ [e])).contacted = (after parseDate cfg es).contacted)
    (h : Reports failure req'.res) : SearchReports parseDate cfg r es e failure := by
  refine ⟨by rw [contactsOf, hcontacted, contactsOf], (hframe.get? r).trans (if_pos rfl),
    req'.res, ?_, h⟩
  rw [answersOf, hanswered, List.filter_append, List.map_append, ← answersOf, hanswers]
  simp

/-- An attempt that ends goes on with the search or reports. -/
theorem Ends.result (h : Ends parseDate cfg r es e o req now) :
    (o.IsTerminal ∧ SearchReports parseDate cfg r es e o.failure) ∨
      (¬ o.IsTerminal ∧ (SearchGoesOn parseDate cfg r es e ∨ SearchReports parseDate cfg r es e
        (AttemptOutcome.reported (IpfsProxy.outcomes parseDate cfg r (es ++ [e]))))) := by
  have hsearch := (searching_run parseDate cfg r es).search req h.request
  have hanswers := ((delivered_run parseDate cfg r es).2.underWay req h.request).2
  rw [← after] at hanswers
  cases hsearch.searches h.request h.about with
  | quiet hnone =>
    rw [h.outcome] at hnone
    cases hnone
  | tries now' o' hnow hsome ho hstep =>
    cases hnow.symm.trans h.time
    cases hsome.symm.trans h.outcome
    refine .inr ⟨ho, ?_⟩
    rw [h.outcomes.1, AttemptOutcome.reported_snoc hsearch.going ho, ← hsearch.failure]
    cases hstep with
    | finished req' hreports hframe hanswered hcontacted =>
      exact .inr (finished_reports hanswers hframe hanswered hcontacted (hreports h.inTime))
    | awaits req' hnone => exact hnone.elim
    | contacts req' c hc hframe hanswered hcontacted =>
      refine .inl ⟨?_, c, ?_⟩
      · rw [answersOf, hanswered, ← answersOf, hanswers]
      · rw [contactsOf, hcontacted, List.filter_append, ← contactsOf, List.filter_singleton,
          decide_eq_true hc.request]
        rfl
  | stops now' o' hnow hsome ho hstep =>
    cases hnow.symm.trans h.time
    cases hsome.symm.trans h.outcome
    cases hstep with
    | finished req' hreports hframe hanswered hcontacted =>
      exact .inl ⟨ho, finished_reports hanswers hframe hanswered hcontacted (hreports h.inTime)⟩
    | awaits req' hnone => exact hnone.elim
    | contacts req' c hc => exact hc.elim

end IpfsProxy

/-- Only an outcome makes a request go on to another gateway. -/
theorem IpfsProxy.contactsOf_of_no_outcome {parseDate : String → Option ℤ} {cfg : IpfsConfig}
    {r : ℕ} {es : List IpfsEvent} {e : IpfsEvent} {req : IpfsRequest}
    (hreq : (after parseDate cfg es).requests.get? r = some req) (he : e.about? = some r)
    (hnone : outcome? req e = none) :
    (after parseDate cfg (es ++ [e])).contactsOf r = (after parseDate cfg es).contactsOf r := by
  cases ((searching_run parseDate cfg r es).search req hreq).searches hreq he with
  | quiet _ hstep =>
    cases hstep with
    | finished req' _ _ _ hcontacted => rw [contactsOf, hcontacted, contactsOf]
    | awaits req' _ _ _ hcontacted => rw [contactsOf, hcontacted, contactsOf]
    | contacts req' c hc => exact hc.elim
  | tries now o hnow hsome =>
    rw [hsome] at hnone
    cases hnone
  | stops now o hnow hsome =>
    rw [hsome] at hnone
    cases hnone

/-- An attempt that ends in time with a terminal status ends the search, and the status is
reported. Otherwise the search goes on or reports : the first of the most significant of its
outcomes, whose kind does not depend on their order, and nothing but its outcomes matters.
Without an outcome it does not go on. -/
theorem reported_failure (parseDate : String → Option ℤ) (cfg : IpfsConfig) :
    (∀ r es e o req now, IpfsProxy.Ends parseDate cfg r es e o req now →
      let os := IpfsProxy.outcomes parseDate cfg r (es ++ [e])
      os = IpfsProxy.outcomes parseDate cfg r es ++ [o] ∧
      (∀ o' ∈ IpfsProxy.outcomes parseDate cfg r es, ¬ o'.IsTerminal) ∧
      (o.IsTerminal → IpfsProxy.SearchReports parseDate cfg r es e o.failure) ∧
      (¬ o.IsTerminal → IpfsProxy.SearchGoesOn parseDate cfg r es e ∨
        IpfsProxy.SearchReports parseDate cfg r es e (AttemptOutcome.reported os))) ∧
    (∀ r es e req, (IpfsProxy.after parseDate cfg es).requests.get? r = some req →
      e.about? = some r → IpfsProxy.outcome? req e = none →
      (IpfsProxy.after parseDate cfg (es ++ [e])).contactsOf r =
        (IpfsProxy.after parseDate cfg es).contactsOf r) ∧
    (∀ os, os ≠ [] → ∃ m, AttemptOutcome.MostSignificant os m ∧
      AttemptOutcome.reported os = m.failure) ∧
    ∀ os os' m m', AttemptOutcome.MostSignificant os m → AttemptOutcome.MostSignificant os' m' →
      os.Perm os' → m'.rank = m.rank := by
  refine ⟨fun r es e o req now h => ?_,
    fun r es e req => IpfsProxy.contactsOf_of_no_outcome, fun os => AttemptOutcome.exists_reported,
    fun os os' m m' hm hm' => hm.rank_perm hm'⟩
  obtain ⟨hos, hgoing⟩ := h.outcomes
  refine ⟨hos, hgoing, fun ho => ?_, fun ho => ?_⟩
  · obtain ⟨-, hreports⟩ | ⟨hnot, -⟩ := h.result
    · exact hreports
    · exact absurd ho hnot
  · obtain ⟨hterminal, -⟩ | ⟨-, hresult⟩ := h.result
    · exact absurd hterminal ho
    · exact hresult

/-- A timeout, then another gateway is tried. -/
def timesOutFirst : List IpfsEvent :=
  [.request 0 ⟨0, 0⟩ "QmYwAPJzv5CZsnA625s3Xf2nemtYgPpHdWEz79ojWnPbdG" [],
    .fetched 0 ⟨1000, 1000⟩ (.error "AbortError")]

def twoGateways : IpfsConfig :=
  { oneGateway with gateways := ["https://a.test/ipfs/", "https://b.test/ipfs/"] }

theorem ends_timesOutFirst (status : ℕ) (o : AttemptOutcome)
    (h : ((IpfsProxy.after (fun _ => none) twoGateways timesOutFirst).requests.get? 0).map
      (fun req => (IpfsProxy.outcome? req (.fetched 0 ⟨2000, 2000⟩
        (.ok ⟨status, none, none, none, false⟩)), req.clientDisconnected, req.aborted,
        req.deadline)) = some (some o, false, false, 8000)) :
    ∃ req, IpfsProxy.Ends (fun _ => none) twoGateways 0 timesOutFirst
      (.fetched 0 ⟨2000, 2000⟩ (.ok ⟨status, none, none, none, false⟩)) o req ⟨2000, 2000⟩ := by
  obtain ⟨req, hreq, heq⟩ := Option.map_eq_some_iff.1 h
  simp only [Prod.mk.injEq] at heq
  obtain ⟨houtcome, hconnected, haborted, hdeadline⟩ := heq
  refine ⟨req, rfl, hreq, houtcome, rfl, hconnected, haborted, ?_⟩
  rw [hdeadline]
  norm_num

theorem reported_failure_timesOutFirst :
    IpfsProxy.SearchReports (fun _ => none) twoGateways 0 timesOutFirst
      (.fetched 0 ⟨2000, 2000⟩ (.ok ⟨404, none, none, none, false⟩))
      (AttemptOutcome.status 404).failure := by
  obtain ⟨req, h⟩ := ends_timesOutFirst 404 (.status 404) (by decide +kernel)
  refine ((reported_failure (fun _ => none) twoGateways).1 _ _ _ _ _ _ h).2.2.1 ?_
  unfold AttemptOutcome.IsTerminal IpfsProxy.IsRetryable
  decide

/-- The second gateway has an ok status and no body. -/
def noBody : List IpfsEvent :=
  timesOutFirst ++ [.fetched 0 ⟨2000, 2000⟩ (.ok ⟨204, none, none, none, false⟩)]

/-- The second gateway has an ok status and a body that is not binary. -/
def notBinary : List IpfsEvent :=
  timesOutFirst ++ [.fetched 0 ⟨2000, 2000⟩ (.ok ⟨200, none, none, none, true⟩),
    .read 0 ⟨2000, 2000⟩ (.ok .nonBinary)]

/-- The answers to the request, by status and whether they have this error. -/
def errorsOf (es : List IpfsEvent) (error : String) : List (ℕ × Bool) :=
  ((IpfsProxy.after (fun _ => none) twoGateways es).answersOf 0).map fun res =>
    (res.status, res.json.any (·.fieldIs "error" error))

/-- A gateway whose status is ok ends the search whatever comes of its body, with its own
answer and not with the timeout of the gateway before. -/
theorem reported_failure_ok_status :
    IpfsProxy.outcomes (fun _ => none) twoGateways 0 noBody = [.timeout] ∧
      errorsOf noBody "gateway error" = [(502, true)] ∧
      IpfsProxy.outcomes (fun _ => none) twoGateways 0 notBinary = [.timeout] ∧
      errorsOf notBinary "gateway stream error" = [(502, true)] := by
  decide +kernel

end QrlBackend
