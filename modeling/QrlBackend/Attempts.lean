import QrlBackend.Integrity

/-!
# Windows of the attempts

How `ipfsHandler` shares the time of a request among the gateways. `Course` follows a request
through a run and lists the attempts it has made : an attempt lasts at most as long as its
window, and the gateways that are not yet reached stay as they are, eligible or not.

`OnCourse` is the invariant of a course. Every window ends before the request does
(`OnCourse.fits`). If the budget that is left when the first attempt begins has a second for the
first gateway and the reserve for each other one, what remains after the window of an attempt is
just the reserves of the later gateways (`OnCourse.shared`), unless the reserve is under a second
and there are three gateways or more : then the least window, a second, eats into them.

The handler sets its deadline before it reads the clock for the first attempt, so a little of the
overall budget is gone by then.
-/

set_option autoImplicit false

namespace QrlBackend

/-! ## The windows -/

section

variable (cfg : IpfsConfig) {remaining : ℚ} {later : ℕ}

theorem attemptWindow_le : attemptWindow cfg remaining later ≤ remaining := min_le_left _ _

/-- A second, or all that remains. -/
theorem attemptWindow_eq_or : attemptWindow cfg remaining later = remaining ∨
    (minAttemptMs : ℚ) ≤ attemptWindow cfg remaining later := by
  rw [attemptWindow]
  rcases min_choice remaining (max (minAttemptMs : ℚ) (remaining - later * cfg.fallbackReserveMs))
    with hmin | hmin
  · exact .inl hmin
  · rw [hmin]
    exact .inr (le_max_left _ _)

/-- What is left after the reserves of the later gateways, if that is a second. -/
theorem attemptWindow_of_second_le (h : minAttemptMs + later * cfg.fallbackReserveMs ≤ remaining) :
    attemptWindow cfg remaining later = remaining - later * cfg.fallbackReserveMs := by
  have hreserved : (0 : ℚ) ≤ later * cfg.fallbackReserveMs := by positivity
  rw [attemptWindow, max_eq_right (by linarith), min_eq_right (by linarith)]

/-- The last gateway has all that is left. -/
theorem attemptWindow_zero : attemptWindow cfg remaining 0 = remaining := by
  rw [attemptWindow, Nat.cast_zero, zero_mul, sub_zero, min_eq_left (le_max_right _ _)]

end

/-! ## The gateways that stay eligible -/

/-- The eligible gateways from `index` on. -/
def eligibleFrom (eligible : ℕ → Bool) (length index : ℕ) : List ℕ :=
  (List.range' index (length - index)).filter eligible

/-- From `index` on, the gateways are as `eligible` says. -/
def StayEligible (eligible : ℕ → Bool) (gateways : List GatewayState) (now : Clock)
    (index : ℕ) : Prop :=
  ∀ i gateway, index ≤ i → gateways[i]? = some gateway →
    (gateway.cooldownUntil ≤ now.date ↔ eligible i = true)

theorem eligibleFrom_of_le {eligible : ℕ → Bool} {length index : ℕ} (h : length ≤ index) :
    eligibleFrom eligible length index = [] := by
  rw [eligibleFrom, Nat.sub_eq_zero_of_le h]
  rfl

theorem eligibleFrom_of_lt {eligible : ℕ → Bool} {length index : ℕ} (h : index < length) :
    eligibleFrom eligible length index =
      if eligible index then index :: eligibleFrom eligible length (index + 1)
      else eligibleFrom eligible length (index + 1) := by
  have hlength : length - index = (length - (index + 1)) + 1 := by omega
  rw [eligibleFrom, hlength, List.range'_succ, List.filter_cons]
  rfl

theorem StayEligible.mono {eligible : ℕ → Bool} {gateways : List GatewayState} {now : Clock}
    {index index' : ℕ} (h : StayEligible eligible gateways now index) (hle : index ≤ index') :
    StayEligible eligible gateways now index' :=
  fun i gateway hi => h i gateway (hle.trans hi)

theorem StayEligible.length_filter {eligible : ℕ → Bool} {gateways : List GatewayState}
    {now : Clock} {index : ℕ} (h : StayEligible eligible gateways now index) :
    ((gateways.drop index).filter (·.cooldownUntil ≤ now.date)).length =
      (eligibleFrom eligible gateways.length index).length := by
  by_cases hlt : index < gateways.length
  · have ih := (h.mono index.le_succ).length_filter
    have hgateway := h index gateways[index] le_rfl (List.getElem?_eq_getElem hlt)
    rw [List.drop_eq_getElem_cons hlt, List.filter_cons, eligibleFrom_of_lt hlt]
    by_cases he : eligible index = true
    · rw [if_pos (decide_eq_true (hgateway.2 he)), if_pos he, List.length_cons,
        List.length_cons, ih]
    · rw [if_neg (by simpa using mt hgateway.1 he), if_neg he, ih]
  · rw [List.drop_eq_nil_of_le (not_lt.1 hlt), eligibleFrom_of_le (not_lt.1 hlt)]
    rfl
termination_by gateways.length - index

/-- The later gateways of an attempt are those that are eligible. -/
theorem StayEligible.laterGateways_eq {eligible : ℕ → Bool} {gateways : List GatewayState}
    {now : Clock} {index : ℕ} (h : StayEligible eligible gateways now (index + 1)) :
    laterGateways gateways index now =
      (eligibleFrom eligible gateways.length (index + 1)).length :=
  h.length_filter

/-- The loop goes on with the first gateway that is eligible, in time and if there is one. -/
inductive NextEligible (eligible : ℕ → Bool) (length : ℕ) (now : Clock) (req : IpfsRequest)
    (index : ℕ) : LoopTurn → Prop
  | attempt (gateway : GatewayState) (index' : ℕ)
      (hfirst : eligibleFrom eligible length index =
        index' :: eligibleFrom eligible length (index' + 1))
      (hle : index ≤ index') (hremaining : 0 < req.deadline - now.performance) :
      NextEligible eligible length now req index (.attempt
        { req with
          index := index'
          attemptAborted := false
          streamingStarted := false
          stage := .fetching } gateway (req.deadline - now.performance))
  | ends (failure : GatewayFailure)
      (hover : req.clientDisconnected = true ∨ req.aborted = true ∨
        req.deadline ≤ now.performance ∨ eligibleFrom eligible length index = []) :
      NextEligible eligible length now req index (.over { req with failure })

theorem StayEligible.nextAttempt {eligible : ℕ → Bool} {gateways : List GatewayState}
    {now : Clock} {index : ℕ} (h : StayEligible eligible gateways now index) (req : IpfsRequest) :
    NextEligible eligible gateways.length now req index
      (QrlBackend.nextAttempt now req (gateways.zipIdx.drop index)) := by
  by_cases hlt : index < gateways.length
  · have hlt' : index < gateways.zipIdx.length := by rwa [List.length_zipIdx]
    have hgateway := h index gateways[index] le_rfl (List.getElem?_eq_getElem hlt)
    rw [List.drop_eq_getElem_cons hlt', List.getElem_zipIdx, QrlBackend.nextAttempt]
    split
    next hgone => exact .ends _ (.inl hgone)
    next hgone =>
      dsimp only
      split
      next hover =>
        rw [Bool.or_eq_true, decide_eq_true_eq, sub_nonpos] at hover
        exact .ends _ (.inr (hover.imp_right .inl))
      next hremaining =>
        rw [Bool.or_eq_true, decide_eq_true_eq, not_or, not_le] at hremaining
        rw [Nat.zero_add]
        split
        next hcool =>
          have he : eligible index ≠ true := fun he => absurd (hgateway.2 he) (not_le.2 hcool)
          have hskip : eligibleFrom eligible gateways.length index =
              eligibleFrom eligible gateways.length (index + 1) := by
            rw [eligibleFrom_of_lt hlt, if_neg he]
          have ih := (h.mono index.le_succ).nextAttempt req
          generalize QrlBackend.nextAttempt now req _ = turn at ih ⊢
          cases ih with
          | attempt gateway index' hfirst hle hpos =>
            exact .attempt gateway index' (hskip.trans hfirst) (Nat.le_of_succ_le hle) hpos
          | ends failure hover => exact .ends failure (hskip ▸ hover)
        next hcool =>
          have he : eligible index = true := hgateway.1 (not_lt.1 hcool)
          refine .attempt _ index ?_ le_rfl hremaining.2
          rw [eligibleFrom_of_lt hlt, if_pos he]
  · have hnil : gateways.zipIdx.drop index = [] :=
      List.drop_eq_nil_of_le (by rw [List.length_zipIdx]; exact not_lt.1 hlt)
    rw [hnil]
    exact .ends req.failure (.inr (.inr (.inr (eligibleFrom_of_le (not_lt.1 hlt)))))
termination_by gateways.length - index

/-! ## What an event does to a request -/

/-- When a promise settles. Timers and the client have no time of their own. -/
def IpfsEvent.now? : IpfsEvent → Option Clock
  | .request _ now _ _ => some now
  | .fetched _ now _ => some now
  | .read _ now _ => some now
  | .written _ now _ => some now
  | .attemptTimeout _ => none
  | .deadline _ => none
  | .disconnect _ => none

namespace IpfsProxy

/-- A contact, of the first eligible gateway from `index` on. -/
structure GoesOn (cfg : IpfsConfig) (eligible : ℕ → Bool) (length : ℕ) (r : ℕ) (now : Clock)
    (deadline : ℚ) (index : ℕ) (req : IpfsRequest) (c : Contact) : Prop where
  request : c.request = r
  due : req.deadline = deadline
  first : eligibleFrom eligible length index =
    req.index :: eligibleFrom eligible length (req.index + 1)
  remaining : 0 < deadline - now.performance
  window : c.window = attemptWindow cfg (deadline - now.performance)
    (eligibleFrom eligible length (req.index + 1)).length

/-- While there is time, a timeout is answered only if no gateway is left. -/
def GivesUp (eligible : ℕ → Bool) (length : ℕ) (now : Clock) (req : IpfsRequest) (index : ℕ)
    (req' : IpfsRequest) : Prop :=
  req'.res.status = 504 → (req.aborted = true → req.clientDisconnected = true) →
    now.performance < req.deadline → eligibleFrom eligible length index = []

variable {cfg : IpfsConfig} {st : IpfsProxy} {r : ℕ} {now : Clock} {req : IpfsRequest}
  {here : Prop} {b : GatewayBody} {eligible : ℕ → Bool} {length index : ℕ}

/-- A response that is not an error has another status. -/
theorem GivesUp.of_status {req' : IpfsRequest} (h : req'.res.status ≠ 504) :
    GivesUp eligible length now req index req' := fun hstatus => absurd hstatus h

theorem loops_eligible {gateways : List GatewayState}
    (h : StayEligible eligible gateways now index) (hstatus : req.res.status = 200)
    (failure : GatewayFailure) :
    Loops cfg r (GivesUp eligible gateways.length now req index)
      (GoesOn cfg eligible gateways.length r now req.deadline index) gateways now
      { req with failure } index := by
  unfold Loops
  have hnext := h.nextAttempt { req with failure }
  generalize nextAttempt now { req with failure } (gateways.zipIdx.drop index) = turn at hnext
  cases hnext with
  | attempt gateway index' hfirst hle hremaining =>
    refine ⟨rfl, rfl, hfirst, hremaining, ?_⟩
    exact congrArg (attemptWindow cfg _) (h.mono (hle.trans index'.le_succ)).laterGateways_eq
  | ends failure hover =>
    intro htimeout haborted htime
    have hgone : req.clientDisconnected ≠ true := fun hgone => by
      unfold answerFailure at htimeout
      rw [if_pos hgone, hstatus] at htimeout
      cases htimeout
    rcases hover with hgone' | haborted' | hlate | hnil
    · exact absurd hgone' hgone
    · exact absurd (haborted haborted') hgone
    · exact absurd htime (not_lt.2 hlate)
    · exact hnil

theorem throws_eligible (hsound : Sound cfg here b req) {gateways : List GatewayState}
    (h : StayEligible eligible gateways now (req.index + 1)) (failure : GatewayFailure) :
    Throws cfg r (GivesUp eligible gateways.length now req (req.index + 1))
      (GoesOn cfg eligible gateways.length r now req.deadline (req.index + 1)) gateways now req
      failure where
  gone _ := .of_status (by rw [hsound.status]; decide)
  sent _ hsent := by
    have hheaders : req.res.headersSent = true := by
      rcases Bool.or_eq_true_iff.1 hsent with hstarted | hheaders
      · exact hsound.sent.2 (hsound.started.1 hstarted)
      · exact hheaders
    refine .of_status ?_
    rw [sendStreamError, if_pos hheaders, ClientResponse.destroy, hsound.status]
    decide
  next _ _ := loops_eligible h hsound.status _

theorem fetched_eligible (hsound : Sound cfg here b req) (hreq : st.requests.get? r = some req)
    (h : StayEligible eligible st.gateways now (req.index + 1))
    (parseDate : String → Option ℤ) (answer : Except String GatewayResponse) :
    Handled st r (GivesUp eligible st.gateways.length now req (req.index + 1)) (fun _ => True)
      (GoesOn cfg eligible st.gateways.length r now req.deadline (req.index + 1))
      (st.fetched parseDate cfg r now req answer) := by
  refine .fetched hreq (fun _ => throws_eligible hsound h _) ?_ ?_ ?_ (fun _ => trivial)
    fun _ => trivial
  · intro response _ _ gateways hlength hsame
    have h' : StayEligible eligible gateways now (req.index + 1) := fun i gateway hi hgateway =>
      h i gateway hi (hsame i (by omega) ▸ hgateway)
    rw [← hlength]
    exact loops_eligible h' hsound.status _
  · intro response _ _ htimeout haborted htime
    have hne : (answerFailure st.gateways now
        { req with failure := statusFailure response.status }).res.status ≠ 504 := by
      unfold answerFailure
      split
      next =>
        rw [hsound.status]
        decide
      next hgone =>
        have hintime : (req.aborted || decide (req.deadline ≤ now.performance)) = false := by
          rw [Bool.eq_false_iff.2 (mt haborted hgone), decide_eq_false (not_le.2 htime),
            Bool.or_self]
        dsimp only
        rw [hintime, if_neg Bool.false_ne_true, ClientResponse.sendJson, statusFailure]
        dsimp only
        split <;> decide
    exact absurd htimeout hne
  · intro status body hstatus
    refine .of_status ?_
    rcases hstatus with rfl | rfl
    · exact (by decide : (413 : ℕ) ≠ 504)
    · exact (by decide : (502 : ℕ) ≠ 504)

theorem read_eligible (hsound : Sound cfg here b req)
    (h : StayEligible eligible st.gateways now (req.index + 1)) (stream : StreamState)
    (result : Except String Chunk) :
    Handled st r (GivesUp eligible st.gateways.length now req (req.index + 1)) (fun _ => True)
      (GoesOn cfg eligible st.gateways.length r now req.deadline (req.index + 1))
      (st.read cfg r now req stream result) := by
  have hset : (setProxyHeaders req stream).status = 200 :=
    (hsound.toSent.setProxyHeaders stream).status
  have hstream (res : ClientResponse) (hres : res.status = 200) (error : String) :
      (sendStreamError res 502 error).status ≠ 504 := by
    unfold sendStreamError
    split
    · rw [ClientResponse.destroy, hres]
      decide
    · exact (by decide : (502 : ℕ) ≠ 504)
  refine .read (fun _ => throws_eligible hsound h _) (fun _ _ => .of_status ?_)
    (fun _ _ _ _ => .of_status ?_) (fun _ _ => trivial) (fun _ _ => ⟨?_, ?_, ?_⟩)
    (fun _ _ _ _ _ => trivial) (.of_status ?_)
  · rw [ClientResponse.finish, hset]
    decide
  · dsimp only
    split
    · rw [ClientResponse.destroy, hsound.status]
      decide
    · exact (by decide : (413 : ℕ) ≠ 504)
  · exact fun _ => .of_status (by rw [hset]; decide)
  · exact fun _ _ => .of_status (hstream _ hset _)
  · exact fun _ hsent => by cases hsent
  · exact hstream _ hsound.status _

theorem written_eligible (hsound : Sound cfg here b req)
    (h : StayEligible eligible st.gateways now (req.index + 1)) (stream : StreamState)
    (result : Except String Unit) :
    Handled st r (GivesUp eligible st.gateways.length now req (req.index + 1)) (fun _ => True)
      (GoesOn cfg eligible st.gateways.length r now req.deadline (req.index + 1))
      (st.written cfg r now req stream result) :=
  .written (fun _ => throws_eligible hsound h _) trivial

/-- An event of a request with a time, while the later gateways stay as they are. -/
theorem step_eligible (hsound : Sound cfg here b req) (hreq : st.requests.get? r = some req)
    (parseDate : String → Option ℤ) {e : IpfsEvent} (he : e.about? = some r)
    (hnow : e.now? = some now) (h : StayEligible eligible st.gateways now (req.index + 1)) :
    Handled st r (GivesUp eligible st.gateways.length now req (req.index + 1)) (fun _ => True)
      (GoesOn cfg eligible st.gateways.length r now req.deadline (req.index + 1))
      (st.step parseDate cfg e) := by
  have hreacts := reacts parseDate cfg he hreq
  generalize st.step parseDate cfg e = st' at hreacts ⊢
  cases hreacts with
  | fetched now' answer hstage =>
    cases hnow
    exact fetched_eligible hsound hreq h parseDate answer
  | read now' result stream hstage =>
    cases hnow
    exact read_eligible hsound h stream result
  | written now' result stream hstage =>
    cases hnow
    exact written_eligible hsound h stream result
  | attemptTimeout => cases hnow
  | deadline => cases hnow
  | disconnect => cases hnow
  | ignored e hfetched hread => exact .same hreq trivial

end IpfsProxy

/-! ## The course of a request -/

/-- An attempt : its gateway, when it began, and the delay of its timer. -/
structure Attempt where
  index : ℕ
  start : ℚ
  window : ℚ

/-- The part of its window that each attempt has used, all of it for the last one. -/
def usedWindows : List Attempt → List ℚ
  | [] => []
  | [a] => [a.window]
  | a :: a' :: attempts => (a'.start - a.start) :: usedWindows (a' :: attempts)

theorem sum_usedWindows {attempts : List Attempt} {first last : Attempt}
    (h : (attempts ++ [last]).head? = some first) :
    (usedWindows (attempts ++ [last])).sum = last.start + last.window - first.start := by
  induction attempts generalizing first with
  | nil =>
    cases h
    rw [List.nil_append, usedWindows, List.sum_singleton]
    ring
  | cons a attempts ih =>
    cases h
    cases attempts with
    | nil =>
      rw [List.cons_append, List.nil_append, usedWindows, usedWindows, List.sum_cons,
        List.sum_singleton]
      ring
    | cons a' attempts =>
      rw [List.cons_append, List.cons_append, usedWindows, List.sum_cons, ← List.cons_append,
        ih rfl]
      ring

/-- The gateways to try. -/
def eligibleGateways (cfg : IpfsConfig) (eligible : ℕ → Bool) : List ℕ :=
  eligibleFrom eligible cfg.gateways.length 0

/-- A budget has a second for the first gateway and the reserve for each other one. -/
def Funded (cfg : IpfsConfig) (n : ℕ) (budget : ℚ) : Prop :=
  (minAttemptMs + (n - 1 : ℕ) * cfg.fallbackReserveMs : ℚ) ≤ budget

/-- A second, the least window, is within the reserve, or no fallback comes after another. -/
def ReserveKept (cfg : IpfsConfig) (n : ℕ) : Prop :=
  minAttemptMs ≤ cfg.fallbackReserveMs ∨ n ≤ 2

instance (cfg : IpfsConfig) (n : ℕ) (budget : ℚ) : Decidable (Funded cfg n budget) :=
  inferInstanceAs (Decidable (_ ≤ _))

instance (cfg : IpfsConfig) (n : ℕ) : Decidable (ReserveKept cfg n) :=
  inferInstanceAs (Decidable (_ ∨ _))

/-- A second for the first attempt, and the reserve for the others. -/
def Shared (cfg : IpfsConfig) (attempts : List Attempt) : Prop :=
  (∀ a, attempts.head? = some a → (minAttemptMs : ℚ) ≤ a.window) ∧
    ∀ a ∈ attempts.tail, (cfg.fallbackReserveMs : ℚ) ≤ a.window

theorem Shared.append {cfg : IpfsConfig} {attempts : List Attempt} {a : Attempt}
    (h : Shared cfg attempts) (hne : attempts ≠ [])
    (hwindow : (cfg.fallbackReserveMs : ℚ) ≤ a.window) : Shared cfg (attempts ++ [a]) := by
  obtain ⟨hhead, htail⟩ := h
  refine ⟨fun x hx => hhead x ?_, fun x hx => ?_⟩
  · rwa [List.head?_append_of_ne_nil _ hne] at hx
  · rw [List.tail_append_of_ne_nil hne, List.mem_append, List.mem_singleton] at hx
    rcases hx with hx | rfl
    · exact htail x hx
    · exact hwindow

namespace IpfsProxy

/-- The state after the events. -/
def after (parseDate : String → Option ℤ) (cfg : IpfsConfig) (es : List IpfsEvent) : IpfsProxy :=
  Runs.run (IpfsProxy.step parseDate cfg) (.init cfg) es

theorem after_snoc (parseDate : String → Option ℤ) (cfg : IpfsConfig) (es : List IpfsEvent)
    (e : IpfsEvent) :
    after parseDate cfg (es ++ [e]) = (after parseDate cfg es).step parseDate cfg e :=
  Runs.run_snoc _ _ _

theorem length_gateways_after (parseDate : String → Option ℤ) (cfg : IpfsConfig)
    (es : List IpfsEvent) : (after parseDate cfg es).gateways.length = cfg.gateways.length :=
  length_gateways_run parseDate cfg es

/-- The attempts of the request `r`, whose deadline was set at `t₀`, in a run. Whatever else
happens in between, an attempt is followed by another within its window, and the gateways that
are not yet reached stay eligible or not. -/
inductive Course (parseDate : String → Option ℤ) (cfg : IpfsConfig) (eligible : ℕ → Bool)
    (r : ℕ) (t₀ : ℚ) : List IpfsEvent → List Attempt → Prop
  | request {es : List IpfsEvent} {now : Clock} {cid : String} {splat : List String}
      {req : IpfsRequest} {c : Contact} (hr : (after parseDate cfg es).next = r)
      (hstart : t₀ ≤ now.performance)
      (heligible : StayEligible eligible (after parseDate cfg es).gateways now 0)
      (hreq : (after parseDate cfg (es ++ [.request t₀ now cid splat])).requests.get? r = some req)
      (hcontacts : (after parseDate cfg (es ++ [.request t₀ now cid splat])).contactsOf r =
        (after parseDate cfg es).contactsOf r ++ [c]) :
      Course parseDate cfg eligible r t₀ (es ++ [.request t₀ now cid splat])
        [⟨req.index, now.performance, c.window⟩]
  | stay {es : List IpfsEvent} {attempts : List Attempt} {e : IpfsEvent}
      (h : Course parseDate cfg eligible r t₀ es attempts)
      (hcontacts : (after parseDate cfg (es ++ [e])).contactsOf r =
        (after parseDate cfg es).contactsOf r) :
      Course parseDate cfg eligible r t₀ (es ++ [e]) attempts
  | next {es : List IpfsEvent} {attempts : List Attempt} {a : Attempt} {e : IpfsEvent}
      {now : Clock} {req : IpfsRequest} {c : Contact}
      (h : Course parseDate cfg eligible r t₀ es (attempts ++ [a])) (hnow : e.now? = some now)
      (heligible : StayEligible eligible (after parseDate cfg es).gateways now (a.index + 1))
      (hlasts : now.performance ≤ a.start + a.window)
      (hreq : (after parseDate cfg (es ++ [e])).requests.get? r = some req)
      (hcontacts : (after parseDate cfg (es ++ [e])).contactsOf r =
        (after parseDate cfg es).contactsOf r ++ [c]) :
      Course parseDate cfg eligible r t₀ (es ++ [e])
        (attempts ++ [a] ++ [⟨req.index, now.performance, c.window⟩])

variable {parseDate : String → Option ℤ} {cfg : IpfsConfig} {st : IpfsProxy} {r : ℕ}
  {now : Clock} {req : IpfsRequest} {eligible : ℕ → Bool} {t₀ : ℚ}

/-- Where a request is, in its attempt `a`. -/
structure OnCourse (cfg : IpfsConfig) (eligible : ℕ → Bool) (r : ℕ) (t₀ : ℚ) (st : IpfsProxy)
    (earlier : List Attempt) (a : Attempt) : Prop where
  lt_next : r < st.next
  first : ∀ x, (earlier ++ [a]).head? = some x → t₀ ≤ x.start
  indices : (earlier ++ [a]).map Attempt.index ++
    eligibleFrom eligible cfg.gateways.length (a.index + 1) = eligibleGateways cfg eligible
  fits : ∀ x ∈ earlier ++ [a], x.window ≤ t₀ + cfg.fetchTimeoutMs - x.start ∧
    (x.window = t₀ + cfg.fetchTimeoutMs - x.start ∨ (minAttemptMs : ℚ) ≤ x.window)
  request : ∀ req, st.requests.get? r = some req →
    req.deadline = t₀ + cfg.fetchTimeoutMs ∧ req.index = a.index
  shared : ∀ x, (earlier ++ [a]).head? = some x →
    Funded cfg (eligibleGateways cfg eligible).length (t₀ + cfg.fetchTimeoutMs - x.start) →
    ReserveKept cfg (eligibleGateways cfg eligible).length →
    Shared cfg (earlier ++ [a]) ∧ t₀ + cfg.fetchTimeoutMs - (a.start + a.window) =
      (eligibleFrom eligible cfg.gateways.length (a.index + 1)).length * cfg.fallbackReserveMs

theorem OnCourse.mono {earlier : List Attempt} {a : Attempt} {st' : IpfsProxy}
    (h : OnCourse cfg eligible r t₀ st earlier a) (hnext : st.next ≤ st'.next)
    (hrequest : ∀ req', st'.requests.get? r = some req' →
      ∃ req, st.requests.get? r = some req ∧ SameAttempt req req') :
    OnCourse cfg eligible r t₀ st' earlier a where
  lt_next := h.lt_next.trans_le hnext
  first := h.first
  indices := h.indices
  fits := h.fits
  request req' hreq' := by
    obtain ⟨req, hreq, hsame⟩ := hrequest req' hreq'
    rw [hsame.deadline, hsame.index]
    exact h.request req hreq
  shared := h.shared

/-- The first attempt of a request. -/
theorem onCourse_first {c : Contact} (hlt : r < st.next)
    (hreq : st.requests.get? r = some req) (hstart : t₀ ≤ now.performance)
    (h : GoesOn cfg eligible cfg.gateways.length r now (t₀ + cfg.fetchTimeoutMs) 0 req c) :
    OnCourse cfg eligible r t₀ st [] ⟨req.index, now.performance, c.window⟩ where
  lt_next := hlt
  first x hx := by
    cases hx
    exact hstart
  indices := h.first.symm
  fits x hx := by
    rw [List.mem_singleton.1 hx, h.window]
    exact ⟨attemptWindow_le cfg, attemptWindow_eq_or cfg⟩
  request req' hreq' := by
    cases hreq.symm.trans hreq'
    exact ⟨h.due, rfl⟩
  shared x hx hfunded _ := by
    cases hx
    rw [Funded, eligibleGateways, h.first, List.length_cons, Nat.add_sub_cancel] at hfunded
    have hwindow := h.window
    rw [attemptWindow_of_second_le cfg hfunded] at hwindow
    dsimp only at hfunded ⊢
    refine ⟨⟨fun y hy => ?_, fun y hy => by cases hy⟩, ?_⟩
    · cases hy
      dsimp only
      linarith
    · linarith

/-- What remains after the window is just the reserves of the later gateways, if those and the
reserve of this one are there. -/
theorem GoesOn.window_eq {deadline : ℚ} {length index : ℕ} {c : Contact}
    (h : GoesOn cfg eligible length r now deadline index req c)
    (hreserves : (eligibleFrom eligible length (req.index + 1)).length *
      (cfg.fallbackReserveMs : ℚ) + cfg.fallbackReserveMs ≤ deadline - now.performance)
    (hlast : minAttemptMs ≤ cfg.fallbackReserveMs ∨
      (eligibleFrom eligible length (req.index + 1)).length = 0) :
    c.window = deadline - now.performance -
      (eligibleFrom eligible length (req.index + 1)).length * cfg.fallbackReserveMs := by
  rw [h.window]
  rcases hlast with hsecond | hlast
  · have hsecond : (minAttemptMs : ℚ) ≤ cfg.fallbackReserveMs := Nat.cast_le.2 hsecond
    exact attemptWindow_of_second_le cfg (by linarith)
  · rw [hlast, attemptWindow_zero, Nat.cast_zero, zero_mul, sub_zero]

/-- A further attempt. -/
theorem OnCourse.next {earlier : List Attempt} {a : Attempt} {st' : IpfsProxy}
    {c : Contact} (h : OnCourse cfg eligible r t₀ st earlier a) (hlt : r < st'.next)
    (hreq : st'.requests.get? r = some req) (hlasts : now.performance ≤ a.start + a.window)
    (hnext : GoesOn cfg eligible cfg.gateways.length r now (t₀ + cfg.fetchTimeoutMs)
      (a.index + 1) req c) :
    OnCourse cfg eligible r t₀ st' (earlier ++ [a]) ⟨req.index, now.performance, c.window⟩ where
  lt_next := hlt
  first x hx := by
    rw [List.head?_append_of_ne_nil _ (List.append_ne_nil_of_right_ne_nil _ (List.cons_ne_nil a _))]
      at hx
    exact h.first x hx
  indices := by
    rw [List.map_append, List.append_assoc, ← h.indices, hnext.first]
    rfl
  fits x hx := by
    rcases List.mem_append.1 hx with hx | hx
    · exact h.fits x hx
    · rw [List.mem_singleton.1 hx, hnext.window]
      exact ⟨attemptWindow_le cfg, attemptWindow_eq_or cfg⟩
  request req' hreq' := by
    cases hreq.symm.trans hreq'
    exact ⟨hnext.due, rfl⟩
  shared x hx hfunded hkept := by
    rw [List.head?_append_of_ne_nil _ (List.append_ne_nil_of_right_ne_nil _ (List.cons_ne_nil a _))]
      at hx
    obtain ⟨hshared, hleft⟩ := h.shared x hx hfunded hkept
    rw [hnext.first, List.length_cons, Nat.cast_succ, add_mul, one_mul] at hleft
    -- The second gateway of two is the last one.
    have hlast : minAttemptMs ≤ cfg.fallbackReserveMs ∨
        (eligibleFrom eligible cfg.gateways.length (req.index + 1)).length = 0 := by
      refine hkept.imp_right fun hfew => ?_
      rw [← h.indices, hnext.first] at hfew
      simp only [List.length_append, List.length_map, List.length_cons, List.length_nil] at hfew
      omega
    have hwindow := hnext.window_eq (by linarith) hlast
    refine ⟨hshared.append (List.append_ne_nil_of_right_ne_nil _ (List.cons_ne_nil a _)) ?_, ?_⟩
    · dsimp only
      linarith
    · dsimp only
      linarith

/-- While no gateway is contacted for a request, its attempt goes on. -/
theorem OnCourse.stay {earlier : List Attempt} {a : Attempt} {e : IpfsEvent}
    (h : OnCourse cfg eligible r t₀ st earlier a)
    (hcontacts : (st.step parseDate cfg e).contactsOf r = st.contactsOf r) :
    OnCourse cfg eligible r t₀ (st.step parseDate cfg e) earlier a := by
  by_cases habout : e.about? = some r
  · cases hreq : st.requests.get? r with
    | none => rwa [step_of_none parseDate cfg habout hreq]
    | some req =>
      have hstep := handled_step parseDate cfg habout hreq
      refine h.mono hstep.next_eq.ge fun req' hreq' => ⟨req, hreq, ?_⟩
      exact hstep.of_no_contact (fun _ _ hc => hc) hreq' hcontacts
  · have hsame := untouched_step parseDate cfg (fun _ => h.lt_next.ne) habout
    exact h.mono hsame.next fun req hreq => ⟨req, hsame.get? ▸ hreq, rfl, rfl⟩

/-- A gateway is contacted for a request by an event of it, once it is there. -/
theorem underWay_of_contact {e : IpfsEvent} {c : Contact} (hlt : r < st.next)
    (hcontacts : (st.step parseDate cfg e).contactsOf r = st.contactsOf r ++ [c]) :
    e.about? = some r ∧ ∃ req, st.requests.get? r = some req := by
  have hne : (st.step parseDate cfg e).contactsOf r ≠ st.contactsOf r := by
    rw [hcontacts]
    exact fun h => List.cons_ne_nil _ _ (List.append_right_eq_self.1 h)
  have habout : e.about? = some r := by
    by_contra habout
    exact hne (untouched_step parseDate cfg (fun _ => hlt.ne) habout).contacts
  refine ⟨habout, Option.ne_none_iff_exists'.1 fun hreq => hne ?_⟩
  rw [step_of_none parseDate cfg habout hreq]

/-- A request that comes in : the loop begins with the first gateway. -/
theorem request_eligible (parseDate : String → Option ℤ) (opened : ℚ) (cid : String)
    (splat : List String) (h : StayEligible eligible st.gateways now 0) :
    (∃ res, RefusedAtOnce st res (st.step parseDate cfg (.request opened now cid splat))) ∨
      ∃ slots, Handled { st with slots, next := st.next + 1 } st.next
        (GivesUp eligible st.gateways.length now (newRequest cfg opened cid "" 0) 0)
        (fun _ => False)
        (GoesOn cfg eligible st.gateways.length st.next now (opened + cfg.fetchTimeoutMs) 0)
        (st.step parseDate cfg (.request opened now cid splat)) := by
  refine Handled.request cfg st opened now cid (readWildcardParam splat) fun slot => ?_
  have hstatus : (newRequest cfg opened cid (readWildcardParam splat) slot).res.status = 200 := rfl
  exact loops_eligible h hstatus coolingFailure

/-- Every course, up to the attempt under way. -/
theorem Course.onCourse {es : List IpfsEvent} {attempts : List Attempt}
    (h : Course parseDate cfg eligible r t₀ es attempts) : ∃ earlier a,
      attempts = earlier ++ [a] ∧
        OnCourse cfg eligible r t₀ (after parseDate cfg es) earlier a := by
  induction h with
  | @request es now cid splat req c hr hstart heligible hreq hcontacts =>
    subst hr
    refine ⟨[], _, rfl, ?_⟩
    have hlength := length_gateways_after parseDate cfg es
    rw [after_snoc] at hreq hcontacts ⊢
    obtain ⟨res, hrefused⟩ | ⟨slots, hstep⟩ := request_eligible parseDate t₀ cid splat heligible
    · rw [contactsOf, hrefused.contacted, ← contactsOf] at hcontacts
      exact absurd (List.self_eq_append_right.1 hcontacts) (List.cons_ne_nil _ _)
    · rw [hlength] at hstep
      refine onCourse_first (hstep.next_eq ▸ Nat.lt_succ_self _) hreq hstart ?_
      exact hstep.of_contact (fun _ _ hc => hc.request) hreq hcontacts
  | @stay es attempts e h hcontacts ih =>
    obtain ⟨earlier, a, rfl, ih⟩ := ih
    rw [after_snoc] at hcontacts ⊢
    exact ⟨earlier, a, rfl, ih.stay hcontacts⟩
  | @next es attempts a e now req c h hnow heligible hlasts hreq hcontacts ih =>
    obtain ⟨earlier, a', heq, ih⟩ := ih
    obtain ⟨rfl, rfl⟩ := List.append_singleton_inj.1 heq
    refine ⟨attempts ++ [a], _, rfl, ?_⟩
    rw [after_snoc] at hreq hcontacts ⊢
    obtain ⟨habout, req₀, hreq₀⟩ := underWay_of_contact ih.lt_next hcontacts
    obtain ⟨hdeadline, hindex⟩ := ih.request req₀ hreq₀
    have hsound := ((delivered_run parseDate cfg r es).2.underWay req₀ hreq₀).1
    rw [← hindex] at heligible
    have hstep := step_eligible hsound hreq₀ parseDate habout hnow heligible
    have hlength := length_gateways_after parseDate cfg es
    rw [hlength, hdeadline, hindex] at hstep
    refine ih.next (hstep.next_eq ▸ ih.lt_next) hreq hlasts ?_
    exact hstep.of_contact (fun _ _ hc => hc.request) hreq hcontacts

/-- The request `r` has a timeout for its answer after `e`, within the window of its attempt `a`.
The timer of a request is not early. -/
structure GaveUp (parseDate : String → Option ℤ) (cfg : IpfsConfig) (eligible : ℕ → Bool) (r : ℕ)
    (t₀ : ℚ) (es : List IpfsEvent) (a : Attempt) (e : IpfsEvent) (now : Clock)
    (req : IpfsRequest) : Prop where
  request : (after parseDate cfg es).requests.get? r = some req
  now? : e.now? = some now
  eligible : StayEligible eligible (after parseDate cfg es).gateways now (a.index + 1)
  lasts : now.performance ≤ a.start + a.window
  timer : req.aborted = true → req.clientDisconnected = false →
    t₀ + cfg.fetchTimeoutMs ≤ now.performance
  answer : ∃ res ∈ (after parseDate cfg (es ++ [e])).answersOf r, res.status = 504

/-- Every eligible gateway gets its share of the budget, and a timeout is the answer only after
all of them have been tried, if the budget that is left when the loop begins suffices. -/
structure SharesBudget (parseDate : String → Option ℤ) (cfg : IpfsConfig)
    (eligible : ℕ → Bool) : Prop where
  shared : ∀ r t₀ es attempts first, Course parseDate cfg eligible r t₀ es attempts →
    attempts.head? = some first →
    Funded cfg (eligibleGateways cfg eligible).length (t₀ + cfg.fetchTimeoutMs - first.start) →
    Shared cfg attempts
  admitted : ∀ es opened now cid splat,
    StayEligible eligible (after parseDate cfg es).gateways now 0 →
    Funded cfg (eligibleGateways cfg eligible).length
      (opened + cfg.fetchTimeoutMs - now.performance) →
    ∀ res ∈ (after parseDate cfg (es ++ [.request opened now cid splat])).answersOf
      (after parseDate cfg es).next, res.status ≠ 504
  allTried : ∀ r t₀ es attempts a first e now req,
    Course parseDate cfg eligible r t₀ es (attempts ++ [a]) →
    (attempts ++ [a]).head? = some first →
    Funded cfg (eligibleGateways cfg eligible).length (t₀ + cfg.fetchTimeoutMs - first.start) →
    GaveUp parseDate cfg eligible r t₀ es a e now req →
    (attempts ++ [a]).map Attempt.index = eligibleGateways cfg eligible

/-- A request that is answered at once is not answered with a timeout. -/
theorem status_of_request {es : List IpfsEvent} {opened : ℚ} {cid : String} {splat : List String}
    {res : ClientResponse} (hn : eligibleGateways cfg eligible ≠ [])
    (hbudget : 0 < opened + cfg.fetchTimeoutMs - now.performance)
    (heligible : StayEligible eligible (after parseDate cfg es).gateways now 0)
    (hanswer : res ∈ (after parseDate cfg (es ++ [.request opened now cid splat])).answersOf
      (after parseDate cfg es).next) : res.status ≠ 504 := by
  have hfresh := ((delivered_run parseDate cfg (after parseDate cfg es).next es).2.fresh le_rfl).2.1
  rw [← after] at hfresh
  rw [after_snoc] at hanswer
  obtain ⟨res', hrefused⟩ | ⟨slots, hstep⟩ := request_eligible parseDate opened cid splat heligible
  · rw [answersOf, hrefused.answered, List.filter_append, List.map_append, ← answersOf, hfresh]
      at hanswer
    have hres : res = res' := by simpa using hanswer
    obtain ⟨res₀, status, body, rfl, -, -, hstatus⟩ := hrefused.error
    rw [hres, ClientResponse.sendJson]
    rcases hstatus with rfl | rfl
    · exact (by decide : (400 : ℕ) ≠ 504)
    · exact (by decide : (503 : ℕ) ≠ 504)
  · obtain ⟨req', hgives, rfl⟩ := hstep.of_answer hfresh hanswer
    intro hstatus
    refine hn ?_
    rw [eligibleGateways, ← length_gateways_after parseDate cfg es]
    refine hgives hstatus (fun haborted => by cases haborted) ?_
    dsimp only [newRequest]
    linarith

theorem OnCourse.allTried {es : List IpfsEvent} {earlier : List Attempt} {a first : Attempt}
    {e : IpfsEvent} (h : OnCourse cfg eligible r t₀ (after parseDate cfg es) earlier a)
    (hfirst : (earlier ++ [a]).head? = some first)
    (hfunded : Funded cfg (eligibleGateways cfg eligible).length
      (t₀ + cfg.fetchTimeoutMs - first.start))
    (hkept : ReserveKept cfg (eligibleGateways cfg eligible).length)
    (hgave : GaveUp parseDate cfg eligible r t₀ es a e now req) :
    (earlier ++ [a]).map Attempt.index = eligibleGateways cfg eligible := by
  obtain ⟨hreq, hnow, heligible, hlasts, htimer, res, hanswer, hstatus⟩ := hgave
  obtain ⟨hdeadline, hindex⟩ := h.request req hreq
  obtain ⟨-, hleft⟩ := h.shared first hfirst hfunded hkept
  obtain ⟨hsound, hbefore⟩ := (delivered_run parseDate cfg r es).2.underWay req hreq
  rw [← after] at hbefore
  rw [after_snoc] at hanswer
  have habout : e.about? = some r := by
    by_contra habout
    rw [(untouched_step parseDate cfg (fun _ => h.lt_next.ne) habout).answers, hbefore] at hanswer
    cases hanswer
  rw [← hindex] at heligible
  have hstep := step_eligible hsound hreq parseDate habout hnow heligible
  obtain ⟨req', hgives, rfl⟩ := hstep.of_answer hbefore hanswer
  have hnone : eligibleFrom eligible cfg.gateways.length (a.index + 1) = [] := by
    by_contra hsome
    -- A reserve is left, so there is time.
    have hreserve : (1 : ℚ) * cfg.fallbackReserveMs ≤
        (eligibleFrom eligible cfg.gateways.length (a.index + 1)).length *
          cfg.fallbackReserveMs := by
      gcongr
      exact Nat.one_le_cast.2 (List.length_pos_iff.2 hsome)
    have hpos : (250 : ℚ) ≤ cfg.fallbackReserveMs := by exact_mod_cast cfg.le_fallbackReserveMs
    have htime : now.performance < t₀ + cfg.fetchTimeoutMs := by linarith
    refine hsome ?_
    rw [← hindex, ← length_gateways_after parseDate cfg es]
    refine hgives hstatus (fun haborted => ?_) (hdeadline ▸ htime)
    by_contra hgone
    exact absurd (htimer haborted (Bool.eq_false_iff.2 hgone)) (not_le.2 htime)
  rw [← h.indices, hnone, List.append_nil]

end IpfsProxy

theorem Funded.pos {cfg : IpfsConfig} {n : ℕ} {budget : ℚ} (h : Funded cfg n budget) :
    0 < budget := by
  have hreserves : (0 : ℚ) ≤ (n - 1 : ℕ) * cfg.fallbackReserveMs := by positivity
  have hsecond : (0 : ℚ) < minAttemptMs := by
    rw [minAttemptMs]
    norm_num
  rw [Funded] at h
  linarith

/-- The windows of a request fit in its budget, and what is used of them sums to at most the
budget. If a second is within the reserve or there are at most two gateways, and the budget that
is left when the loop begins has a second for the first gateway and the reserve for each other
one, every eligible gateway is tried with its share before the request gives up. -/
theorem attempt_windows (parseDate : String → Option ℤ) (cfg : IpfsConfig)
    (eligible : ℕ → Bool) :
    (∀ r t₀ es attempts, IpfsProxy.Course parseDate cfg eligible r t₀ es attempts →
      (∀ a ∈ attempts, a.window ≤ t₀ + cfg.fetchTimeoutMs - a.start ∧
        (a.window = t₀ + cfg.fetchTimeoutMs - a.start ∨ (minAttemptMs : ℚ) ≤ a.window)) ∧
      (usedWindows attempts).sum ≤ cfg.fetchTimeoutMs) ∧
    (let n := (eligibleGateways cfg eligible).length
     1 ≤ n → ReserveKept cfg n → IpfsProxy.SharesBudget parseDate cfg eligible) := by
  refine ⟨fun r t₀ es attempts h => ?_, fun hn hkept => ⟨?_, ?_, ?_⟩⟩
  · obtain ⟨earlier, a, rfl, hcourse⟩ := h.onCourse
    refine ⟨hcourse.fits, ?_⟩
    have hfirst := List.head?_eq_some_head
      (List.append_ne_nil_of_right_ne_nil earlier (List.cons_ne_nil a []))
    have hlast := (hcourse.fits a (List.mem_append_right _ (List.mem_singleton_self a))).1
    have hstart := hcourse.first _ hfirst
    rw [sum_usedWindows hfirst]
    linarith
  · intro r t₀ es attempts first h hfirst hfunded
    obtain ⟨earlier, a, rfl, hcourse⟩ := h.onCourse
    exact (hcourse.shared first hfirst hfunded hkept).1
  · intro es opened now cid splat heligible hfunded res hanswer
    exact IpfsProxy.status_of_request (List.length_pos_iff.1 hn) hfunded.pos heligible hanswer
  · intro r t₀ es attempts a first e now req h hfirst hfunded hgave
    obtain ⟨earlier, a', heq, hcourse⟩ := h.onCourse
    obtain ⟨rfl, rfl⟩ := List.append_singleton_inj.1 heq
    exact hcourse.allTried hfirst hfunded hkept hgave

/-! ## Attempts that time out -/

theorem stayEligible_of_le {gateways : List GatewayState} {now : Clock}
    (h : ∀ gateway ∈ gateways, gateway.cooldownUntil ≤ now.date) (index : ℕ) :
    StayEligible (fun _ => true) gateways now index :=
  fun _ gateway _ hgateway => iff_of_true (h gateway (List.mem_of_getElem? hgateway)) rfl

/-- Three gateways, with this budget and this reserve. -/
def threeGateways (fetchTimeoutMs fallbackReserveMs : ℕ) (h : 250 ≤ fallbackReserveMs) :
    IpfsConfig where
  gateways := ["https://a.test/ipfs/", "https://b.test/ipfs/", "https://c.test/ipfs/"]
  fetchTimeoutMs
  fallbackReserveMs
  maxCooldownMs := 900000
  serverErrorMinCids := 3
  serverErrorWindowMs := 60000
  maxSizeBytes := 10485760
  maxConcurrent := 8
  maxInflightBytes := 41943040
  le_fallbackReserveMs := h
  le_maxCooldownMs := by decide
  le_serverErrorMinCids := by decide

/-- A request at `0`, whose attempts time out at these times. -/
def timeouts (times : List ℕ) : List IpfsEvent :=
  [.request 0 ⟨0, 0⟩ "QmYwAPJzv5CZsnA625s3Xf2nemtYgPpHdWEz79ojWnPbdG" []] ++
    times.map fun t => .fetched 0 ⟨t, t⟩ (.error "AbortError")

/-- The contact of a gateway, with this window. -/
def contactOf (host : String) (window : ℚ) : Contact where
  request := 0
  url := "https://" ++ host ++ "/ipfs/QmYwAPJzv5CZsnA625s3Xf2nemtYgPpHdWEz79ojWnPbdG"
  window

namespace IpfsProxy

variable {cfg : IpfsConfig}

theorem timeouts_snoc (times : List ℕ) (t : ℕ) :
    timeouts (times ++ [t]) = timeouts times ++ [.fetched 0 ⟨t, t⟩ (.error "AbortError")] := by
  rw [timeouts, List.map_append, ← List.append_assoc]
  rfl

/-- The first attempt, if it is at the gateway `index`. -/
theorem course_timeouts (cfg : IpfsConfig) (index : ℕ) (c : Contact)
    (h : (∀ gateway ∈ (init cfg).gateways, gateway.cooldownUntil ≤ 0) ∧
      ((after (fun _ => none) cfg (timeouts [])).requests.get? 0).map IpfsRequest.index =
        some index ∧
      (after (fun _ => none) cfg (timeouts [])).contactsOf 0 = [c]) :
    Course (fun _ => none) cfg (fun _ => true) 0 0 (timeouts [])
      ([] ++ [⟨index, 0, c.window⟩]) := by
  obtain ⟨hcool, hindex, hcontacts⟩ := h
  obtain ⟨req, hreq, rfl⟩ := Option.map_eq_some_iff.1 hindex
  show Course _ _ _ _ _ ([] ++ [.request 0 ⟨0, 0⟩ _ []]) _
  exact .request rfl le_rfl (stayEligible_of_le hcool _) hreq hcontacts

/-- A further attempt. -/
theorem Course.timeout {times : List ℕ} {attempts : List Attempt} {a : Attempt}
    (h : Course (fun _ => none) cfg (fun _ => true) 0 0 (timeouts times) (attempts ++ [a]))
    (t index : ℕ) (c : Contact)
    (hnext : (t : ℚ) ≤ a.start + a.window ∧
      (∀ gateway ∈ (after (fun _ => none) cfg (timeouts times)).gateways,
        gateway.cooldownUntil ≤ t) ∧
      ((after (fun _ => none) cfg (timeouts (times ++ [t]))).requests.get? 0).map
        IpfsRequest.index = some index ∧
      (after (fun _ => none) cfg (timeouts (times ++ [t]))).contactsOf 0 =
        (after (fun _ => none) cfg (timeouts times)).contactsOf 0 ++ [c]) :
    Course (fun _ => none) cfg (fun _ => true) 0 0 (timeouts (times ++ [t]))
      (attempts ++ [a] ++ [⟨index, t, c.window⟩]) := by
  obtain ⟨hlasts, hcool, hindex, hcontacts⟩ := hnext
  obtain ⟨req, hreq, rfl⟩ := Option.map_eq_some_iff.1 hindex
  rw [timeouts_snoc] at hreq hcontacts ⊢
  exact h.next rfl (stayEligible_of_le hcool _) hlasts hreq hcontacts

/-- The answer is a timeout, within the window of the last attempt. -/
theorem gaveUp_timeout {times : List ℕ} {a : Attempt} {t : ℕ}
    (h : (t : ℚ) ≤ a.start + a.window ∧
      (∀ gateway ∈ (after (fun _ => none) cfg (timeouts times)).gateways,
        gateway.cooldownUntil ≤ t) ∧
      ((after (fun _ => none) cfg (timeouts times)).requests.get? 0).map IpfsRequest.aborted =
        some false ∧
      504 ∈ ((after (fun _ => none) cfg (timeouts (times ++ [t]))).answersOf 0).map
        ClientResponse.status) :
    ∃ req, GaveUp (fun _ => none) cfg (fun _ => true) 0 0 (timeouts times) a
      (.fetched 0 ⟨t, t⟩ (.error "AbortError")) ⟨t, t⟩ req := by
  obtain ⟨hlasts, hcool, haborted, hanswer⟩ := h
  obtain ⟨req, hreq, haborted⟩ := Option.map_eq_some_iff.1 haborted
  refine ⟨req, hreq, rfl, stayEligible_of_le hcool _, hlasts, fun h => ?_, ?_⟩
  · rw [haborted] at h
    cases h
  · rw [← timeouts_snoc]
    exact List.mem_map.1 hanswer

end IpfsProxy

/-- A budget of three seconds and a reserve of one : each gateway is tried for a second before
the request gives up. -/
theorem attempt_windows_seconds :
    let cfg := threeGateways 3000 1000 (by decide)
    let attempts : List Attempt := [⟨0, 0, 1000⟩, ⟨1, 1000, 1000⟩, ⟨2, 2000, 1000⟩]
    IpfsProxy.Course (fun _ => none) cfg (fun _ => true) 0 0 (timeouts [1000, 2000]) attempts ∧
      (∃ req, IpfsProxy.GaveUp (fun _ => none) cfg (fun _ => true) 0 0 (timeouts [1000, 2000])
        ⟨2, 2000, 1000⟩ (.fetched 0 ⟨3000, 3000⟩ (.error "AbortError")) ⟨3000, 3000⟩ req) ∧
      (usedWindows attempts).sum ≤ cfg.fetchTimeoutMs ∧ Shared cfg attempts ∧
      attempts.map Attempt.index = eligibleGateways cfg fun _ => true := by
  intro cfg attempts
  have h₁ := IpfsProxy.course_timeouts cfg 0 (contactOf "a.test" 1000) (by decide +kernel)
  have h₂ := h₁.timeout 1000 1 (contactOf "b.test" 1000) (by decide +kernel)
  have h₃ := h₂.timeout 2000 2 (contactOf "c.test" 1000) (by decide +kernel)
  have h : IpfsProxy.Course (fun _ => none) cfg (fun _ => true) 0 0 (timeouts [1000, 2000])
      attempts := h₃
  have hgave : ∃ req, IpfsProxy.GaveUp (fun _ => none) cfg (fun _ => true) 0 0
      (timeouts [1000, 2000]) ⟨2, 2000, 1000⟩ (.fetched 0 ⟨3000, 3000⟩ (.error "AbortError"))
      ⟨3000, 3000⟩ req :=
    IpfsProxy.gaveUp_timeout (t := 3000) (by decide +kernel)
  obtain ⟨hfit, hshare⟩ := attempt_windows (fun _ => none) cfg fun _ => true
  have hshares := hshare (by decide +kernel) (by decide +kernel)
  refine ⟨h, hgave, (hfit 0 0 _ _ h).2, hshares.shared _ _ _ _ _ h rfl (by decide +kernel), ?_⟩
  obtain ⟨req, hgave⟩ := hgave
  exact hshares.allTried _ _ _ _ _ _ _ _ _ h₃ rfl (by decide +kernel) hgave

/-- A budget of 1500 ms and a reserve of 250 ms : the second of the first gateway and the
500 ms of the second one are the whole budget, and the third one is not tried. -/
theorem attempt_windows_short_reserve :
    ¬∀ (parseDate : String → Option ℤ) (cfg : IpfsConfig) (eligible : ℕ → Bool),
      let n := (eligibleGateways cfg eligible).length
      1 ≤ n → IpfsProxy.SharesBudget parseDate cfg eligible := by
  intro h
  let cfg := threeGateways 1500 250 (by decide)
  have hshares := h (fun _ => none) cfg (fun _ => true) (by decide +kernel)
  have h₁ := IpfsProxy.course_timeouts cfg 0 (contactOf "a.test" 1000) (by decide +kernel)
  have h₂ := h₁.timeout 1000 1 (contactOf "b.test" 500) (by decide +kernel)
  have hgave : ∃ req, IpfsProxy.GaveUp (fun _ => none) cfg (fun _ => true) 0 0
      (timeouts [1000]) ⟨1, 1000, 500⟩ (.fetched 0 ⟨1500, 1500⟩ (.error "AbortError"))
      ⟨1500, 1500⟩ req :=
    IpfsProxy.gaveUp_timeout (t := 1500) (by decide +kernel)
  obtain ⟨req, hgave⟩ := hgave
  have htried : [0, 1] = eligibleGateways cfg fun _ => true :=
    hshares.allTried _ _ _ _ _ _ _ _ _ h₂ rfl (by decide +kernel) hgave
  exact absurd htried (by decide +kernel)

end QrlBackend
