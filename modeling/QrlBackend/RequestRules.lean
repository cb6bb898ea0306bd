import QrlBackend.IpfsProxy
import QrlBackend.Runs

/-!
# Rules for the IPFS handler

From an await to the next, the handler of a request returns, awaits again, or contacts a
gateway. `Handled F A C` says that it does so with a request that meets `F`, `A` or `C`. There
is one rule for each part of the handler, which asks for the condition of each of its
branches; `Loops` and `Throws` are the conditions of the loop over the gateways and of the
`catch` block.
-/

set_option autoImplicit false

namespace QrlBackend

/-- The request that an event is about, if it is not a new one. -/
def IpfsEvent.about? : IpfsEvent → Option ℕ
  | .request _ _ _ _ => none
  | .fetched r _ _ => some r
  | .read r _ _ => some r
  | .written r _ _ => some r
  | .attemptTimeout r => some r
  | .deadline r => some r
  | .disconnect r => some r

namespace IpfsProxy

/-! ## Events of a request -/

/-- What an event of a request under way does. -/
inductive Reacts (parseDate : String → Option ℤ) (cfg : IpfsConfig) (st : IpfsProxy) (r : ℕ)
    (req : IpfsRequest) : IpfsEvent → IpfsProxy → Prop
  | fetched (now : Clock) (answer : Except String GatewayResponse)
      (hstage : req.stage = .fetching) :
      Reacts parseDate cfg st r req (.fetched r now answer)
        (st.fetched parseDate cfg r now req answer)
  | read (now : Clock) (result : Except String Chunk) (stream : StreamState)
      (hstage : req.stage = .reading stream) :
      Reacts parseDate cfg st r req (.read r now result) (st.read cfg r now req stream result)
  | written (now : Clock) (result : Except String Unit) (stream : StreamState)
      (hstage : req.stage = .writing stream) :
      Reacts parseDate cfg st r req (.written r now result)
        (st.written cfg r now req stream result)
  | attemptTimeout (hstarted : req.streamingStarted = false) :
      Reacts parseDate cfg st r req (.attemptTimeout r)
        (st.await r { req with attemptAborted := true })
  | deadline : Reacts parseDate cfg st r req (.deadline r)
      (st.await r { req with aborted := true, attemptAborted := true })
  | disconnect : Reacts parseDate cfg st r req (.disconnect r)
      (st.await r { req with
        clientDisconnected := true
        aborted := true
        attemptAborted := true })
  /-- The handler awaits something else, or the timer has been cleared. -/
  | ignored (e : IpfsEvent)
      (hfetched : ∀ now answer, e = .fetched r now answer → req.stage ≠ .fetching)
      (hread : ∀ now result stream, e = .read r now result → req.stage ≠ .reading stream) :
      Reacts parseDate cfg st r req e st

section

variable {st : IpfsProxy} {r : ℕ} {req : IpfsRequest}

/-- An event about a request does what its stage says. -/
theorem reacts (parseDate : String → Option ℤ) (cfg : IpfsConfig) {e : IpfsEvent}
    (he : e.about? = some r) (hreq : st.requests.get? r = some req) :
    Reacts parseDate cfg st r req e (st.step parseDate cfg e) := by
  cases e with
  | request => cases he
  | fetched r' now answer =>
    cases he
    unfold IpfsProxy.step
    dsimp only
    rw [hreq]
    dsimp only
    split
    next hstage => exact .fetched now answer hstage
    next hstage => exact .ignored _ (fun _ _ _ => hstage) nofun
  | read r' now result =>
    cases he
    unfold IpfsProxy.step
    dsimp only
    rw [hreq]
    dsimp only
    split
    next stream hstage => exact .read now result stream hstage
    next hstage => exact .ignored _ nofun fun _ _ stream _ => hstage stream
  | written r' now result =>
    cases he
    unfold IpfsProxy.step
    dsimp only
    rw [hreq]
    dsimp only
    split
    next stream hstage => exact .written now result stream hstage
    next => exact .ignored _ nofun nofun
  | attemptTimeout r' =>
    cases he
    unfold IpfsProxy.step
    dsimp only
    rw [hreq]
    dsimp only
    split
    next => exact .ignored _ nofun nofun
    next hstarted => exact .attemptTimeout (Bool.eq_false_iff.2 hstarted)
  | deadline r' =>
    cases he
    unfold IpfsProxy.step
    dsimp only
    rw [hreq]
    exact .deadline
  | disconnect r' =>
    cases he
    unfold IpfsProxy.step
    dsimp only
    rw [hreq]
    exact .disconnect

/-- An event of a request that is not under way does nothing. -/
theorem step_of_none (parseDate : String → Option ℤ) (cfg : IpfsConfig) {e : IpfsEvent}
    (he : e.about? = some r) (hreq : st.requests.get? r = none) :
    st.step parseDate cfg e = st := by
  cases e <;> cases he <;> unfold IpfsProxy.step <;> dsimp only <;> rw [hreq]

end

/-! ## What the handler does -/

/-- Only the entry of one request has changed. -/
structure Frame (st : IpfsProxy) (r : ℕ) (entry : Option IpfsRequest) (st' : IpfsProxy) :
    Prop where
  get? : ∀ r', st'.requests.get? r' = if r' = r then entry else st.requests.get? r'
  next : st'.next = st.next
  gateways : st'.gateways.length = st.gateways.length

/-- What an event may do to the request that it is about. -/
inductive Handled (st : IpfsProxy) (r : ℕ) (F A : IpfsRequest → Prop)
    (C : IpfsRequest → Contact → Prop) (st' : IpfsProxy) : Prop
  | finished (req : IpfsRequest) (h : F req) (hframe : Frame st r none st')
      (hanswered : st'.answered = st.answered ++ [(r, req.res)])
      (hcontacted : st'.contacted = st.contacted)
  | awaits (req : IpfsRequest) (h : A req) (hframe : Frame st r (some req) st')
      (hanswered : st'.answered = st.answered) (hcontacted : st'.contacted = st.contacted)
  | contacts (req : IpfsRequest) (c : Contact) (h : C req c) (hframe : Frame st r (some req) st')
      (hanswered : st'.answered = st.answered) (hcontacted : st'.contacted = st.contacted ++ [c])

variable {cfg : IpfsConfig} {st : IpfsProxy} {r : ℕ} {now : Clock} {req : IpfsRequest}
  {F A : IpfsRequest → Prop} {C : IpfsRequest → Contact → Prop}

theorem Handled.next_eq {st' : IpfsProxy} (h : Handled st r F A C st') : st'.next = st.next := by
  cases h with
  | finished req _ hframe => exact hframe.next
  | awaits req _ hframe => exact hframe.next
  | contacts req c _ hframe => exact hframe.next

/-- The frame does not depend on the cooldowns. -/
theorem Handled.of_gateways {gateways : List GatewayState} {st' : IpfsProxy}
    (hlength : gateways.length = st.gateways.length)
    (h : Handled { st with gateways } r F A C st') : Handled st r F A C st' := by
  have hframe {entry : Option IpfsRequest} (h : Frame { st with gateways } r entry st') :
      Frame st r entry st' := ⟨h.get?, h.next, h.gateways.trans hlength⟩
  cases h with
  | finished req h hf hanswered hcontacted =>
    exact .finished req h (hframe hf) hanswered hcontacted
  | awaits req h hf hanswered hcontacted => exact .awaits req h (hframe hf) hanswered hcontacted
  | contacts req c h hf hanswered hcontacted =>
    exact .contacts req c h (hframe hf) hanswered hcontacted

theorem Handled.finish (h : F req) : Handled st r F A C (st.finish r req) :=
  .finished req h ⟨fun _ => JsMap.get?_delete _ _ _, rfl, rfl⟩ rfl rfl

theorem Handled.await (h : A req) : Handled st r F A C (st.await r req) :=
  .awaits req h ⟨fun _ => JsMap.get?_set _ _ _ _, rfl, rfl⟩ rfl rfl

/-- The handler does nothing. -/
theorem Handled.same (hreq : st.requests.get? r = some req) (h : A req) :
    Handled st r F A C st := by
  refine .awaits req h ⟨fun r' => ?_, rfl, rfl⟩ rfl rfl
  split
  next hr' => rw [hr', hreq]
  next => rfl

/-- How the loop goes on. -/
inductive NextAttempt (now : Clock) (req : IpfsRequest) (later : List (GatewayState × ℕ)) :
    LoopTurn → Prop
  | attempt (gateway : GatewayState) (index : ℕ) (hmem : (gateway, index) ∈ later)
      (hgone : req.clientDisconnected = false) (haborted : req.aborted = false)
      (hremaining : 0 < req.deadline - now.performance)
      (hcool : gateway.cooldownUntil ≤ now.date) :
      NextAttempt now req later (.attempt
        { req with index, attemptAborted := false, streamingStarted := false, stage := .fetching }
        gateway (req.deadline - now.performance))
  | ends (failure : GatewayFailure) : NextAttempt now req later (.over { req with failure })

/-- The loop comes to an attempt, or is over. -/
theorem nextAttempt_cases (now : Clock) (req : IpfsRequest) (later : List (GatewayState × ℕ)) :
    NextAttempt now req later (nextAttempt now req later) := by
  induction later with
  | nil => exact .ends req.failure
  | cons entry later ih =>
    unfold nextAttempt
    split
    next => exact .ends req.failure
    next hgone =>
      rw [Bool.not_eq_true] at hgone
      dsimp only
      split
      next => exact .ends timeoutFailure
      next hremaining =>
        rw [Bool.not_eq_true, Bool.or_eq_false_iff, decide_eq_false_iff_not, not_le]
          at hremaining
        split
        next hcool =>
          generalize nextAttempt now req later = turn at ih ⊢
          cases ih with
          | attempt gateway index hmem hgone haborted hremaining hcool =>
            exact .attempt gateway index (List.mem_cons_of_mem _ hmem) hgone haborted hremaining
              hcool
          | ends failure => exact .ends failure
        next hcool =>
          exact .attempt entry.1 entry.2 List.mem_cons_self hgone hremaining.1 hremaining.2
            (not_lt.1 hcool)

/-- The loop from the gateway `index` on. -/
def Loops (cfg : IpfsConfig) (r : ℕ) (F : IpfsRequest → Prop) (C : IpfsRequest → Contact → Prop)
    (gateways : List GatewayState) (now : Clock) (req : IpfsRequest) (index : ℕ) : Prop :=
  match nextAttempt now req (gateways.zipIdx.drop index) with
  | .attempt req gateway remaining =>
    C req {
      request := r
      url := fetchUrl gateway req
      window := attemptWindow cfg remaining (laterGateways gateways req.index now) }
  | .over req => F (answerFailure gateways now req)

/-- The loop finishes the request or contacts a gateway. -/
theorem Handled.advance {index : ℕ} (h : Loops cfg r F C st.gateways now req index) :
    Handled st r F A C (st.advance cfg r now req index) := by
  unfold Loops at h
  unfold IpfsProxy.advance
  split
  next req' gateway remaining hturn =>
    rw [hturn] at h
    exact .contacts req' _ h ⟨fun _ => JsMap.get?_set _ _ _ _, rfl, rfl⟩ rfl rfl
  next req' hturn =>
    rw [hturn] at h
    exact .finish h

/-- The loop needs a condition for each way in which it goes on. -/
theorem Loops.intro {gateways : List GatewayState} {index : ℕ}
    (hover : ∀ failure, F (answerFailure gateways now { req with failure }))
    (hattempt : ∀ (index' : ℕ) (c : Contact), req.clientDisconnected = false → c.request = r →
      C { req with
        index := index'
        attemptAborted := false
        streamingStarted := false
        stage := .fetching } c) :
    Loops cfg r F C gateways now req index := by
  unfold Loops
  have hcases := nextAttempt_cases now req (gateways.zipIdx.drop index)
  generalize nextAttempt now req (gateways.zipIdx.drop index) = turn at hcases
  cases hcases with
  | attempt gateway index' hmem hgone => exact hattempt index' _ hgone rfl
  | ends failure => exact hover failure

/-- The `catch` block. -/
structure Throws (cfg : IpfsConfig) (r : ℕ) (F : IpfsRequest → Prop)
    (C : IpfsRequest → Contact → Prop) (gateways : List GatewayState) (now : Clock)
    (req : IpfsRequest) (failure : GatewayFailure) : Prop where
  gone : req.clientDisconnected = true → F req
  sent : req.clientDisconnected = false →
    (req.streamingStarted || req.res.headersSent) = true →
    F { req with
      failure := preferFailure req.failure failure
      res := sendStreamError req.res failure.status failure.error }
  next : req.clientDisconnected = false →
    (req.streamingStarted || req.res.headersSent) = false →
    Loops cfg r F C gateways now { req with failure := preferFailure req.failure failure }
      (req.index + 1)

/-- An attempt that threw goes on to the loop, or finishes the request. -/
theorem Handled.attemptThrew {readingBody : Bool} {errorName : String}
    (h : Throws cfg r F C st.gateways now req
      (attemptFailure readingBody (req.attemptAborted || errorName = "AbortError"))) :
    Handled st r F A C (st.attemptThrew cfg r now req readingBody errorName) := by
  unfold IpfsProxy.attemptThrew
  dsimp only
  split
  next hgone => exact .finish (h.gone hgone)
  next hgone =>
    rw [Bool.not_eq_true] at hgone
    split
    next hsent => exact .finish (h.sent hgone hsent)
    next hsent => exact .advance (h.next hgone (Bool.eq_false_iff.2 hsent))

/-- The failure that a response of another status than a 2xx one is. -/
def statusFailure (status : ℕ) : GatewayFailure :=
  ⟨if status = 404 then 404 else 502, "gateway error", some status⟩

def IsRetryable (status : ℕ) : Prop := status = 429 ∨ 500 ≤ status ∧ status < 600

/-- A refusal of the gateway goes on to the loop, or finishes the request. -/
theorem Handled.upstreamError {parseDate : String → Option ℤ} {gateway : GatewayState}
    {response : GatewayResponse}
    (hretry : IsRetryable response.status → ∀ gateways : List GatewayState,
      gateways.length = st.gateways.length →
      (∀ j, j ≠ req.index → gateways[j]? = st.gateways[j]?) →
      Loops cfg r F C gateways now
        { req with failure := preferFailure req.failure (statusFailure response.status) }
        (req.index + 1))
    (hterminal : ¬IsRetryable response.status →
      F (answerFailure st.gateways now { req with failure := statusFailure response.status })) :
    Handled st r F A C (st.upstreamError parseDate cfg r now req gateway response) := by
  unfold IpfsProxy.upstreamError
  dsimp only
  split
  next h =>
    refine .of_gateways List.length_set (.advance ?_)
    exact hretry h _ List.length_set fun j hj => List.getElem?_set_ne (Ne.symm hj)
  next h => exact .finish (hterminal h)

/-- The headers of the stream are those of the response. -/
theorem Handled.streamResponse {response : GatewayResponse}
    (hrefused : ∀ status body, status = 413 ∨ status = 502 →
      F { req with res := req.res.sendJson status body })
    (hbody : A { req with stage := .reading ⟨proxyHeaders response.contentType, 0, false⟩ }) :
    Handled st r F A C (st.streamGatewayResponse cfg r req response) := by
  unfold IpfsProxy.streamGatewayResponse
  split
  · exact .finish (hrefused _ _ (.inl rfl))
  · split
    · exact .finish (hrefused _ _ (.inr rfl))
    · exact .await hbody

/-- A response is streamed, or refused for its size. -/
theorem Handled.streamGatewayResponse {response : GatewayResponse}
    (hrefused : ∀ status body, status = 413 ∨ status = 502 →
      F { req with res := req.res.sendJson status body })
    (hbody : ∀ headers, A { req with stage := .reading ⟨headers, 0, false⟩ }) :
    Handled st r F A C (st.streamGatewayResponse cfg r req response) :=
  .streamResponse hrefused (hbody _)

theorem Handled.fetchedResponse {parseDate : String → Option ℤ}
    {answer : Except String GatewayResponse} (hreq : st.requests.get? r = some req)
    (hthrow : ∀ timedOut, Throws cfg r F C st.gateways now req (attemptFailure false timedOut))
    (hretry : ∀ response, answer = .ok response → IsRetryable response.status →
      ∀ gateways : List GatewayState, gateways.length = st.gateways.length →
      (∀ j, j ≠ req.index → gateways[j]? = st.gateways[j]?) →
      Loops cfg r F C gateways now
        { req with failure := preferFailure req.failure (statusFailure response.status) }
        (req.index + 1))
    (hterminal : ∀ response, answer = .ok response → ¬IsRetryable response.status →
      F (answerFailure st.gateways now { req with failure := statusFailure response.status }))
    (hrefused : ∀ status body, status = 413 ∨ status = 502 →
      F { req with res := req.res.sendJson status body })
    (hbody : ∀ response, answer = .ok response → isOk response.status = true →
      A { req with stage := .reading ⟨proxyHeaders response.contentType, 0, false⟩ })
    (hsame : st.gateways[req.index]? = none → A req) :
    Handled st r F A C (st.fetched parseDate cfg r now req answer) := by
  unfold IpfsProxy.fetched
  cases answer with
  | error errorName => exact .attemptThrew (hthrow _)
  | ok response =>
    dsimp only
    split
    · exact .attemptThrew (hthrow _)
    · split
      next hok => exact .streamResponse hrefused (hbody response rfl hok)
      · split
        · exact .upstreamError (hretry response rfl) (hterminal response rfl)
        next hgateway => exact .same hreq (hsame hgateway)

/-- What a gateway answers. -/
theorem Handled.fetched {parseDate : String → Option ℤ} {answer : Except String GatewayResponse}
    (hreq : st.requests.get? r = some req)
    (hthrow : ∀ timedOut, Throws cfg r F C st.gateways now req (attemptFailure false timedOut))
    (hretry : ∀ response, answer = .ok response → IsRetryable response.status →
      ∀ gateways : List GatewayState, gateways.length = st.gateways.length →
      (∀ j, j ≠ req.index → gateways[j]? = st.gateways[j]?) →
      Loops cfg r F C gateways now
        { req with failure := preferFailure req.failure (statusFailure response.status) }
        (req.index + 1))
    (hterminal : ∀ response, answer = .ok response → ¬IsRetryable response.status →
      F (answerFailure st.gateways now { req with failure := statusFailure response.status }))
    (hrefused : ∀ status body, status = 413 ∨ status = 502 →
      F { req with res := req.res.sendJson status body })
    (hbody : ∀ headers, A { req with stage := .reading ⟨headers, 0, false⟩ })
    (hsame : st.gateways[req.index]? = none → A req) :
    Handled st r F A C (st.fetched parseDate cfg r now req answer) :=
  .fetchedResponse hreq hthrow hretry hterminal hrefused (fun _ _ _ => hbody _) hsame

/-- A chunk, or the end, of a body. -/
theorem Handled.read {stream : StreamState} {result : Except String Chunk}
    (hthrow : ∀ timedOut, Throws cfg r F C st.gateways now req (attemptFailure true timedOut))
    (hdone : req.attemptAborted = false → result = .ok .done →
      F { req with res := (setProxyHeaders req stream).finish })
    (hlarge : ∀ value writeThrows, result = .ok (.bytes value writeThrows) →
      cfg.maxSizeBytes < stream.received + value.length →
      F { req with
        res := if req.res.headersSent then req.res.destroy
          else req.res.sendJson 413 (tooLarge cfg (stream.received + value.length : ℕ)) })
    (hempty : ∀ writeThrows, result = .ok (.bytes [] writeThrows) →
      A { req with stage := .reading stream })
    (hwriteThrows : ∀ value, result = .ok (.bytes value true) →
      Throws cfg r F C st.gateways now
        { req with streamingStarted := true, res := setProxyHeaders req stream }
        (attemptFailure true false))
    (hwrite : ∀ value, result = .ok (.bytes value false) → value ≠ [] →
      stream.received + value.length ≤ cfg.maxSizeBytes → req.attemptAborted = false →
      A { req with
        streamingStarted := true
        res := (setProxyHeaders req stream).write value
        stage := .writing { stream with
          received := stream.received + value.length
          proxyHeadersSet := true } })
    (hnonBinary : F { req with res := sendStreamError req.res 502 "gateway stream error" }) :
    Handled st r F A C (st.read cfg r now req stream result) := by
  unfold IpfsProxy.read
  cases result with
  | error errorName => exact .attemptThrew (hthrow _)
  | ok chunk =>
    dsimp only
    split
    · exact .attemptThrew (hthrow _)
    next haborted =>
      rw [Bool.not_eq_true] at haborted
      cases chunk with
      | done => exact .finish (hdone haborted rfl)
      | bytes value writeThrows =>
        dsimp only
        split
        next hsize => exact .finish (hlarge value writeThrows rfl hsize)
        next hsize =>
          split
          next hvalue =>
            rw [List.isEmpty_iff] at hvalue
            subst hvalue
            exact .await (hempty writeThrows rfl)
          next hvalue =>
            cases writeThrows with
            | true =>
              have hname : attemptFailure true (req.attemptAborted || "Error" = "AbortError") =
                  attemptFailure true false := by
                rw [haborted]
                rfl
              refine .attemptThrew ?_
              dsimp only
              rw [hname]
              exact hwriteThrows value rfl
            | false =>
              refine .await (hwrite value rfl ?_ (Nat.le_of_not_lt hsize) haborted)
              exact mt List.isEmpty_iff.2 hvalue
      | nonBinary => exact .finish hnonBinary

/-- A chunk that went to the client, or not. -/
theorem Handled.written {stream : StreamState} {result : Except String Unit}
    (hthrow : ∀ timedOut, Throws cfg r F C st.gateways now req (attemptFailure true timedOut))
    (hwritten : A { req with stage := .reading stream }) :
    Handled st r F A C (st.written cfg r now req stream result) := by
  unfold IpfsProxy.written
  split
  · exact .attemptThrew (hthrow _)
  · split
    · exact .attemptThrew (hthrow _)
    · exact .await hwritten

/-! ## New requests -/

/-- A request that has got a slot. -/
def newRequest (cfg : IpfsConfig) (opened : ℚ) (cid rest : String) (slot : ℕ) : IpfsRequest where
  cid
  rest
  slot
  deadline := opened + cfg.fetchTimeoutMs
  failure := coolingFailure
  aborted := false
  clientDisconnected := false
  res := .new
  index := 0
  attemptAborted := false
  streamingStarted := false
  stage := .fetching

/-- A request that is answered at once, without a contact. -/
structure RefusedAtOnce (st : IpfsProxy) (res : ClientResponse) (st' : IpfsProxy) : Prop where
  requests : st'.requests = st.requests
  next : st'.next = st.next + 1
  gateways : st'.gateways = st.gateways
  contacted : st'.contacted = st.contacted
  answered : st'.answered = st.answered ++ [(st.next, res)]
  error : ∃ res₀ status body, res = ClientResponse.sendJson res₀ status body ∧ res₀.body = [] ∧
    res₀.destroyed = false ∧ (status = 400 ∨ status = 503)

/-- A request is refused at once, or starts with its loop. -/
theorem Handled.request (cfg : IpfsConfig) (st : IpfsProxy) (opened : ℚ) (now : Clock)
    (cid rest : String)
    (hloop : ∀ slot, Loops cfg st.next F C st.gateways now
      (newRequest cfg opened cid rest slot) 0) :
    (∃ res, RefusedAtOnce st res (st.request cfg opened now cid rest)) ∨
      ∃ slots, Handled { st with slots, next := st.next + 1 } st.next F A C
        (st.request cfg opened now cid rest) := by
  unfold IpfsProxy.request
  dsimp only
  split
  · exact .inl ⟨_, rfl, rfl, rfl, rfl, rfl, _, _, _, rfl, rfl, rfl, .inl rfl⟩
  · split
    · exact .inl ⟨_, rfl, rfl, rfl, rfl, rfl, _, _, _, rfl, rfl, rfl, .inl rfl⟩
    · split
      · exact .inl ⟨_, rfl, rfl, rfl, rfl, rfl, _, _, _, rfl, rfl, rfl, .inr rfl⟩
      next slot slots _ => exact .inr ⟨slots, .advance (hloop slot)⟩

/-! ## The gateways -/

/-- The loop itself changes no gateway. -/
theorem gateways_advance (index : ℕ) :
    (st.advance cfg r now req index).gateways = st.gateways := by
  unfold advance
  split <;> rfl

theorem gateways_request (opened : ℚ) (cid rest : String) :
    (st.request cfg opened now cid rest).gateways = st.gateways := by
  unfold request
  split
  · rfl
  · split
    · rfl
    · dsimp only
      split
      · rfl
      · rw [gateways_advance]

theorem gateways_attemptThrew (readingBody : Bool) (errorName : String) :
    (st.attemptThrew cfg r now req readingBody errorName).gateways = st.gateways := by
  unfold attemptThrew
  dsimp only
  split
  · rfl
  · split
    · rfl
    · exact gateways_advance _

theorem gateways_streamGatewayResponse (response : GatewayResponse) :
    (st.streamGatewayResponse cfg r req response).gateways = st.gateways := by
  unfold streamGatewayResponse
  split
  · rfl
  · split <;> rfl

/-- Nor does reading a body. -/
theorem gateways_read (stream : StreamState) (result : Except String Chunk) :
    (st.read cfg r now req stream result).gateways = st.gateways := by
  unfold read
  split
  · exact gateways_attemptThrew _ _
  · split
    · exact gateways_attemptThrew _ _
    · split
      · rfl
      · dsimp only
        split
        · rfl
        · split
          · rfl
          · split
            · exact gateways_attemptThrew _ _
            · rfl
      · rfl

theorem gateways_written (stream : StreamState) (result : Except String Unit) :
    (st.written cfg r now req stream result).gateways = st.gateways := by
  unfold written
  split
  · exact gateways_attemptThrew _ _
  · split
    · exact gateways_attemptThrew _ _
    · rfl

/-! ## Steps -/

theorem loops_any (gateways : List GatewayState) (now : Clock) (req : IpfsRequest) (index : ℕ) :
    Loops cfg r (fun _ => True) (fun _ c => c.request = r) gateways now req index := by
  unfold Loops
  split
  · rfl
  · trivial

theorem throws_any (gateways : List GatewayState) (now : Clock) (req : IpfsRequest)
    (failure : GatewayFailure) :
    Throws cfg r (fun _ => True) (fun _ c => c.request = r) gateways now req failure where
  gone _ := trivial
  sent _ _ := trivial
  next _ _ := loops_any _ _ _ _

/-- The attempt under way is the same. -/
structure SameAttempt (req req' : IpfsRequest) : Prop where
  deadline : req'.deadline = req.deadline
  index : req'.index = req.index

/-- An event of a request under way, whatever it does. -/
theorem handled_step (parseDate : String → Option ℤ) (cfg : IpfsConfig) {e : IpfsEvent}
    (he : e.about? = some r) (hreq : st.requests.get? r = some req) :
    Handled st r (fun _ => True) (SameAttempt req) (fun _ c => c.request = r)
      (st.step parseDate cfg e) := by
  have hreacts := reacts parseDate cfg he hreq
  generalize st.step parseDate cfg e = st' at hreacts ⊢
  cases hreacts with
  | fetched now answer hstage =>
    exact .fetched hreq (fun _ => throws_any _ _ _ _) (fun _ _ _ _ _ _ => loops_any _ _ _ _)
      (fun _ _ _ => trivial) (fun _ _ _ => trivial) (fun _ => ⟨rfl, rfl⟩) fun _ => ⟨rfl, rfl⟩
  | read now result stream hstage =>
    exact .read (fun _ => throws_any _ _ _ _) (fun _ _ => trivial) (fun _ _ _ _ => trivial)
      (fun _ _ => ⟨rfl, rfl⟩) (fun _ _ => throws_any _ _ _ _) (fun _ _ _ _ _ => ⟨rfl, rfl⟩)
      trivial
  | written now result stream hstage => exact .written (fun _ => throws_any _ _ _ _) ⟨rfl, rfl⟩
  | attemptTimeout hstarted => exact .await ⟨rfl, rfl⟩
  | deadline => exact .await ⟨rfl, rfl⟩
  | disconnect => exact .await ⟨rfl, rfl⟩
  | ignored e hfetched hread => exact .same hreq ⟨rfl, rfl⟩

/-- The contacts made for a request. -/
def contactsOf (st : IpfsProxy) (r : ℕ) : List Contact := st.contacted.filter (·.request = r)

/-- The answers that a request got. -/
def answersOf (st : IpfsProxy) (r : ℕ) : List ClientResponse :=
  (st.answered.filter (·.1 = r)).map Prod.snd

/-- What a handler that has contacted a gateway has contacted it for. -/
theorem Handled.of_contact {st' : IpfsProxy} {c : Contact} (h : Handled st r F A C st')
    (hC : ∀ req c, C req c → c.request = r) (hreq : st'.requests.get? r = some req)
    (hcontacts : st'.contactsOf r = st.contactsOf r ++ [c]) : C req c := by
  have hsame (h : st'.contacted = st.contacted) : False := by
    rw [contactsOf, h, ← contactsOf] at hcontacts
    exact List.cons_ne_nil _ _ (List.self_eq_append_right.1 hcontacts)
  cases h with
  | finished req' _ _ _ hcontacted => exact (hsame hcontacted).elim
  | awaits req' _ _ _ hcontacted => exact (hsame hcontacted).elim
  | contacts req' c' hc hframe _ hcontacted =>
    rw [hframe.get?, if_pos rfl] at hreq
    cases hreq
    rw [contactsOf, hcontacted, List.filter_append, ← contactsOf,
      List.filter_singleton, decide_eq_true (hC _ _ hc)] at hcontacts
    cases List.append_cancel_left hcontacts
    exact hc

/-- What a handler that has contacted no gateway is at. -/
theorem Handled.of_no_contact {st' : IpfsProxy} (h : Handled st r F A C st')
    (hC : ∀ req c, C req c → c.request = r) (hreq : st'.requests.get? r = some req)
    (hcontacts : st'.contactsOf r = st.contactsOf r) : A req := by
  cases h with
  | finished req' _ hframe =>
    rw [hframe.get?, if_pos rfl] at hreq
    cases hreq
  | awaits req' ha hframe =>
    rw [hframe.get?, if_pos rfl] at hreq
    cases hreq
    exact ha
  | contacts req' c' hc hframe _ hcontacted =>
    rw [contactsOf, hcontacted, List.filter_append, ← contactsOf, List.filter_singleton,
      decide_eq_true (hC _ _ hc)] at hcontacts
    exact absurd (List.append_right_eq_self.1 hcontacts) (List.cons_ne_nil _ _)

/-- What a handler that has answered has returned. -/
theorem Handled.of_answer {st' : IpfsProxy} {res : ClientResponse} (h : Handled st r F A C st')
    (hbefore : st.answersOf r = []) (hanswer : res ∈ st'.answersOf r) :
    ∃ req', F req' ∧ req'.res = res := by
  have hsame (h : st'.answered = st.answered) : False := by
    rw [answersOf, h, ← answersOf, hbefore] at hanswer
    cases hanswer
  cases h with
  | finished req' hf _ hanswered =>
    refine ⟨req', hf, ?_⟩
    rw [answersOf, hanswered, List.filter_append, List.map_append, ← answersOf, hbefore] at hanswer
    simpa [eq_comm] using hanswer
  | awaits req' _ _ hanswered => exact (hsame hanswered).elim
  | contacts req' _ _ _ hanswered => exact (hsame hanswered).elim

/-- Nothing of a request has changed. -/
structure Untouched (r : ℕ) (st st' : IpfsProxy) : Prop where
  get? : st'.requests.get? r = st.requests.get? r
  contacts : st'.contactsOf r = st.contactsOf r
  answers : st'.answersOf r = st.answersOf r
  next : st.next ≤ st'.next
  /-- It has not come in. -/
  posted : r < st'.next → r < st.next
  gateways : st'.gateways.length = st.gateways.length

/-- The other requests do not notice. -/
theorem Handled.untouched {st' : IpfsProxy} {r' : ℕ} (hr : r' ≠ r)
    (h : Handled st r F A (fun _ c => c.request = r) st') : Untouched r' st st' := by
  cases h with
  | finished req h hframe hanswered hcontacted =>
    refine ⟨?_, ?_, ?_, hframe.next.ge, fun hlt => hframe.next ▸ hlt, hframe.gateways⟩
    · rw [hframe.get?, if_neg hr]
    · rw [contactsOf, hcontacted, contactsOf]
    · rw [answersOf, hanswered, answersOf]
      simp [Ne.symm hr]
  | awaits req h hframe hanswered hcontacted =>
    refine ⟨?_, ?_, ?_, hframe.next.ge, fun hlt => hframe.next ▸ hlt, hframe.gateways⟩
    · rw [hframe.get?, if_neg hr]
    · rw [contactsOf, hcontacted, contactsOf]
    · rw [answersOf, hanswered, answersOf]
  | contacts req c h hframe hanswered hcontacted =>
    refine ⟨?_, ?_, ?_, hframe.next.ge, fun hlt => hframe.next ▸ hlt, hframe.gateways⟩
    · rw [hframe.get?, if_neg hr]
    · rw [contactsOf, hcontacted, contactsOf]
      simp [h, Ne.symm hr]
    · rw [answersOf, hanswered, answersOf]

/-- Other events leave a request alone. -/
theorem untouched_step (parseDate : String → Option ℤ) (cfg : IpfsConfig) {e : IpfsEvent}
    (hr : e.about? = none → r ≠ st.next) (he : e.about? ≠ some r) :
    Untouched r st (st.step parseDate cfg e) := by
  have hrefl : Untouched r st st := ⟨rfl, rfl, rfl, le_rfl, id, rfl⟩
  cases habout : e.about? with
  | none =>
    cases e <;> try cases habout
    next opened now cid splat =>
      have hne : r ≠ st.next := hr rfl
      have hposted (hlt : r < st.next + 1) : r < st.next :=
        lt_of_le_of_ne (Nat.lt_succ_iff.1 hlt) hne
      obtain ⟨res, h⟩ | ⟨slots, h⟩ := Handled.request (F := fun _ => True) (A := fun _ => True)
        (C := fun _ c => c.request = st.next) cfg st opened now cid (readWildcardParam splat)
        fun slot => loops_any _ _ _ _
      · refine ⟨congrArg (JsMap.get? · r) h.requests, congrArg (List.filter _) h.contacted, ?_,
          h.next.ge.trans' (Nat.le_succ _), fun hlt => hposted (h.next ▸ hlt),
          congrArg List.length h.gateways⟩
        rw [answersOf, IpfsProxy.step, h.answered, answersOf]
        simp [Ne.symm hne]
      · have hu := h.untouched hne
        exact ⟨hu.get?, hu.contacts, hu.answers, (Nat.le_succ _).trans hu.next,
          fun hlt => hposted (hu.posted hlt), hu.gateways⟩
  | some r' =>
    have hne : r ≠ r' := fun heq => he (heq ▸ habout)
    cases hreq : st.requests.get? r' with
    | none => rwa [step_of_none parseDate cfg habout hreq]
    | some req => exact (handled_step parseDate cfg habout hreq).untouched hne

/-- There are as many gateways in every state. -/
theorem length_gateways_run (parseDate : String → Option ℤ) (cfg : IpfsConfig)
    (es : List IpfsEvent) :
    (Runs.run (IpfsProxy.step parseDate cfg) (.init cfg) es).gateways.length =
      cfg.gateways.length := by
  refine Runs.run_invariant (I := fun st : IpfsProxy => st.gateways.length = cfg.gateways.length)
    (fun st e hst => ?_) es (List.length_map _)
  -- A request that the event is not about, and that it does not begin.
  have hr : st.next + e.about?.getD 0 + 1 ≠ st.next := by omega
  have he : e.about? ≠ some (st.next + e.about?.getD 0 + 1) := fun h => by
    have hlt := congrArg (Option.getD · 0) h
    dsimp only [Option.getD_some] at hlt
    omega
  exact (untouched_step parseDate cfg (fun _ => hr) he).gateways.trans hst

end IpfsProxy

end QrlBackend
