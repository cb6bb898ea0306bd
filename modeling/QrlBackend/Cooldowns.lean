import QrlBackend.Attempts

/-!
# Cooldowns of the gateways

A gateway that is asked to slow down, or that fails for several roots, is left alone for a
while. Requests share the cooldowns : each event puts at most one of them off, and by no
more than the limit (`step_cools`), so none is ever further away than that
(`cooldownUntil_le`).

A request that finds every gateway cooling is told so and when to come back. Such an answer
is given when the request arrives or not at all, because an attempt replaces the failure
that it starts with (`Tried`).
-/

set_option autoImplicit false

namespace QrlBackend

/-! ## One event -/

/-- How far a gateway may be put off. -/
theorem retryAfterMs_le (parseDate : String → Option ℤ) (cfg : IpfsConfig)
    (value : Option String) (now : ℤ) :
    retryAfterMs parseDate cfg value now ≤ cfg.maxCooldownMs := by
  have hdefault : (defaultCooldownMs : ℤ) ≤ cfg.maxCooldownMs := by
    have hmax := cfg.le_maxCooldownMs
    rw [defaultCooldownMs]
    omega
  unfold retryAfterMs
  split
  · exact hdefault
  · dsimp only
    split
    · exact min_le_right _ _
    · split
      · exact min_le_right _ _
      · exact hdefault

/-- The cooldown of a gateway is what it was, or has been put off by no more than the limit. -/
def PutOff (cfg : IpfsConfig) (now : ℤ) (gateway gateway' : GatewayState) : Prop :=
  gateway'.cooldownUntil = gateway.cooldownUntil ∨
    gateway.cooldownUntil ≤ gateway'.cooldownUntil ∧
      gateway'.cooldownUntil ≤ now + cfg.maxCooldownMs

/-- Each gateway has been left as it was, or put off at the time of an event. -/
def Cools (cfg : IpfsConfig) (now? : Option Clock) (gateways gateways' : List GatewayState) :
    Prop :=
  ∀ (i : ℕ) gateway', gateways'[i]? = some gateway' → ∃ gateway, gateways[i]? = some gateway ∧
    (gateway'.cooldownUntil = gateway.cooldownUntil ∨
      ∃ now ∈ now?, PutOff cfg now.date gateway gateway')

theorem Cools.of_eq {cfg : IpfsConfig} {now? : Option Clock}
    {gateways gateways' : List GatewayState} (h : gateways' = gateways) :
    Cools cfg now? gateways gateways' :=
  fun _ gateway' hgateway => ⟨gateway', h ▸ hgateway, .inl rfl⟩

/-- A cooldown within the cap is put off by no more than the cap. -/
theorem putOff_of_le {cfg : IpfsConfig} {now cooldownMs : ℤ} {gateway gateway' : GatewayState}
    (hsame : gateway'.cooldownUntil = gateway.cooldownUntil) (hle : cooldownMs ≤ cfg.maxCooldownMs)
    (cool : Bool) :
    PutOff cfg now gateway
      (if cool then
        { gateway' with cooldownUntil := max gateway'.cooldownUntil (now + cooldownMs) }
      else gateway') := by
  cases cool with
  | false => exact .inl hsame
  | true =>
    rw [if_pos rfl, PutOff, hsame]
    rcases max_choice gateway.cooldownUntil (now + cooldownMs) with hmax | hmax
    · exact .inl hmax
    · refine .inr ⟨le_max_left _ _, ?_⟩
      dsimp only
      rw [hmax]
      omega

theorem shouldCoolDownForServerError_cooldownUntil (cfg : IpfsConfig) (gateway : GatewayState)
    (cid : String) (status : ℕ) (now : ℤ) :
    (shouldCoolDownForServerError cfg gateway cid status now).2.cooldownUntil =
      gateway.cooldownUntil := by
  unfold shouldCoolDownForServerError
  split
  · rfl
  · dsimp only
    split <;> rfl

namespace IpfsProxy

variable {cfg : IpfsConfig} {st : IpfsProxy} {r : ℕ} {now : Clock} {req : IpfsRequest}

/-- A refusal cools at most the gateway that gave it. -/
theorem upstreamError_cools (parseDate : String → Option ℤ) {gateway : GatewayState}
    (hgateway : st.gateways[req.index]? = some gateway) (response : GatewayResponse) :
    Cools cfg (some now) st.gateways
      (st.upstreamError parseDate cfg r now req gateway response).gateways := by
  unfold IpfsProxy.upstreamError
  dsimp only
  split
  next =>
    rw [gateways_advance]
    intro i gateway' hget
    dsimp only at hget
    by_cases hi : req.index = i
    · subst hi
      have hlt := (List.getElem?_eq_some_iff.1 hgateway).1
      rw [List.getElem?_set_self hlt] at hget
      refine ⟨gateway, hgateway, .inr ⟨now, rfl, Option.some.inj hget ▸ putOff_of_le ?_ ?_ _⟩⟩
      · split
        · rfl
        · exact shouldCoolDownForServerError_cooldownUntil _ _ _ _ _
      · split
        · have hmax := cfg.le_maxCooldownMs
          rw [serverErrorCooldownMs]
          omega
        · exact retryAfterMs_le _ _ _ _
    · rw [List.getElem?_set_ne hi] at hget
      exact ⟨gateway', hget, .inl rfl⟩
  next => exact .of_eq rfl

/-- So does any answer. -/
theorem fetched_cools (parseDate : String → Option ℤ) (answer : Except String GatewayResponse) :
    Cools cfg (some now) st.gateways (st.fetched parseDate cfg r now req answer).gateways := by
  unfold IpfsProxy.fetched
  split
  · exact .of_eq (gateways_attemptThrew _ _)
  next response =>
    split
    · exact .of_eq (gateways_attemptThrew _ _)
    · split
      · exact .of_eq (gateways_streamGatewayResponse _)
      · split
        next gateway hgateway => exact upstreamError_cools parseDate hgateway response
        next => exact .of_eq rfl

/-- An event puts gateways off by no more than the limit, from its own time on. -/
theorem step_cools (parseDate : String → Option ℤ) (cfg : IpfsConfig) (st : IpfsProxy)
    (e : IpfsEvent) : Cools cfg e.now? st.gateways (st.step parseDate cfg e).gateways := by
  cases habout : e.about? with
  | none =>
    cases e with
    | request opened now cid splat => exact .of_eq (gateways_request _ _ _)
    | fetched | read | written | attemptTimeout | deadline | disconnect => cases habout
  | some r =>
    cases hreq : st.requests.get? r with
    | none => exact .of_eq (by rw [step_of_none parseDate cfg habout hreq])
    | some req =>
      have hreacts := reacts parseDate cfg habout hreq
      generalize st.step parseDate cfg e = st' at hreacts ⊢
      cases hreacts with
      | fetched now answer hstage => exact fetched_cools parseDate answer
      | read now result stream hstage => exact .of_eq (gateways_read stream result)
      | written now result stream hstage => exact .of_eq (gateways_written stream result)
      | attemptTimeout hstarted => exact .of_eq rfl
      | deadline => exact .of_eq rfl
      | disconnect => exact .of_eq rfl
      | ignored e hfetched hread => exact .of_eq rfl

/-! ## Runs -/

/-- The times of the events. -/
def dates (es : List IpfsEvent) : List ℤ := es.filterMap fun e => e.now?.map Clock.date

/-- `Date.now()` counts from 1970 and does not go back. -/
def ClockRuns (es : List IpfsEvent) : Prop := (0 :: dates es).Pairwise (· ≤ ·)

theorem dates_snoc (es : List IpfsEvent) (e : IpfsEvent) :
    dates (es ++ [e]) = dates es ++ (e.now?.map Clock.date).toList := by
  rw [dates, List.filterMap_append, ← dates]
  cases h : e.now? <;> simp [h]

variable {parseDate : String → Option ℤ}

/-- No cooldown is further away than the limit, whenever one looks. -/
theorem cooldownUntil_le (parseDate : String → Option ℤ) (cfg : IpfsConfig) {es : List IpfsEvent}
    {t : ℤ} (ht : 0 ≤ t) (hdates : ∀ d ∈ dates es, d ≤ t) :
    ∀ gateway ∈ (after parseDate cfg es).gateways,
      gateway.cooldownUntil ≤ t + cfg.maxCooldownMs := by
  induction es using List.reverseRecOn with
  | nil =>
    intro gateway hgateway
    obtain ⟨url, -, rfl⟩ := List.mem_map.1 hgateway
    exact Int.add_nonneg ht (Int.natCast_nonneg _)
  | append_singleton es e ih =>
    rw [dates_snoc] at hdates
    have ih := ih fun d hd => hdates d (List.mem_append_left _ hd)
    intro gateway' hgateway'
    rw [after_snoc] at hgateway'
    obtain ⟨i, hi⟩ := List.getElem?_of_mem hgateway'
    obtain ⟨gateway, hgateway, hsame | ⟨now, hnow, hsame | ⟨-, hle⟩⟩⟩ :=
      step_cools parseDate cfg _ e i _ hi
    · rw [hsame]
      exact ih gateway (List.mem_of_getElem? hgateway)
    · rw [hsame]
      exact ih gateway (List.mem_of_getElem? hgateway)
    · have hdate : now.date ∈ (e.now?.map Clock.date).toList := by
        rw [Option.mem_def.1 hnow]
        exact List.mem_singleton_self _
      exact hle.trans (by have := hdates _ (List.mem_append_right _ hdate); omega)

/-- No cooldown gets shorter. -/
theorem cooldownUntil_mono (es es' : List IpfsEvent) {i : ℕ} {gateway' : GatewayState}
    (h : (after parseDate cfg (es ++ es')).gateways[i]? = some gateway') :
    ∃ gateway, (after parseDate cfg es).gateways[i]? = some gateway ∧
      gateway.cooldownUntil ≤ gateway'.cooldownUntil := by
  induction es' using List.reverseRecOn generalizing gateway' with
  | nil => exact ⟨gateway', by rwa [List.append_nil] at h, le_rfl⟩
  | append_singleton es' e ih =>
    rw [← List.append_assoc, after_snoc] at h
    obtain ⟨middle, hmiddle, hstep⟩ := step_cools parseDate cfg _ e i _ h
    obtain ⟨gateway, hgateway, hle⟩ := ih hmiddle
    refine ⟨gateway, hgateway, hle.trans ?_⟩
    rcases hstep with hsame | ⟨now, -, hsame | ⟨hle', -⟩⟩
    · exact hsame.ge
    · exact hsame.ge
    · exact hle'

/-! ## When every gateway cools down -/

/-- The answer to a request that found every gateway cooling. -/
def IsCoolingAnswer (res : ClientResponse) : Prop :=
  res.status = 503 ∧ ∃ json, res.json = some json ∧
    json.fieldIs "error" "IPFS gateways cooling down" = true

/-- A failure that is not the one a request starts with. -/
def Tried (failure : GatewayFailure) : Prop :=
  failure.status ≠ 503 ∧ failure.error ≠ "IPFS gateways cooling down"

instance (failure : GatewayFailure) : Decidable (Tried failure) :=
  inferInstanceAs (Decidable (_ ∧ _))

theorem tried_timeoutFailure : Tried timeoutFailure := by decide

theorem tried_attemptFailure (readingBody timedOut : Bool) :
    Tried (attemptFailure readingBody timedOut) := by
  cases readingBody <;> cases timedOut <;> decide

theorem tried_statusFailure (status : ℕ) : Tried (statusFailure status) := by
  have herror : "gateway error" ≠ "IPFS gateways cooling down" := by decide
  refine ⟨?_, herror⟩
  rw [statusFailure]
  dsimp only
  split
  · exact (by decide : (404 : ℕ) ≠ 503)
  · exact (by decide : (502 : ℕ) ≠ 503)

/-- A failure of an attempt that was made has a priority. -/
theorem Tried.priority_pos {failure : GatewayFailure} (h : Tried failure) :
    0 < failurePriority failure := by
  unfold failurePriority
  split
  · decide
  · split
    · decide
    · split
      next hstatus => exact absurd hstatus h.1
      next => split <;> decide

/-- What an attempt comes to replaces the failure that a request starts with. -/
theorem Tried.preferFailure {current next : GatewayFailure}
    (hcurrent : current = coolingFailure ∨ Tried current) (hnext : Tried next) :
    Tried (preferFailure current next) := by
  unfold QrlBackend.preferFailure
  rcases hcurrent with rfl | hcurrent
  · have hzero : failurePriority coolingFailure = 0 := rfl
    rw [hzero, if_pos hnext.priority_pos]
    exact hnext
  · split
    · exact hnext
    · exact hcurrent

/-- A request under way has nothing to answer yet, and the failure of an attempt or the one it
started with. -/
structure Pending (req : IpfsRequest) : Prop where
  json : req.res.json = none
  failure : req.failure = coolingFailure ∨ Tried req.failure

/-- How the loop ends. -/
theorem over_of_nextAttempt {later : List (GatewayState × ℕ)} {req' : IpfsRequest}
    (h : nextAttempt now req later = .over req') :
    req' = { req with failure := timeoutFailure } ∧
        (req.aborted = true ∨ req.deadline ≤ now.performance) ∨
      req' = req ∧ (req.clientDisconnected = true ∨
        ∀ entry ∈ later, now.date < entry.1.cooldownUntil) := by
  induction later with
  | nil => exact .inr ⟨(LoopTurn.over.inj h).symm, .inr nofun⟩
  | cons entry later ih =>
    unfold nextAttempt at h
    split at h
    next hgone => exact .inr ⟨(LoopTurn.over.inj h).symm, .inl hgone⟩
    next =>
      dsimp only at h
      split at h
      next hlate =>
        rw [Bool.or_eq_true, decide_eq_true_eq, sub_nonpos] at hlate
        exact .inl ⟨(LoopTurn.over.inj h).symm, hlate⟩
      next =>
        split at h
        next hcool =>
          rcases ih h with htimeout | ⟨hsame, hgone | hall⟩
          · exact .inl htimeout
          · exact .inr ⟨hsame, .inl hgone⟩
          · exact .inr ⟨hsame, .inr (List.forall_mem_cons.2 ⟨hcool, hall⟩)⟩
        next => cases h

/-- An answer that is not that every gateway cools down. -/
def NotCooling (req : IpfsRequest) : Prop := ¬ IsCoolingAnswer req.res

/-- Without an answer there is no cooling answer. -/
theorem notCooling_of_json (h : req.res.json = none) : NotCooling req := by
  rintro ⟨-, json, hjson, -⟩
  rw [h] at hjson
  cases hjson

theorem notCooling_sendJson {res : ClientResponse} {status : ℕ} {body : List (String × Json)}
    (h : (Json.object body).fieldIs "error" "IPFS gateways cooling down" = false) :
    ¬ IsCoolingAnswer (res.sendJson status body) := by
  rintro ⟨-, json, hjson, htext⟩
  rw [← Option.some.inj hjson, h] at htext
  cases htext

theorem fieldIs_error {error : String} (rest : List (String × Json))
    (h : error ≠ "IPFS gateways cooling down") :
    (Json.object (("error", .string error) :: rest)).fieldIs "error"
      "IPFS gateways cooling down" = false := by
  simp [Json.fieldIs, Json.field?, h]

theorem notCooling_sendStreamError {res : ClientResponse} (hjson : res.json = none)
    (status : ℕ) {error : String} (h : error ≠ "IPFS gateways cooling down") :
    ¬ IsCoolingAnswer (sendStreamError res status error) := by
  unfold sendStreamError
  split
  · rintro ⟨-, json, hsome, -⟩
    rw [ClientResponse.destroy, hjson] at hsome
    cases hsome
  · exact notCooling_sendJson (fieldIs_error [] h)

/-- After an attempt, the answer is not that all gateways are cooling down. -/
theorem notCooling_answerFailure {gateways : List GatewayState} (hjson : req.res.json = none)
    (htried : Tried req.failure) : NotCooling (answerFailure gateways now req) := by
  unfold answerFailure
  split
  · exact notCooling_of_json hjson
  · dsimp only
    refine notCooling_sendJson (fieldIs_error _ ?_)
    split
    · exact tried_timeoutFailure.2
    · exact htried.2

/-- A request that has made an attempt is not told that every gateway cools down. -/
theorem loops_tried {gateways : List GatewayState} {index : ℕ} (hjson : req.res.json = none)
    (htried : Tried req.failure) :
    Loops cfg r NotCooling (fun req c => c.request = r ∧ Pending req) gateways now req index := by
  unfold Loops
  split
  next req' gateway remaining hturn =>
    have hcases := nextAttempt_cases now req (gateways.zipIdx.drop index)
    rw [hturn] at hcases
    cases hcases
    exact ⟨rfl, hjson, .inr htried⟩
  next req' hturn =>
    rcases over_of_nextAttempt hturn with ⟨rfl, -⟩ | ⟨rfl, -⟩
    · exact notCooling_answerFailure hjson tried_timeoutFailure
    · exact notCooling_answerFailure hjson htried

/-- An attempt that throws leaves a failure behind it. -/
theorem Pending.throws (h : Pending req) (gateways : List GatewayState) {failure : GatewayFailure}
    (htried : Tried failure) :
    Throws cfg r NotCooling (fun req c => c.request = r ∧ Pending req) gateways now req
      failure where
  gone _ := notCooling_of_json h.json
  sent _ _ := notCooling_sendStreamError h.json _ htried.2
  next _ _ := loops_tried h.json (.preferFailure h.failure htried)

theorem setProxyHeaders_json (h : Pending req) (stream : StreamState) :
    (setProxyHeaders req stream).json = none := by
  unfold setProxyHeaders
  split
  · exact h.json
  · exact h.json

/-- A request that was tried is not answered as if it had not been. -/
theorem Pending.step (h : Pending req) (hreq : st.requests.get? r = some req)
    (parseDate : String → Option ℤ) (cfg : IpfsConfig) {e : IpfsEvent} (he : e.about? = some r) :
    Handled st r NotCooling Pending (fun req c => c.request = r ∧ Pending req)
      (st.step parseDate cfg e) := by
  have hreacts := reacts parseDate cfg he hreq
  generalize st.step parseDate cfg e = st' at hreacts ⊢
  cases hreacts with
  | fetched now answer hstage =>
    refine .fetched hreq (fun _ => h.throws _ (tried_attemptFailure _ _)) ?_ ?_ ?_ ?_ fun _ => h
    · intro response _ _ gateways _ _
      exact loops_tried h.json (.preferFailure h.failure (tried_statusFailure _))
    · intro response _ _
      exact notCooling_answerFailure h.json (tried_statusFailure _)
    · rintro status body hstatus ⟨hcooling, -⟩
      have hsent : status = 503 := hcooling
      omega
    · exact fun headers => ⟨h.json, h.failure⟩
  | read now result stream hstage =>
    have hset := setProxyHeaders_json h stream
    refine .read (fun _ => h.throws _ (tried_attemptFailure _ _)) (fun _ _ => ?_)
      (fun _ _ _ _ => ?_) (fun _ _ => ⟨h.json, h.failure⟩) (fun _ _ => ?_)
      (fun _ _ _ _ _ => ⟨hset, h.failure⟩) ?_
    · exact notCooling_of_json hset
    · show ¬ IsCoolingAnswer _
      split
      · rintro ⟨-, json, hjson, -⟩
        rw [ClientResponse.destroy, h.json] at hjson
        cases hjson
      · rintro ⟨hstatus, -⟩
        cases hstatus
    · have hpending : Pending
          { req with streamingStarted := true, res := setProxyHeaders req stream } :=
        ⟨hset, h.failure⟩
      exact hpending.throws _ (tried_attemptFailure _ _)
    · exact notCooling_sendStreamError h.json _ (by decide)
  | written now result stream hstage =>
    exact .written (fun _ => h.throws _ (tried_attemptFailure _ _)) ⟨h.json, h.failure⟩
  | attemptTimeout hstarted => exact .await ⟨h.json, h.failure⟩
  | deadline => exact .await ⟨h.json, h.failure⟩
  | disconnect => exact .await ⟨h.json, h.failure⟩
  | ignored e hfetched hread => exact .same hreq h

/-! ## Requests that find every gateway cooling -/

/-- The answer is that every gateway cools down only if that is so, with the time to wait. -/
def TellsTruth (gateways : List GatewayState) (now : Clock) (res : ClientResponse) : Prop :=
  IsCoolingAnswer res → (∀ gateway ∈ gateways, now.date < gateway.cooldownUntil) ∧
    res.headers = [("Retry-After", retryAfterSeconds gateways now)]

/-- Only a failure with this status has a time to wait. -/
theorem headers_answerFailure {gateways : List GatewayState}
    (hgone : req.clientDisconnected = false)
    (hstatus : (answerFailure gateways now req).res.status = 503) :
    (answerFailure gateways now req).res.headers =
      req.res.headers ++ [("Retry-After", retryAfterSeconds gateways now)] := by
  unfold answerFailure at hstatus ⊢
  rw [hgone, if_neg Bool.false_ne_true] at hstatus ⊢
  dsimp only at hstatus ⊢
  generalize (if (req.aborted || decide (req.deadline ≤ now.performance)) = true then
    timeoutFailure else req.failure) = failure at hstatus ⊢
  have hfailure : failure.status = 503 := hstatus
  rw [if_pos hfailure]
  rfl

/-- A new request that finds all gateways cooling down is told so. -/
theorem loops_newRequest (gateways : List GatewayState) (opened : ℚ) (cid rest : String)
    (slot : ℕ) :
    Loops cfg r (fun req => TellsTruth gateways now req.res)
      (fun req c => c.request = r ∧ Pending req) gateways now
      (newRequest cfg opened cid rest slot) 0 := by
  unfold Loops
  split
  next req' gateway remaining hturn =>
    have hcases := nextAttempt_cases now (newRequest cfg opened cid rest slot)
      (gateways.zipIdx.drop 0)
    rw [hturn] at hcases
    cases hcases
    exact ⟨rfl, rfl, .inl rfl⟩
  next req' hturn =>
    rcases over_of_nextAttempt hturn with ⟨rfl, -⟩ | ⟨rfl, hgone | hall⟩
    · exact fun h => absurd h (notCooling_answerFailure rfl tried_timeoutFailure)
    · cases hgone
    · have hcool : ∀ gateway ∈ gateways, now.date < gateway.cooldownUntil := by
        intro gateway hgateway
        obtain ⟨i, hi⟩ := List.getElem?_of_mem hgateway
        exact hall (gateway, i) (List.mem_zipIdx_iff_getElem?.2 hi)
      exact fun hcooling => ⟨hcool, headers_answerFailure rfl hcooling.1⟩

/-- A request is answered at once with the truth, or goes on. -/
theorem request_cases (parseDate : String → Option ℤ) (cfg : IpfsConfig) (st : IpfsProxy)
    (opened : ℚ) (now : Clock) (cid : String) (splat : List String) :
    (∃ res, TellsTruth st.gateways now res ∧
      RefusedAtOnce st res (st.step parseDate cfg (.request opened now cid splat))) ∨
    ∃ slots, Handled { st with slots, next := st.next + 1 } st.next
      (fun req => TellsTruth st.gateways now req.res) Pending
      (fun req c => c.request = st.next ∧ Pending req)
      (st.step parseDate cfg (.request opened now cid splat)) := by
  have hbusy : ∀ (res : ClientResponse) (status : ℕ) {error : String},
      error ≠ "IPFS gateways cooling down" →
        TellsTruth st.gateways now (res.sendJson status [("error", .string error)]) :=
    fun _ _ _ h hcooling => absurd hcooling (notCooling_sendJson (fieldIs_error [] h))
  unfold IpfsProxy.step IpfsProxy.request
  dsimp only
  split
  · exact .inl ⟨_, hbusy _ _ (by decide), rfl, rfl, rfl, rfl, rfl, _, _, _, rfl, rfl, rfl, .inl rfl⟩
  · split
    · exact .inl ⟨_, hbusy _ _ (by decide), rfl, rfl, rfl, rfl, rfl, _, _, _, rfl, rfl, rfl,
        .inl rfl⟩
    · split
      · exact .inl ⟨_, hbusy _ _ (by decide), rfl, rfl, rfl, rfl, rfl, _, _, _, rfl, rfl, rfl,
          .inr rfl⟩
      next slot slots _ =>
        exact .inr ⟨slots, .advance (loops_newRequest st.gateways opened cid _ slot)⟩

/-- At once or later, a request whose answer is that every gateway cools down has found
that so. -/
structure Told (parseDate : String → Option ℤ) (cfg : IpfsConfig) (es : List IpfsEvent) (r : ℕ)
    (before : List IpfsEvent) (now : Clock) (res : ClientResponse) : Prop where
  arrives : ∃ opened cid splat later, es = before ++ .request opened now cid splat :: later ∧
    res ∈ (after parseDate cfg (before ++ [.request opened now cid splat])).answersOf r
  request : (after parseDate cfg before).next = r
  contacts : (after parseDate cfg es).contactsOf r = []
  cooling : ∀ gateway ∈ (after parseDate cfg before).gateways, now.date < gateway.cooldownUntil
  headers : res.headers =
    [("Retry-After", retryAfterSeconds (after parseDate cfg before).gateways now)]

/-- An answer that was true when given stays so. -/
theorem Told.snoc {es : List IpfsEvent} {before : List IpfsEvent} {res : ClientResponse}
    (h : Told parseDate cfg es r before now res) {e : IpfsEvent}
    (hcontacts : (after parseDate cfg (es ++ [e])).contactsOf r =
      (after parseDate cfg es).contactsOf r) :
    Told parseDate cfg (es ++ [e]) r before now res := by
  obtain ⟨opened, cid, splat, later, rfl, hanswer⟩ := h.arrives
  refine ⟨⟨opened, cid, splat, later ++ [e], ?_, hanswer⟩, h.request, hcontacts.trans h.contacts,
    h.cooling, h.headers⟩
  rw [List.append_assoc, List.cons_append]

/-- What holds of a request in every state. -/
structure Waits (parseDate : String → Option ℤ) (cfg : IpfsConfig) (es : List IpfsEvent) (r : ℕ) :
    Prop where
  pending : ∀ req, (after parseDate cfg es).requests.get? r = some req → Pending req
  told : ∀ res ∈ (after parseDate cfg es).answersOf r, IsCoolingAnswer res →
    ∃ before now, Told parseDate cfg es r before now res

theorem Handled.get?_of {F A : IpfsRequest → Prop} {C : IpfsRequest → Contact → Prop}
    {st' : IpfsProxy} (h : Handled st r F A C st') {req' : IpfsRequest}
    (hreq : st'.requests.get? r = some req') : A req' ∨ ∃ c, C req' c := by
  cases h with
  | finished req _ hframe =>
    rw [hframe.get?, if_pos rfl] at hreq
    cases hreq
  | awaits req h hframe =>
    rw [hframe.get?, if_pos rfl] at hreq
    cases hreq
    exact .inl h
  | contacts req c h hframe =>
    rw [hframe.get?, if_pos rfl] at hreq
    cases hreq
    exact .inr ⟨c, h⟩

/-- A handler that answers contacts no gateway. -/
theorem Handled.contactsOf_of_answer {F A : IpfsRequest → Prop} {C : IpfsRequest → Contact → Prop}
    {st' : IpfsProxy} (h : Handled st r F A C st') (hbefore : st.answersOf r = [])
    {res : ClientResponse} (hanswer : res ∈ st'.answersOf r) :
    st'.contactsOf r = st.contactsOf r := by
  cases h with
  | finished req _ _ _ hcontacted => rw [contactsOf, hcontacted, contactsOf]
  | awaits req _ _ _ hcontacted => rw [contactsOf, hcontacted, contactsOf]
  | contacts req c _ _ hanswered =>
    rw [answersOf, hanswered, ← answersOf, hbefore] at hanswer
    cases hanswer

/-- The other requests do not matter. -/
theorem Waits.of_untouched {es : List IpfsEvent} {e : IpfsEvent} (h : Waits parseDate cfg es r)
    (hsame : Untouched r (after parseDate cfg es) (after parseDate cfg (es ++ [e]))) :
    Waits parseDate cfg (es ++ [e]) r where
  pending req hreq := h.pending req (hsame.get? ▸ hreq)
  told res hres hcooling := by
    obtain ⟨before, now, htold⟩ := h.told res (hsame.answers ▸ hres) hcooling
    exact ⟨before, now, htold.snoc hsame.contacts⟩

/-- A request that arrives. -/
theorem waits_request {es : List IpfsEvent} {b : GatewayBody} (opened : ℚ) (now : Clock)
    (cid : String) (splat : List String)
    (hfresh : (after parseDate cfg es).requests.get? (after parseDate cfg es).next = none ∧
      (after parseDate cfg es).answersOf (after parseDate cfg es).next = [] ∧
      (after parseDate cfg es).contactsOf (after parseDate cfg es).next = [] ∧ b = .empty) :
    Waits parseDate cfg (es ++ [.request opened now cid splat]) (after parseDate cfg es).next := by
  obtain ⟨hnone, hanswers, hcontacts, -⟩ := hfresh
  have htold : ∀ res ∈ (after parseDate cfg (es ++ [.request opened now cid splat])).answersOf
      (after parseDate cfg es).next, IsCoolingAnswer res →
      TellsTruth (after parseDate cfg es).gateways now res →
      (after parseDate cfg (es ++ [.request opened now cid splat])).contactsOf
        (after parseDate cfg es).next = [] →
      ∃ before now', Told parseDate cfg (es ++ [.request opened now cid splat])
        (after parseDate cfg es).next before now' res := by
    intro res hres hcooling htruth hnocontact
    obtain ⟨hcool, hheaders⟩ := htruth hcooling
    exact ⟨es, now, ⟨opened, cid, splat, [], rfl, hres⟩, rfl, hnocontact, hcool, hheaders⟩
  rw [after_snoc] at htold
  obtain ⟨res, htruth, hrefused⟩ | ⟨slots, hstep⟩ :=
    request_cases parseDate cfg (after parseDate cfg es) opened now cid splat
  · refine ⟨fun req hreq => ?_, fun res' hres' hcooling => ?_⟩
    · rw [after_snoc, hrefused.requests, hnone] at hreq
      cases hreq
    · rw [after_snoc] at hres'
      refine htold res' hres' hcooling ?_ ?_
      · rw [answersOf, hrefused.answered, List.filter_append, List.map_append, ← answersOf,
          hanswers] at hres'
        have hsame : res' = res := by simpa using hres'
        rwa [hsame]
      · rw [contactsOf, hrefused.contacted, ← contactsOf, hcontacts]
  · refine ⟨fun req hreq => ?_, fun res' hres' hcooling => ?_⟩
    · rw [after_snoc] at hreq
      rcases Handled.get?_of hstep hreq with hpending | ⟨c, -, hpending⟩
      · exact hpending
      · exact hpending
    · rw [after_snoc] at hres'
      obtain ⟨req', htruth, rfl⟩ := hstep.of_answer hanswers hres'
      refine htold _ hres' hcooling htruth ?_
      exact (Handled.contactsOf_of_answer hstep hanswers hres').trans hcontacts

/-- In every run, only who found all gateways cooling down is told so. -/
theorem waits_run (parseDate : String → Option ℤ) (cfg : IpfsConfig) (es : List IpfsEvent)
    (r : ℕ) : Waits parseDate cfg es r := by
  induction es using List.reverseRecOn with
  | nil =>
    refine ⟨fun req hreq => ?_, fun res hres => ?_⟩
    · cases hreq
    · cases hres
  | append_singleton es e ih =>
    have hdelivered := (delivered_run parseDate cfg r es).2
    rw [← after] at hdelivered
    by_cases habout : e.about? = some r
    · cases hreq : (after parseDate cfg es).requests.get? r with
      | none =>
        have hsame := step_of_none parseDate cfg habout hreq
        refine ih.of_untouched ?_
        rw [after_snoc, hsame]
        exact ⟨rfl, rfl, rfl, le_rfl, id, rfl⟩
      | some req =>
        have hstep := (ih.pending req hreq).step hreq parseDate cfg habout
        rw [← after_snoc] at hstep
        refine ⟨fun req' hreq' => ?_, fun res hres hcooling => ?_⟩
        · rcases Handled.get?_of hstep hreq' with hpending | ⟨c, -, hpending⟩
          · exact hpending
          · exact hpending
        · obtain ⟨req', hnot, rfl⟩ := hstep.of_answer (hdelivered.underWay req hreq).2 hres
          exact absurd hcooling hnot
    · by_cases hnew : e.about? = none ∧ r = (after parseDate cfg es).next
      · obtain ⟨hnone, rfl⟩ := hnew
        cases e with
        | fetched | read | written | attemptTimeout | deadline | disconnect => cases hnone
        | request opened now cid splat =>
          exact waits_request opened now cid splat (hdelivered.fresh le_rfl)
      · refine ih.of_untouched ?_
        rw [after_snoc]
        exact untouched_step parseDate cfg (fun hnone hr => hnew ⟨hnone, hr⟩) habout

/-! ## When to come back -/

/-- The time to wait is that of the first gateway to be eligible, in seconds. -/
theorem retryAfterSeconds_eq {gateways : List GatewayState} (hne : gateways ≠ []) (now : Clock) :
    ∃ (i : ℕ) (gateway : GatewayState), gateways[i]? = some gateway ∧
      retryAfterSeconds gateways now =
        toString (max 1 ⌈((gateway.cooldownUntil - now.date : ℤ) : ℚ) / 1000⌉) := by
  obtain ⟨retryAt, hmin⟩ : ∃ retryAt, (gateways.map (·.cooldownUntil)).min? = some retryAt := by
    refine Option.isSome_iff_exists.1 (List.isSome_min?_of_ne_nil ?_)
    exact mt List.map_eq_nil_iff.1 hne
  obtain ⟨gateway, hgateway, rfl⟩ := List.mem_map.1 (List.min?_mem hmin)
  obtain ⟨i, hi⟩ := List.getElem?_of_mem hgateway
  refine ⟨i, gateway, hi, ?_⟩
  rw [retryAfterSeconds, hmin]

/-- A wait in seconds, rounded up. -/
theorem wait_bounds {cooldownUntil now : ℤ} {limit : ℕ} (hpositive : 900000 ≤ limit)
    (hlimit : cooldownUntil ≤ now + limit) :
    let n := max 1 ⌈((cooldownUntil - now : ℤ) : ℚ) / 1000⌉
    1 ≤ n ∧ n ≤ ⌈(limit : ℚ) / 1000⌉ ∧ cooldownUntil ≤ now + n * 1000 := by
  intro n
  refine ⟨le_max_left _ _, max_le ?_ (Int.ceil_le_ceil ?_), ?_⟩
  · rw [Int.le_ceil_iff]
    have : (900000 : ℚ) ≤ limit := by exact_mod_cast hpositive
    rw [Int.cast_one, sub_self]
    positivity
  · have : ((cooldownUntil - now : ℤ) : ℚ) ≤ (limit : ℤ) := by
      exact_mod_cast (by omega : cooldownUntil - now ≤ limit)
    rw [Int.cast_natCast] at this
    linarith
  · have hceil : ((cooldownUntil - now : ℤ) : ℚ) / 1000 ≤ n :=
      (Int.le_ceil _).trans (Int.cast_le.2 (le_max_right 1 _))
    rw [div_le_iff₀ (by norm_num)] at hceil
    have : cooldownUntil - now ≤ n * 1000 := by exact_mod_cast hceil
    omega

/-- The clock of a request is not behind any before it. -/
theorem clock_of_runs {es : List IpfsEvent} {opened : ℚ} {cid : String} {splat : List String}
    {later : List IpfsEvent} (h : ClockRuns (es ++ .request opened now cid splat :: later)) :
    0 ≤ now.date ∧ ∀ d ∈ dates es, d ≤ now.date := by
  have hdates : dates (es ++ .request opened now cid splat :: later) =
      dates es ++ now.date :: dates later := by
    rw [dates, List.filterMap_append]
    rfl
  rw [ClockRuns, hdates, List.pairwise_cons, List.pairwise_append] at h
  exact ⟨h.1 _ (by simp), fun d hd => h.2.2.2 d hd _ List.mem_cons_self⟩

/-- The client is told to wait for a whole number of seconds, and then a gateway is eligible
again, unless it has been put off. -/
structure WaitsFor (parseDate : String → Option ℤ) (cfg : IpfsConfig) (before : List IpfsEvent)
    (now : Clock) (res : ClientResponse) (n : ℤ) : Prop where
  headers : res.headers = [("Retry-After", toString n)]
  pos : 1 ≤ n
  le : n ≤ ⌈(cfg.maxCooldownMs : ℚ) / 1000⌉
  eligible : ∃ (i : ℕ) (gateway : GatewayState),
    (after parseDate cfg before).gateways[i]? = some gateway ∧
    ∀ later t, now.date + n * 1000 ≤ t → ∃ gateway',
      (after parseDate cfg (before ++ later)).gateways[i]? = some gateway' ∧
      (gateway.cooldownUntil < gateway'.cooldownUntil ∨ gateway'.cooldownUntil ≤ t)

/-- Who is told the truth is told how long to wait. -/
theorem Told.waitsFor {es before : List IpfsEvent} {res : ClientResponse}
    (h : Told parseDate cfg es r before now res) (hgateways : cfg.gateways ≠ [])
    (hclock : ClockRuns es) : ∃ n, WaitsFor parseDate cfg before now res n := by
  obtain ⟨opened, cid, splat, later, rfl, -⟩ := h.arrives
  obtain ⟨hnow, hdates⟩ := clock_of_runs hclock
  have hlength : (after parseDate cfg before).gateways.length = cfg.gateways.length :=
    length_gateways_run parseDate cfg before
  have hne : (after parseDate cfg before).gateways ≠ [] := by
    rw [← List.length_pos_iff, hlength]
    exact List.length_pos_iff.2 hgateways
  obtain ⟨i, gateway, hgateway, hseconds⟩ := retryAfterSeconds_eq hne now
  have hlimit := cooldownUntil_le parseDate cfg hnow hdates gateway
    (List.mem_of_getElem? hgateway)
  obtain ⟨hpos, hle, hwait⟩ := wait_bounds cfg.le_maxCooldownMs hlimit
  refine ⟨_, h.headers.trans (by rw [hseconds]), hpos, hle, i, gateway, hgateway,
    fun later' t ht => ?_⟩
  have hi : i < (after parseDate cfg (before ++ later')).gateways.length := by
    rw [after, length_gateways_run, ← hlength]
    exact (List.getElem?_eq_some_iff.1 hgateway).1
  refine ⟨_, List.getElem?_eq_getElem hi, ?_⟩
  obtain ⟨gateway₀, hgateway₀, hmono⟩ := cooldownUntil_mono before later'
    (List.getElem?_eq_getElem hi)
  obtain rfl : gateway = gateway₀ := Option.some.inj (hgateway.symm.trans hgateway₀)
  rcases hmono.lt_or_eq with hlt | heq
  · exact .inl hlt
  · exact .inr (heq ▸ hwait.trans ht)

end IpfsProxy

/-- No cooldown gets shorter or is further away than the limit. A request is answered that
every gateway cools down only if it found that so when it arrived and has contacted none, and
it is told a time to wait that is within the limit and enough. -/
theorem gateway_cooldowns (parseDate : String → Option ℤ) (cfg : IpfsConfig)
    (hgateways : cfg.gateways ≠ []) (es : List IpfsEvent) (hclock : IpfsProxy.ClockRuns es) :
    (∀ es' (i : ℕ) gateway',
      (IpfsProxy.after parseDate cfg (es ++ es')).gateways[i]? = some gateway' →
      ∃ gateway, (IpfsProxy.after parseDate cfg es).gateways[i]? = some gateway ∧
        gateway.cooldownUntil ≤ gateway'.cooldownUntil) ∧
    (∀ t, 0 ≤ t → (∀ d ∈ IpfsProxy.dates es, d ≤ t) →
      ∀ gateway ∈ (IpfsProxy.after parseDate cfg es).gateways,
        gateway.cooldownUntil ≤ t + cfg.maxCooldownMs) ∧
    ∀ r, ∀ res ∈ (IpfsProxy.after parseDate cfg es).answersOf r, IpfsProxy.IsCoolingAnswer res →
      ∃ before now, IpfsProxy.Told parseDate cfg es r before now res ∧
        ∃ n, IpfsProxy.WaitsFor parseDate cfg before now res n := by
  refine ⟨fun es' i gateway' => IpfsProxy.cooldownUntil_mono es es',
    fun t ht hdates => IpfsProxy.cooldownUntil_le parseDate cfg ht hdates,
    fun r res hres hcooling => ?_⟩
  obtain ⟨before, now, htold⟩ := (IpfsProxy.waits_run parseDate cfg es r).told res hres hcooling
  exact ⟨before, now, htold, htold.waitsFor hgateways hclock⟩

/-- A gateway that asks for five seconds, and a request one second later. -/
def slowedDown : List IpfsEvent :=
  [.request 0 ⟨1000, 0⟩ "QmYwAPJzv5CZsnA625s3Xf2nemtYgPpHdWEz79ojWnPbdG" [],
    .fetched 0 ⟨2000, 1000⟩ (.ok ⟨429, some "5", none, none, false⟩),
    .request 2000 ⟨3000, 2000⟩ "QmYwAPJzv5CZsnA625s3Xf2nemtYgPpHdWEz79ojWnPbdG" []]

def oneGateway : IpfsConfig :=
  { threeGateways 8000 1000 (by decide) with gateways := ["https://a.test/ipfs/"] }

theorem gateway_cooldowns_slowedDown :
    ((IpfsProxy.after (fun _ => none) oneGateway slowedDown).answersOf 1).map
        ClientResponse.headers = [[("Retry-After", "4")]] ∧
      (∀ gateway ∈ (IpfsProxy.after (fun _ => none) oneGateway slowedDown).gateways,
        gateway.cooldownUntil ≤ 3000 + oneGateway.maxCooldownMs) ∧
      ∀ res ∈ (IpfsProxy.after (fun _ => none) oneGateway slowedDown).answersOf 1,
        IpfsProxy.IsCoolingAnswer res →
        (IpfsProxy.after (fun _ => none) oneGateway slowedDown).contactsOf 1 = [] := by
  obtain ⟨-, hlimit, htold⟩ := gateway_cooldowns (fun _ => none) oneGateway (by decide) slowedDown
    (by unfold IpfsProxy.ClockRuns; decide)
  refine ⟨by decide +kernel, hlimit 3000 (by decide) (by decide), fun res hres hcooling => ?_⟩
  obtain ⟨before, now, h, -⟩ := htold 1 res hres hcooling
  exact h.contacts

end QrlBackend
