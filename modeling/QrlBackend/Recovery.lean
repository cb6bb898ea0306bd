import QrlBackend.Evidence

/-!
# Recovery of an endpoint

An endpoint that was put down should come up only at a poll that completes
`UP_AFTER_SUCCESSES` successful polls in a row. The exits of `down` count them, but a
successful poll that sees no new height for too long takes the endpoint to `stalled`, and a
greater height takes it from there to `up` at once. So recovery waits for the successes in
exactly the runs in which no endpoint that fell leaves `stalled` early (`recovery_iff`).
-/

set_option autoImplicit false

namespace QrlBackend

namespace HealthMonitor

/-- The successful polls since the last failed one. -/
def streak (results : List PollResult) : ℕ :=
  (results.reverse.takeWhile fun result => result matches .passed _).length

@[simp] theorem streak_failed (results : List PollResult) : streak (results ++ [.failed]) = 0 := by
  simp [streak]

@[simp] theorem streak_passed (results : List PollResult) (p : Passed) :
    streak (results ++ [.passed p]) = streak results + 1 := by
  simp [streak]

/-- The state of an endpoint, if there is one at the index. -/
def endpointState (st : HealthMonitor) (network : NetworkName) (i : ℕ) : Option EndpointState :=
  ((st.networks network)[i]?).map (·.state)

/-- A failed poll put the endpoint down, and it has not been up since. -/
def Fallen (cfg : RpcHealthConfig) (st : HealthMonitor) (events : List Event)
    (network : NetworkName) (i : ℕ) : Prop :=
  ∃ earlier event later, events = earlier ++ event :: later ∧
    result? network i (Runs.run (step cfg) st earlier) event = some .failed ∧
    endpointState (Runs.run (step cfg) st (earlier ++ [event])) network i = some .down ∧
    ∀ seen, seen <+: later →
      endpointState (Runs.run (step cfg) st (earlier ++ event :: seen)) network i ≠ some .up

/-- If the next event brings a fallen endpoint up, it completes enough successful polls in a
row. -/
def WaitsForSuccesses (cfg : RpcHealthConfig) (st : HealthMonitor) (events : List Event)
    (event : Event) (network : NetworkName) (i : ℕ) : Prop :=
  Fallen cfg st events network i →
  endpointState (Runs.run (step cfg) st (events ++ [event])) network i = some .up →
  (∃ p, result? network i (Runs.run (step cfg) st events) event = some (.passed p)) ∧
    cfg.upAfterSuccesses ≤ streak (history cfg st (events ++ [event]) network i)

/-- The next event ends a successful poll with a greater height at a stalled endpoint that
fell, with too few successful polls before it. -/
def LeavesStalledEarly (cfg : RpcHealthConfig) (st : HealthMonitor) (events : List Event)
    (event : Event) (network : NetworkName) (i : ℕ) : Prop :=
  Fallen cfg st events network i ∧
  streak (history cfg st events network i) + 1 < cfg.upAfterSuccesses ∧
  ∃ ep p, ((Runs.run (step cfg) st events).networks network)[i]? = some ep ∧
    ep.state = .stalled ∧ (∀ height ∈ ep.lastHeight, height < p.head.height) ∧
    result? network i (Runs.run (step cfg) st events) event = some (.passed p)

variable {cfg : RpcHealthConfig} {ep : EndpointRecord}

/-! ## One poll -/

theorem ne_unknown_applyPollSuccess {now height : ℕ} (h : ep.state ≠ .unknown) :
    (ep.applyPollSuccess cfg now height).state ≠ .unknown := by
  unfold EndpointRecord.applyPollSuccess
  dsimp only
  split_ifs <;> simp_all

/-- What brings an endpoint up that was down or stalled. -/
theorem up_applyPollSuccess {now height : ℕ} (h : ep.state = .down ∨ ep.state = .stalled) :
    (ep.applyPollSuccess cfg now height).state = .up →
      cfg.upAfterSuccesses ≤ ep.consecutiveSuccesses + 1 ∨
        ep.state = .stalled ∧ ∀ last ∈ ep.lastHeight, last < height := by
  unfold EndpointRecord.applyPollSuccess
  dsimp only
  intro hup
  rcases h with h | h
  · simp only [h] at hup
    split_ifs at hup <;> simp_all
  · cases hlast : ep.lastHeight with
    | none => exact .inr ⟨h, by simp⟩
    | some last =>
      rw [hlast] at hup
      simp only [h] at hup
      split_ifs at hup <;> simp_all

/-- A greater height takes an endpoint out of `stalled`. -/
theorem up_of_stalled {now height : ℕ} (h : ep.state = .stalled)
    (hlast : ∀ last ∈ ep.lastHeight, last < height) :
    (ep.applyPollSuccess cfg now height).state = .up := by
  unfold EndpointRecord.applyPollSuccess
  cases hprev : ep.lastHeight with
  | none => simp [h]
  | some last => simp [h, hlast last hprev]

/-- A record counts the polls in a row, and a poll that does not fail keeps the state known. -/
theorem Written.consecutiveSuccesses {result : Option PollResult}
    {f : EndpointRecord → EndpointRecord} (hf : Written cfg result f) {results : List PollResult}
    (h : ep.consecutiveSuccesses = streak results) :
    (f ep).consecutiveSuccesses = streak (results ++ result.toList) := by
  cases hf with
  | untouched | arrived => simpa using h
  | failed f hf =>
    obtain ⟨_, _, _, heq⟩ := hf ep
    rw [heq, Option.toList_some, streak_failed]
    rfl
  | passed =>
    rw [Option.toList_some, streak_passed, ← h]
    rfl

theorem Written.ne_unknown {result : Option PollResult} {f : EndpointRecord → EndpointRecord}
    (hf : Written cfg result f) (h : ep.state ≠ .unknown) : (f ep).state ≠ .unknown := by
  cases hf with
  | untouched | arrived => exact h
  | failed f hf =>
    obtain ⟨_, _, _, heq⟩ := hf ep
    rw [heq]
    unfold EndpointRecord.applyFailure
    dsimp only
    split
    · exact nofun
    · exact h
  | passed => exact ne_unknown_applyPollSuccess h

/-! ## Runs -/

variable {now : ℕ} {endpoints : NetworkName → List String}
  {expectedIdentities : NetworkName → Option RpcIdentity}

theorem consecutiveSuccesses_after (events : List Event) (network : NetworkName) (i : ℕ) : ∀ ep,
    ((Runs.run (step cfg) (init now endpoints expectedIdentities) events).networks
      network)[i]? = some ep →
    ep.consecutiveSuccesses =
      streak (history cfg (init now endpoints expectedIdentities) events network i) := by
  induction events using List.reverseRecOn with
  | nil =>
    intro ep hep
    simp only [Runs.run_nil, init, List.getElem?_map, Option.map_eq_some_iff] at hep
    obtain ⟨url, -, rfl⟩ := hep
    rfl
  | append_singleton events event ih =>
    intro ep hep
    obtain ⟨f, hrecord, hwritten⟩ := @written_step cfg
      (Runs.run (step cfg) (init now endpoints expectedIdentities) events) network i event
    rw [Runs.run_snoc, hrecord] at hep
    obtain ⟨ep', hep', rfl⟩ := Option.map_eq_some_iff.1 hep
    rw [history, Runs.collect_snoc]
    exact hwritten.consecutiveSuccesses (ih ep' hep')

/-- A fallen endpoint is down or stalled. -/
theorem Fallen.state {st : HealthMonitor} {events : List Event} {network : NetworkName} {i : ℕ}
    (h : Fallen cfg st events network i) :
    ∃ ep, ((Runs.run (step cfg) st events).networks network)[i]? = some ep ∧
      (ep.state = .down ∨ ep.state = .stalled) := by
  obtain ⟨earlier, event, later, rfl, -, hdown, hnever⟩ := h
  have hknown : ∀ seen, ∃ ep, ((Runs.run (step cfg) st (earlier ++ event :: seen)).networks
      network)[i]? = some ep ∧ ep.state ≠ .unknown := by
    intro seen
    induction seen using List.reverseRecOn with
    | nil =>
      obtain ⟨ep, hep, hstate⟩ := Option.map_eq_some_iff.1 hdown
      exact ⟨ep, hep, by simp [hstate]⟩
    | append_singleton seen event' ih =>
      obtain ⟨ep, hep, hstate⟩ := ih
      obtain ⟨f, hrecord, hwritten⟩ := @written_step cfg
        (Runs.run (step cfg) st (earlier ++ event :: seen)) network i event'
      refine ⟨f ep, ?_, hwritten.ne_unknown hstate⟩
      rw [← List.cons_append, ← List.append_assoc, Runs.run_snoc, hrecord, hep]
      rfl
  obtain ⟨ep, hep, hstate⟩ := hknown later
  have hnotup : ep.state ≠ .up := fun hup =>
    hnever later (List.prefix_refl _) (by rw [endpointState, hep, Option.map_some, hup])
  refine ⟨ep, hep, ?_⟩
  cases hs : ep.state with
  | up => exact absurd hs hnotup
  | unknown => exact absurd hs hstate
  | down => exact .inl rfl
  | stalled => exact .inr rfl

/-- An event brings a fallen endpoint up too early if and only if the endpoint leaves
`stalled` early by it. -/
theorem waitsForSuccesses_iff (events : List Event) (event : Event) (network : NetworkName)
    (i : ℕ) :
    WaitsForSuccesses cfg (init now endpoints expectedIdentities) events event network i ↔
      ¬LeavesStalledEarly cfg (init now endpoints expectedIdentities) events event network i := by
  set st := init now endpoints expectedIdentities
  obtain ⟨f, hrecord, hwritten⟩ := @written_step cfg (Runs.run (step cfg) st events) network i event
  have hhistory : history cfg st (events ++ [event]) network i =
      history cfg st events network i ++
        (result? network i (Runs.run (step cfg) st events) event).toList :=
    Runs.collect_snoc _ _ _ _
  have hstate : ∀ ep, ((Runs.run (step cfg) st events).networks network)[i]? = some ep →
      endpointState (Runs.run (step cfg) st (events ++ [event])) network i =
        some (f ep).state := by
    intro ep hep
    rw [endpointState, Runs.run_snoc, hrecord, hep]
    rfl
  constructor
  · rintro hwaits ⟨hfallen, hfew, ep, p, hep, hstalled, hheight, hresult⟩
    have hup : (f ep).state = .up := by
      rw [hresult] at hwritten
      cases hwritten with
      | passed => exact up_of_stalled hstalled hheight
    obtain ⟨-, henough⟩ := hwaits hfallen ((hstate ep hep).trans (congrArg some hup))
    rw [hhistory, hresult, Option.toList_some, streak_passed] at henough
    omega
  · intro hnot hfallen hup
    obtain ⟨ep, hep, hlow⟩ := hfallen.state
    rw [hstate ep hep, Option.some.injEq] at hup
    have hcount := consecutiveSuccesses_after events network i ep hep
    have hnotup : ep.state ≠ .up := by
      rcases hlow with h | h <;> simp [h]
    cases hresult : result? network i (Runs.run (step cfg) st events) event with
    | none =>
      rw [hresult] at hwritten
      cases hwritten with
      | untouched | arrived => exact absurd hup hnotup
    | some result =>
      rw [hresult] at hwritten
      cases hwritten with
      | failed f hf =>
        obtain ⟨_, _, _, heq⟩ := hf ep
        rw [heq] at hup
        unfold EndpointRecord.applyFailure at hup
        dsimp only at hup
        split at hup
        · cases hup
        · exact absurd hup hnotup
      | passed poll answers head endedAt latencyAt changedAt =>
        refine ⟨⟨_, rfl⟩, ?_⟩
        rw [hhistory, hresult, Option.toList_some, streak_passed, ← hcount]
        rcases up_applyPollSuccess hlow hup with henough | ⟨hstalled, hheight⟩
        · exact henough
        · by_contra hfew
          rw [Nat.not_le, hcount] at hfew
          exact hnot ⟨hfallen, hfew, ep, _, hep, hstalled, hheight, hresult⟩

/-- In a run every recovery waits for its successes if and only if no fallen endpoint leaves
`stalled` early. -/
theorem recovery_iff (cfg : RpcHealthConfig) (now : ℕ) (endpoints : NetworkName → List String)
    (expectedIdentities : NetworkName → Option RpcIdentity) (network : NetworkName) (i : ℕ)
    (events : List Event) :
    (∀ earlier event, earlier ++ [event] <+: events →
      WaitsForSuccesses cfg (init now endpoints expectedIdentities) earlier event network i) ↔
    ∀ earlier event, earlier ++ [event] <+: events →
      ¬LeavesStalledEarly cfg (init now endpoints expectedIdentities) earlier event network i := by
  simp only [waitsForSuccesses_iff]

/-- A poll at the time `t` that reads the height. -/
def answeredPoll (t : ℕ) (height : String) : List Event :=
  let envelope := fun id result => Json.object [("jsonrpc", .string "2.0"), ("id", id),
    ("result", result)]
  let answer := fun method result => Fetched.responded 200 (.ok (envelope (.string method) result))
  [.begin .mainnet 0 t, .respond .mainnet 0 200 t t,
    .finish .mainnet 0
      { height := .ok (envelope (.number t) (.string height))
        chainId := .rejected (.error "")
        genesis := .rejected (.error "")
        syncing := answer "qrl_syncing" (.bool false)
        block := answer "qrl_getBlockByNumber" (.object [("number", .string height),
          ("timestamp", .string "0x0")]) }
      (.error "") t t t]

/-- Three polls fail and put an endpoint down. It answers again five minutes after its last
new height, with that height, and then with the next one. -/
def stalledOnReturn : List Event :=
  answeredPoll 0 "0x1" ++
  [.begin .mainnet 0 10000, .respond .mainnet 0 503 10000 10000,
    .begin .mainnet 0 20000, .respond .mainnet 0 503 20000 20000,
    .begin .mainnet 0 30000, .respond .mainnet 0 503 30000 30000] ++
  answeredPoll 300001 "0x1" ++ answeredPoll 310001 "0x2"

/-- It is up after two successful polls, where the threshold is three. -/
theorem recovery_early :
    ¬∀ earlier event, earlier ++ [event] <+: stalledOnReturn →
      WaitsForSuccesses .unset (init 0 (fun _ => ["http://a"]) fun _ => none) earlier event
        .mainnet 0 := by
  intro h
  have hnever : ∀ seen ∈ (stalledOnReturn.drop 9).dropLast.inits,
      endpointState (Runs.run (step .unset) (init 0 (fun _ => ["http://a"]) fun _ => none)
        (stalledOnReturn.take 8 ++ .respond .mainnet 0 503 30000 30000 :: seen)) .mainnet 0 ≠
          some .up := by
    decide +kernel
  have hfallen : Fallen .unset (init 0 (fun _ => ["http://a"]) fun _ => none)
      stalledOnReturn.dropLast .mainnet 0 :=
    ⟨stalledOnReturn.take 8, .respond .mainnet 0 503 30000 30000, (stalledOnReturn.drop 9).dropLast,
      rfl, rfl, by decide +kernel, fun seen hseen =>
        hnever seen ((List.mem_inits _ _).2 hseen)⟩
  obtain ⟨-, henough⟩ := h stalledOnReturn.dropLast (stalledOnReturn.getLast nofun)
    (by rw [List.dropLast_append_getLast]) hfallen (by decide +kernel)
  exact absurd henough (by decide +kernel)

end HealthMonitor

end QrlBackend
