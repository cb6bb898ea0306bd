import QrlBackend.HealthReports

/-!
# The poller

The timer of `healthMonitor.ts` and the rounds of polls it starts. A round polls every
endpoint at once and is over when its last poll is. The flag `polling` keeps the timer from
starting a round while one is under way. `start` does not look at the flag : it relies on
the timer, which `stop` clears while polls may still be under way.

The model of the monitor takes at most one poll of an endpoint at a time. Unless `start` is
called with polls under way, that is how the poller uses it (`polls_never_overlap`) : rounds
do not overlap, and the monitor takes every event the poller hands to it.
-/

set_option autoImplicit false

namespace QrlBackend

/-- A call of `pollOne`, in a round. -/
structure PollTask where
  round : ℕ
  network : NetworkName
  index : ℕ
  responded : Bool
  deriving DecidableEq

/-- The endpoint that a task polls. -/
def PollTask.endpoint (task : PollTask) : NetworkName × ℕ := (task.network, task.index)

/-- The poller of a monitor. `rounds` counts the rounds, and names the next one. -/
structure Poller where
  endpointCount : NetworkName → ℕ
  timer : Bool
  polling : Bool
  rounds : ℕ
  inFlight : List PollTask

namespace Poller

/-- What happens to the poller. `now` is the reading of the clock for each poll of a round. -/
inductive PollerEvent where
  | start (now : NetworkName → ℕ → ℕ)
  | stop
  | tick (now : NetworkName → ℕ → ℕ)
  /-- The first query of a poll has a response. -/
  | responds (task : PollTask) (status polledAt latencyAt : ℕ)
  /-- A poll ends after its first response, or because it has none. -/
  | ends (task : PollTask) (answers : PollAnswers) (err : JsError)
      (endedAt latencyAt changedAt : ℕ)

def init (endpoints : NetworkName → List String) : Poller where
  endpointCount network := (endpoints network).length
  timer := false
  polling := false
  rounds := 0
  inFlight := []

/-- The polls of a round. -/
def tasks (st : Poller) : List PollTask :=
  networkNames.flatMap fun network =>
    (List.range (st.endpointCount network)).map fun i => ⟨st.rounds, network, i, false⟩

def pollAll (st : Poller) : Poller :=
  { st with
    polling := true
    rounds := st.rounds + 1
    inFlight := st.inFlight ++ st.tasks }

/-- A poll is over. `polling` is reset behind the last one of its round. -/
def settle (st : Poller) (task : PollTask) : Poller :=
  let inFlight := st.inFlight.erase task
  { st with
    inFlight
    polling := if inFlight.any (·.round = task.round) then st.polling else false }

def step (st : Poller) : PollerEvent → Poller
  | .start _ =>
    if st.timer then st
    else if st.tasks.isEmpty then st
    else { st with timer := true }.pollAll
  | .stop => { st with timer := false }
  | .tick _ => if st.timer && !st.polling then st.pollAll else st
  | .responds task status _ _ =>
    if task ∈ st.inFlight && !task.responded then
      if isOk status then
        { st with
          inFlight := st.inFlight.map fun t =>
            if t = task then { t with responded := true } else t }
      else st.settle task
    else st
  | .ends task _ _ _ _ _ => if task ∈ st.inFlight then st.settle task else st

/-- The polls of a round begin. -/
def begins (st : Poller) (now : NetworkName → ℕ → ℕ) : List HealthMonitor.Event :=
  st.tasks.map fun task => .begin task.network task.index (now task.network task.index)

/-- What an event of the poller is to the monitor. -/
def emits (st : Poller) : PollerEvent → List HealthMonitor.Event
  | .start now => if st.timer then [] else st.begins now
  | .stop => []
  | .tick now => if st.timer && !st.polling then st.begins now else []
  | .responds task status polledAt latencyAt =>
    if task ∈ st.inFlight && !task.responded then
      [.respond task.network task.index status polledAt latencyAt]
    else []
  | .ends task answers err endedAt latencyAt changedAt =>
    if task ∈ st.inFlight then
      [.finish task.network task.index answers err endedAt latencyAt changedAt]
    else []

/-- What a run of the poller is to the monitor. -/
def emitted : Poller → List PollerEvent → List HealthMonitor.Event
  | _, [] => []
  | st, e :: es => st.emits e ++ emitted (st.step e) es

/-- What one more event emits comes last. -/
theorem emitted_snoc (es : List PollerEvent) (e : PollerEvent) : ∀ st : Poller,
    st.emitted (es ++ [e]) = st.emitted es ++ (Runs.run step st es).emits e := by
  induction es with
  | nil =>
    intro st
    exact List.append_nil _
  | cons e' es ih =>
    intro st
    rw [List.cons_append, emitted, emitted, ih, Runs.run_cons, List.append_assoc]

/-- `start` is not called with polls under way, unless the timer is set. -/
def QuietStart (st : Poller) : PollerEvent → Prop
  | .start _ => st.timer = true ∨ st.inFlight = []
  | _ => True

end Poller

/-- The monitor takes an event : a poll begins at an endpoint without one, and what follows
is about a poll under way. -/
def HealthMonitor.Takes (m : HealthMonitor) : Event → Prop
  | .pin _ _ => True
  | .begin network i _ => m.polls network i = none ∧ i < (m.networks network).length
  | .respond network i _ _ _ => ∃ poll, m.polls network i = some poll ∧ poll.responded = false
  | .finish network i _ _ _ _ _ => ∃ poll, m.polls network i = some poll

namespace Poller

/-- The poller and the monitor agree on the polls under way, which are of one round. -/
structure InStep (st : Poller) (m : HealthMonitor) : Prop where
  counts : ∀ network, (m.networks network).length = st.endpointCount network
  timer : st.timer = true → ∃ network, 0 < st.endpointCount network
  polling : st.polling = true ↔ st.inFlight ≠ []
  round : ∀ task ∈ st.inFlight, task.round + 1 = st.rounds
  nodup : (st.inFlight.map PollTask.endpoint).Nodup
  polls : ∀ network i responded,
    (∃ poll, m.polls network i = some poll ∧ poll.responded = responded) ↔
      ∃ task ∈ st.inFlight, task.endpoint = (network, i) ∧ task.responded = responded

end Poller

namespace HealthMonitor

variable {cfg : RpcHealthConfig} {m : HealthMonitor}

/-- The poll of one endpoint is put in place. -/
theorem polls_setPoll (network network' : NetworkName) (i i' : ℕ) (poll : Option Poll) :
    (m.setPoll network i poll).polls network' i' =
      if network' = network ∧ i' = i then poll else m.polls network' i' := by
  unfold setPoll
  dsimp only
  by_cases hn : network' = network
  · subst hn
    rw [Function.update_self, Function.update_apply]
    simp
  · rw [Function.update_of_ne hn, if_neg fun h => hn h.1]

theorem length_modifyRecord (network network' : NetworkName) (i : ℕ)
    (f : EndpointRecord → EndpointRecord) :
    ((m.modifyRecord network i f).networks network').length = (m.networks network').length := by
  unfold modifyRecord
  dsimp only
  by_cases hn : network' = network
  · subst hn
    rw [Function.update_self, List.length_modify]
  · rw [Function.update_of_ne hn]

/-- A poll begins. -/
theorem step_begin {network : NetworkName} {i now : ℕ} (h : m.Takes (.begin network i now)) :
    step cfg m (.begin network i now) =
      m.setPoll network i (some ⟨now, m.expectedIdentities network, false⟩) := by
  unfold step
  dsimp only
  rw [h.1]
  exact if_pos h.2

/-- A response leaves a poll under way, if its status is ok, and ends it if not. -/
theorem polls_respond {network : NetworkName} {i status polledAt latencyAt : ℕ} {poll : Poll}
    (hpoll : m.polls network i = some poll) (hresponded : poll.responded = false)
    (network' : NetworkName) (i' : ℕ) :
    (step cfg m (.respond network i status polledAt latencyAt)).polls network' i' =
      if network' = network ∧ i' = i then
        if isOk status then some { poll with responded := true } else none
      else m.polls network' i' := by
  unfold step
  dsimp only
  rw [hpoll]
  dsimp only
  rw [hresponded, if_neg Bool.false_ne_true, onRespond]
  dsimp only
  split
  · exact polls_setPoll ..
  · exact polls_setPoll ..

/-- A poll that finishes is under way no more. -/
theorem polls_finish {network : NetworkName} {i endedAt latencyAt changedAt : ℕ}
    {answers : PollAnswers} {err : JsError} {poll : Poll}
    (hpoll : m.polls network i = some poll) (network' : NetworkName) (i' : ℕ) :
    (step cfg m (.finish network i answers err endedAt latencyAt changedAt)).polls network' i' =
      if network' = network ∧ i' = i then none else m.polls network' i' := by
  unfold step
  dsimp only
  rw [hpoll]
  exact polls_setPoll ..

/-- No event adds an endpoint, or takes one away. -/
theorem length_step (cfg : RpcHealthConfig) (m : HealthMonitor) (event : Event)
    (network : NetworkName) :
    ((step cfg m event).networks network).length = (m.networks network).length := by
  cases event with
  | pin => rfl
  | begin =>
    unfold step
    dsimp only
    split
    · rfl
    · split <;> rfl
  | respond =>
    unfold step onRespond
    dsimp only
    split
    · split
      · rfl
      · split <;> exact length_modifyRecord ..
    · rfl
  | finish =>
    unfold step
    dsimp only
    split
    · rfl
    · exact length_modifyRecord ..

theorem length_run (cfg : RpcHealthConfig) (m : HealthMonitor) (events : List Event)
    (network : NetworkName) :
    ((Runs.run (step cfg) m events).networks network).length = (m.networks network).length :=
  Runs.run_invariant (I := fun m' => (m'.networks network).length = (m.networks network).length)
    (fun m' event h => (length_step cfg m' event network).trans h) events rfl

/-- Polls of endpoints without one begin together. -/
theorem run_begins (cfg : RpcHealthConfig) (now : NetworkName → ℕ → ℕ) :
    ∀ (tasks : List PollTask) (m : HealthMonitor), (tasks.map PollTask.endpoint).Nodup →
    (∀ task ∈ tasks, m.polls task.network task.index = none ∧
      task.index < (m.networks task.network).length) →
    let events := tasks.map fun task => .begin task.network task.index (now task.network task.index)
    Runs.Guarded (step cfg) Takes m events ∧ ∀ network i,
      (Runs.run (step cfg) m events).polls network i =
        if (network, i) ∈ tasks.map PollTask.endpoint then
          some ⟨now network i, m.expectedIdentities network, false⟩
        else m.polls network i := by
  intro tasks
  induction tasks with
  | nil => exact fun m _ _ => ⟨trivial, fun network i => (if_neg List.not_mem_nil).symm⟩
  | cons task tasks ih =>
    intro m hnodup hfree
    rw [List.map_cons, List.nodup_cons] at hnodup
    obtain ⟨hfree₁, hfree⟩ := List.forall_mem_cons.1 hfree
    have htakes : m.Takes (.begin task.network task.index (now task.network task.index)) := hfree₁
    have hstep := @step_begin cfg m _ _ _ htakes
    obtain ⟨hguarded, hpolls⟩ := ih (m.setPoll task.network task.index
      (some ⟨now task.network task.index, m.expectedIdentities task.network, false⟩)) hnodup.2 (by
        intro task' htask'
        refine ⟨?_, (hfree task' htask').2⟩
        rw [polls_setPoll, if_neg, (hfree task' htask').1]
        rintro ⟨hnetwork, hindex⟩
        exact hnodup.1 (List.mem_map.2 ⟨task', htask', Prod.ext hnetwork hindex⟩))
    dsimp only at hguarded hpolls ⊢
    rw [List.map_cons, Runs.Guarded, Runs.run_cons, hstep]
    refine ⟨⟨htakes, hguarded⟩, fun network i => ?_⟩
    rw [hpolls, polls_setPoll]
    simp only [List.map_cons, List.mem_cons]
    by_cases hmem : (network, i) ∈ tasks.map PollTask.endpoint
    · rw [if_pos hmem, if_pos (.inr hmem)]
      rfl
    · rw [if_neg hmem]
      by_cases hi : network = task.network ∧ i = task.index
      · obtain ⟨rfl, rfl⟩ := hi
        rw [if_pos ⟨rfl, rfl⟩, if_pos (.inl rfl)]
      · rw [if_neg hi, if_neg]
        rintro (heq | hmem')
        · exact hi (Prod.mk.inj heq)
        · exact hmem hmem'

end HealthMonitor

namespace Poller

variable {cfg : RpcHealthConfig} {st : Poller} {m : HealthMonitor}

/-- A round has a task for each endpoint. -/
theorem mem_tasks {task : PollTask} : task ∈ st.tasks ↔
    task.round = st.rounds ∧ task.index < st.endpointCount task.network ∧
      task.responded = false := by
  simp only [tasks, List.mem_flatMap, List.mem_map, List.mem_range]
  constructor
  · rintro ⟨network, -, i, hi, rfl⟩
    exact ⟨rfl, hi, rfl⟩
  · obtain ⟨round, network, i, responded⟩ := task
    rintro ⟨rfl, hi, rfl⟩
    exact ⟨network, by cases network <;> decide, i, hi, rfl⟩

theorem tasks_ne_nil_iff : st.tasks ≠ [] ↔ ∃ network, 0 < st.endpointCount network := by
  constructor
  · intro hne
    obtain ⟨task, htask⟩ := List.exists_mem_of_ne_nil _ hne
    exact ⟨task.network, Nat.zero_lt_of_lt (mem_tasks.1 htask).2.1⟩
  · rintro ⟨network, hcount⟩
    exact List.ne_nil_of_mem (mem_tasks.2 ⟨rfl, hcount, rfl⟩ :
      (⟨st.rounds, network, 0, false⟩ : PollTask) ∈ st.tasks)

/-- And none for the same endpoint twice. -/
theorem nodup_tasks (st : Poller) : (st.tasks.map PollTask.endpoint).Nodup := by
  have hendpoints : st.tasks.map PollTask.endpoint = networkNames.flatMap fun network =>
      (List.range (st.endpointCount network)).map fun i => (network, i) := by
    simp only [tasks, List.map_flatMap, List.map_map]
    rfl
  rw [hendpoints, List.nodup_flatMap]
  refine ⟨fun network _ => List.nodup_range.map fun i j h => (Prod.mk.inj h).2, ?_⟩
  have hnames : networkNames.Pairwise (· ≠ ·) := by decide
  refine hnames.imp fun hne => List.disjoint_left.2 fun e he he' => ?_
  obtain ⟨i, -, rfl⟩ := List.mem_map.1 he
  obtain ⟨j, -, heq⟩ := List.mem_map.1 he'
  exact hne (Prod.mk.inj heq).1.symm

/-- Where no task is in flight, no poll is under way. -/
theorem InStep.polls_eq_none (h : InStep st m) {network : NetworkName} {i : ℕ}
    (hno : ∀ task ∈ st.inFlight, task.endpoint ≠ (network, i)) : m.polls network i = none := by
  cases hpoll : m.polls network i with
  | none => rfl
  | some poll =>
    obtain ⟨task, htask, hendpoint, -⟩ := (h.polls network i poll.responded).1 ⟨poll, hpoll, rfl⟩
    exact absurd hendpoint (hno task htask)

/-- A round begins with no poll under way. -/
theorem InStep.pollAll (h : InStep st m) (hidle : st.inFlight = []) (hsome : st.tasks ≠ [])
    (now : NetworkName → ℕ → ℕ) :
    Runs.Guarded (HealthMonitor.step cfg) HealthMonitor.Takes m (st.begins now) ∧
      InStep st.pollAll (Runs.run (HealthMonitor.step cfg) m (st.begins now)) := by
  have hnone : ∀ network i, m.polls network i = none := fun network i =>
    h.polls_eq_none fun task htask => absurd (hidle ▸ htask) List.not_mem_nil
  obtain ⟨hguarded, hpolls⟩ := HealthMonitor.run_begins cfg now st.tasks m st.nodup_tasks
    fun task htask => ⟨hnone _ _, h.counts _ ▸ (mem_tasks.1 htask).2.1⟩
  refine ⟨hguarded, fun network => ?_, h.timer, ?_, fun task htask => ?_, ?_,
    fun network i responded => ?_⟩
  · exact (HealthMonitor.length_run ..).trans (h.counts network)
  · simp [Poller.pollAll, hsome]
  · rw [Poller.pollAll, hidle, List.nil_append] at htask
    rw [(mem_tasks.1 htask).1]
    rfl
  · rw [Poller.pollAll, hidle, List.nil_append]
    exact st.nodup_tasks
  · rw [begins, hpolls, hnone, Poller.pollAll, hidle, List.nil_append]
    constructor
    · rintro ⟨poll, hpoll, rfl⟩
      split at hpoll
      next hmem =>
        obtain ⟨task, htask, hendpoint⟩ := List.mem_map.1 hmem
        cases hpoll
        exact ⟨task, htask, hendpoint, (mem_tasks.1 htask).2.2⟩
      next => cases hpoll
    · rintro ⟨task, htask, hendpoint, rfl⟩
      rw [if_pos (List.mem_map.2 ⟨task, htask, hendpoint⟩)]
      exact ⟨_, rfl, (mem_tasks.1 htask).2.2.symm⟩

/-- An endpoint has one task in flight. -/
theorem InStep.eq_of_endpoint (h : InStep st m) {task task' : PollTask} (htask : task ∈ st.inFlight)
    (htask' : task' ∈ st.inFlight) (heq : task.endpoint = task'.endpoint) : task = task' :=
  List.inj_on_of_nodup_map h.nodup htask htask' heq

/-- A poll is over. -/
theorem InStep.settle (h : InStep st m) {task : PollTask} (htask : task ∈ st.inFlight)
    {m' : HealthMonitor}
    (hlength : ∀ network, (m'.networks network).length = (m.networks network).length)
    (hpolls : ∀ network i, m'.polls network i =
      if network = task.network ∧ i = task.index then none else m.polls network i) :
    InStep (st.settle task) m' := by
  have hmem : ∀ task', task' ∈ st.inFlight.erase task ↔ task' ≠ task ∧ task' ∈ st.inFlight :=
    fun task' => (List.Nodup.of_map _ h.nodup).mem_erase_iff
  refine ⟨fun network => (hlength network).trans (h.counts network), h.timer, ?_,
    fun task' htask' => ?_, ?_, fun network i responded => ?_⟩
  · -- the tasks are of one round, so the flag is reset behind the last of them
    have hround : ∀ task' ∈ st.inFlight.erase task, task'.round = task.round := by
      intro task' htask'
      have hround' := h.round task' ((hmem task').1 htask').2
      exact Nat.succ.inj (hround'.trans (h.round task htask).symm)
    have hpolling : st.polling = true := h.polling.2 (List.ne_nil_of_mem htask)
    unfold Poller.settle
    dsimp only
    rw [hpolling]
    cases hrest : st.inFlight.erase task with
    | nil => simp
    | cons task' rest =>
      have hany : (task' :: rest).any (·.round = task.round) = true :=
        List.any_eq_true.2 ⟨task', List.mem_cons_self,
          decide_eq_true (hround task' (hrest ▸ List.mem_cons_self))⟩
      rw [hany]
      simp
  · exact h.round task' ((hmem task').1 htask').2
  · exact h.nodup.sublist (List.erase_sublist.map _)
  · rw [hpolls]
    constructor
    · rintro ⟨poll, hpoll, hresponded⟩
      split at hpoll
      · cases hpoll
      next hne =>
        obtain ⟨task', htask', hendpoint, hresponded'⟩ :=
          (h.polls network i responded).1 ⟨poll, hpoll, hresponded⟩
        refine ⟨task', (hmem task').2 ⟨?_, htask'⟩, hendpoint, hresponded'⟩
        rintro rfl
        obtain ⟨rfl, rfl⟩ := Prod.mk.inj hendpoint
        exact hne ⟨rfl, rfl⟩
    · rintro ⟨task', htask', hendpoint, hresponded⟩
      obtain ⟨hne, htask'⟩ := (hmem task').1 htask'
      rw [if_neg]
      · exact (h.polls network i responded).2 ⟨task', htask', hendpoint, hresponded⟩
      · rintro ⟨rfl, rfl⟩
        exact hne (h.eq_of_endpoint htask' htask hendpoint)

/-- The first response of a poll. -/
theorem InStep.responds (h : InStep st m) {task : PollTask} (htask : task ∈ st.inFlight)
    (hresponded : task.responded = false) (status polledAt latencyAt : ℕ) :
    m.Takes (.respond task.network task.index status polledAt latencyAt) ∧
      InStep (st.step (.responds task status polledAt latencyAt))
        (m.step cfg (.respond task.network task.index status polledAt latencyAt)) := by
  obtain ⟨poll, hpoll, hpollResponded⟩ :=
    (h.polls task.network task.index false).2 ⟨task, htask, rfl, hresponded⟩
  refine ⟨⟨poll, hpoll, hpollResponded⟩, ?_⟩
  have hpolls := @HealthMonitor.polls_respond cfg m _ _ status polledAt latencyAt poll hpoll
    hpollResponded
  have hcond : (decide (task ∈ st.inFlight) && !task.responded) = true := by
    simp [htask, hresponded]
  unfold step
  dsimp only
  rw [if_pos hcond]
  cases hok : isOk status with
  | false =>
    rw [if_neg Bool.false_ne_true]
    refine h.settle htask (HealthMonitor.length_step cfg m _) fun network i => ?_
    rw [hpolls, hok, if_neg Bool.false_ne_true]
  | true =>
    rw [if_pos rfl]
    have hendpoints : (st.inFlight.map fun t =>
        if t = task then { t with responded := true } else t).map PollTask.endpoint =
        st.inFlight.map PollTask.endpoint := by
      rw [List.map_map]
      refine List.map_congr_left fun t _ => ?_
      rw [Function.comp_apply]
      split <;> rfl
    refine ⟨fun network => (HealthMonitor.length_step cfg m _ network).trans (h.counts network),
      h.timer, ?_, fun task' htask' => ?_, ?_, fun network i responded => ?_⟩
    · rw [Ne, List.map_eq_nil_iff]
      exact h.polling
    · obtain ⟨t, ht, rfl⟩ := List.mem_map.1 htask'
      split <;> exact h.round t ht
    · exact hendpoints ▸ h.nodup
    · rw [hpolls, hok, if_pos rfl]
      split
      next hi =>
        obtain ⟨rfl, rfl⟩ := hi
        constructor
        · rintro ⟨poll', hpoll', rfl⟩
          cases hpoll'
          exact ⟨{ task with responded := true },
            List.mem_map.2 ⟨task, htask, if_pos rfl⟩, rfl, rfl⟩
        · rintro ⟨task', htask', hendpoint, rfl⟩
          obtain ⟨t, ht, rfl⟩ := List.mem_map.1 htask'
          have heq : t = task := by
            refine h.eq_of_endpoint ht htask ?_
            split at hendpoint <;> exact hendpoint
          exact ⟨_, rfl, by rw [if_pos heq]⟩
      next hi =>
        rw [h.polls network i responded]
        constructor
        · rintro ⟨task', htask', hendpoint, hresponded'⟩
          have hne : task' ≠ task := by
            rintro rfl
            obtain ⟨rfl, rfl⟩ := Prod.mk.inj hendpoint
            exact hi ⟨rfl, rfl⟩
          exact ⟨task', List.mem_map.2 ⟨task', htask', if_neg hne⟩, hendpoint, hresponded'⟩
        · rintro ⟨task', htask', hendpoint, hresponded'⟩
          obtain ⟨t, ht, rfl⟩ := List.mem_map.1 htask'
          split at hendpoint
          next heq =>
            subst heq
            obtain ⟨rfl, rfl⟩ := Prod.mk.inj hendpoint
            exact absurd ⟨rfl, rfl⟩ hi
          next hne =>
            rw [if_neg hne] at hresponded'
            exact ⟨t, ht, hendpoint, hresponded'⟩

/-- What an event of the poller hands to the monitor keeps the two in step. -/
theorem InStep.step (h : InStep st m) {e : PollerEvent} (hquiet : st.QuietStart e) :
    Runs.Guarded (HealthMonitor.step cfg) HealthMonitor.Takes m (st.emits e) ∧
      InStep (st.step e) (Runs.run (HealthMonitor.step cfg) m (st.emits e)) := by
  unfold emits
  cases e with
  | stop => exact ⟨trivial, h.counts, nofun, h.polling, h.round, h.nodup, h.polls⟩
  | start now =>
    unfold Poller.step
    dsimp only
    cases htimer : st.timer with
    | true => exact ⟨trivial, h⟩
    | false =>
      rw [if_neg Bool.false_ne_true, if_neg Bool.false_ne_true]
      have hidle : st.inFlight = [] := hquiet.resolve_left (by rw [htimer]; decide)
      by_cases htasks : st.tasks = []
      · rw [begins, htasks]
        exact ⟨trivial, h⟩
      · have hne : st.tasks ≠ [] := htasks
        rw [List.isEmpty_eq_false_iff.2 hne, if_neg Bool.false_ne_true]
        have hset : InStep { st with timer := true } m :=
          ⟨h.counts, fun _ => tasks_ne_nil_iff.1 hne, h.polling, h.round, h.nodup, h.polls⟩
        exact hset.pollAll hidle hne now
  | tick now =>
    unfold Poller.step
    dsimp only
    split
    next hticks =>
      rw [Bool.and_eq_true, Bool.not_eq_true'] at hticks
      have hidle : st.inFlight = [] := by
        by_contra hne
        rw [h.polling.2 hne] at hticks
        cases hticks.2
      exact h.pollAll hidle (tasks_ne_nil_iff.2 (h.timer hticks.1)) now
    next => exact ⟨trivial, h⟩
  | responds task status polledAt latencyAt =>
    dsimp only
    split
    next hcond =>
      rw [Bool.and_eq_true, decide_eq_true_eq, Bool.not_eq_true'] at hcond
      obtain ⟨htakes, hin⟩ := @InStep.responds cfg st m h task hcond.1 hcond.2 status polledAt
        latencyAt
      exact ⟨⟨htakes, trivial⟩, hin⟩
    next hcond =>
      unfold Poller.step
      dsimp only
      rw [if_neg hcond]
      exact ⟨trivial, h⟩
  | ends task answers err endedAt latencyAt changedAt =>
    unfold Poller.step
    dsimp only
    split
    next htask =>
      obtain ⟨poll, hpoll, -⟩ :=
        (h.polls task.network task.index task.responded).2 ⟨task, htask, rfl, rfl⟩
      refine ⟨⟨⟨poll, hpoll⟩, trivial⟩, ?_⟩
      rw [Runs.run_cons, Runs.run_nil]
      exact h.settle htask (HealthMonitor.length_step cfg m _) (HealthMonitor.polls_finish hpoll)
    next => exact ⟨trivial, h⟩

/-- While `start` is quiet, rounds do not overlap : an endpoint has at most one poll under way,
`polling` says whether there is one, and the monitor takes every event it is handed. -/
theorem polls_never_overlap (cfg : RpcHealthConfig) (now : ℕ)
    (endpoints : NetworkName → List String)
    (expectedIdentities : NetworkName → Option RpcIdentity) (es : List PollerEvent)
    (hquiet : Runs.Guarded Poller.step QuietStart (Poller.init endpoints) es) :
    let st := Runs.run Poller.step (Poller.init endpoints) es
    let events := (Poller.init endpoints).emitted es
    let m := HealthMonitor.init now endpoints expectedIdentities
    (st.inFlight.map PollTask.endpoint).Nodup ∧
      (∀ task ∈ st.inFlight, task.round + 1 = st.rounds) ∧
      (st.polling = true ↔ st.inFlight ≠ []) ∧
      Runs.Guarded (HealthMonitor.step cfg) HealthMonitor.Takes m events ∧
      ∀ network i, (∃ poll, (Runs.run (HealthMonitor.step cfg) m events).polls network i =
        some poll) ↔ (network, i) ∈ st.inFlight.map PollTask.endpoint := by
  dsimp only
  have hrun : Runs.Guarded (HealthMonitor.step cfg) HealthMonitor.Takes
        (HealthMonitor.init now endpoints expectedIdentities)
        ((Poller.init endpoints).emitted es) ∧
      InStep (Runs.run Poller.step (Poller.init endpoints) es)
        (Runs.run (HealthMonitor.step cfg) (HealthMonitor.init now endpoints expectedIdentities)
          ((Poller.init endpoints).emitted es)) := by
    induction es using List.reverseRecOn with
    | nil =>
      refine ⟨trivial, fun network => List.length_map _, nofun, by simp [init], nofun,
        List.nodup_nil, fun network i responded => ?_⟩
      simp [init, HealthMonitor.init, emitted]
    | append_singleton es e ih =>
      obtain ⟨hquiet, hlast⟩ := Runs.guarded_snoc.1 hquiet
      obtain ⟨hguarded, hin⟩ := ih hquiet
      obtain ⟨hguarded', hin'⟩ := @InStep.step cfg _ _ hin e hlast
      rw [emitted_snoc, Runs.run_snoc, Runs.guarded_append, Runs.run_append]
      exact ⟨⟨hguarded, hguarded'⟩, hin'⟩
  obtain ⟨hguarded, hin⟩ := hrun
  refine ⟨hin.nodup, hin.round, hin.polling, hguarded, fun network i => ?_⟩
  rw [List.mem_map]
  constructor
  · rintro ⟨poll, hpoll⟩
    obtain ⟨task, htask, hendpoint, -⟩ := (hin.polls network i _).1 ⟨poll, hpoll, rfl⟩
    exact ⟨task, htask, hendpoint⟩
  · rintro ⟨task, htask, hendpoint⟩
    obtain ⟨poll, hpoll, -⟩ := (hin.polls network i _).2 ⟨task, htask, hendpoint, rfl⟩
    exact ⟨poll, hpoll⟩

/-- The first poll of an endpoint outlasts an interval. -/
def slowPoll : List PollerEvent :=
  [.start fun _ _ => 0, .responds ⟨0, .testnet, 0, false⟩ 200 20 20, .tick fun _ _ => 10000]

theorem polls_never_overlap_slow :
    (Runs.run step (init (HealthMonitor.onTestnet "https://rpc.test")) slowPoll).inFlight =
      [⟨0, .testnet, 0, true⟩] ∧
    ∃ poll, (Runs.run (HealthMonitor.step .unset)
      (HealthMonitor.init 0 (HealthMonitor.onTestnet "https://rpc.test") fun _ => none)
      ((init (HealthMonitor.onTestnet "https://rpc.test")).emitted slowPoll)).polls .testnet 0 =
        some poll := by
  have hrun : (Runs.run step (init (HealthMonitor.onTestnet "https://rpc.test"))
      slowPoll).inFlight = [⟨0, .testnet, 0, true⟩] := by
    decide
  refine ⟨hrun, ?_⟩
  have hinFlight := (polls_never_overlap .unset 0 (HealthMonitor.onTestnet "https://rpc.test")
    (fun _ => none) slowPoll ⟨.inr rfl, trivial, trivial, trivial⟩).2.2.2.2 .testnet 0
  rw [hrun] at hinFlight
  exact hinFlight.2 (List.mem_cons_self)

/-- A restart with a poll under way polls the endpoint twice at a time. -/
example : (Runs.run step (init (HealthMonitor.onTestnet "https://rpc.test"))
    [.start fun _ _ => 0, .stop, .start fun _ _ => 1]).inFlight =
      [⟨0, .testnet, 0, false⟩, ⟨1, .testnet, 0, false⟩] := by
  decide

end Poller

end QrlBackend
