import QrlBackend.FixedWindow
import QrlBackend.RelayServer

/-!
# Rate limits

`checkRateLimit` keeps a fixed window for each address in `rateLimits`, and a timer deletes the
entries whose window is over. An entry that is over counts for nothing, so the deletion is not
seen : after any checks and sweeps, the entry of an address is the window its own checks
lead to, or that window is over (`Follows.step`). What a check answers is therefore a
function of the checks of its address alone (`result_eq`), and the bounds on fixed windows
apply to each address.
-/

set_option autoImplicit false

namespace QrlBackend

open FixedWindow (Window Use Admission)

/-- What touches the rate limits. -/
inductive LimitOp where
  | check (ip : String) (bucket : Bucket) (limit : ℕ)
  | sweep

/-- An operation on the rate limits at a clock reading. -/
structure LimitCall where
  now : ℕ
  op : LimitOp

namespace LimitCall

variable {V : Type}

def step (st : RelayServer V) (c : LimitCall) : RelayServer V :=
  match c.op with
  | .check ip bucket limit => (st.checkRateLimit c.now ip bucket limit).2
  | .sweep => st.sweepRateLimits c.now

/-- What a check returns. -/
def result (st : RelayServer V) (c : LimitCall) : Option Bool :=
  match c.op with
  | .check ip bucket limit => some (st.checkRateLimit c.now ip bucket limit).1
  | .sweep => none

def isCheck (c : LimitCall) : Bool :=
  match c.op with
  | .check .. => true
  | .sweep => false

/-- The call is a check of the address. -/
def checks (ip : String) (c : LimitCall) : Bool :=
  match c.op with
  | .check ip' _ _ => ip' = ip
  | .sweep => false

/-- A check of the address as a use of its window. -/
def use? (ip : String) (c : LimitCall) : Option (Use Bucket) :=
  match c.op with
  | .check ip' bucket limit => if ip' = ip then some ⟨c.now, bucket, limit⟩ else none
  | .sweep => none

/-- A check of the address and the bucket that returns true : when it is made, and when the
window it is counted in ends. -/
def admission? (ip : String) (bucket : Bucket) (st : RelayServer V) (c : LimitCall) :
    Option (ℕ × Option ℕ) :=
  match c.op with
  | .check ip' bucket' limit =>
    if ip' = ip ∧ bucket' = bucket ∧ (st.checkRateLimit c.now ip' bucket' limit).1 then
      some (c.now, ((c.step st).rateLimits.get? ip).map RateLimitEntry.resetAt)
    else none
  | .sweep => none

end LimitCall

variable {V : Type}

/-- The results of the calls of a kind, in order, from a new server. -/
def limitResults (cfg : Config) (kind : LimitCall → Bool) (calls : List LimitCall) : List Bool :=
  Runs.collect LimitCall.step (fun st c => if kind c then c.result st else none)
    (RelayServer.create cfg : RelayServer V) calls

/-- The checks of an address and a bucket that returned true. -/
def admittedCalls (cfg : Config) (ip : String) (bucket : Bucket) (calls : List LimitCall) :
    List (ℕ × Option ℕ) :=
  Runs.collect LimitCall.step (LimitCall.admission? ip bucket)
    (RelayServer.create cfg : RelayServer V) calls

/-! ## The entry of an address is a fixed window -/

def RateLimitEntry.window (entry : RateLimitEntry) : Window Bucket :=
  ⟨entry.counts, entry.resetAt⟩

/-- The window in the entry of an address. -/
def RelayServer.limitWindow (st : RelayServer V) (ip : String) : Option (Window Bucket) :=
  (st.rateLimits.get? ip).map RateLimitEntry.window

/-- A check counts in the window that is current when it is made. -/
theorem checkRateLimit_eq (now : ℕ) (st : RelayServer V) (ip : String) (bucket : Bucket)
    (limit : ℕ) : ∃ entry : RateLimitEntry,
      entry.window = FixedWindow.current rateLimitWindowMs now (st.limitWindow ip) ∧
      st.checkRateLimit now ip bucket limit =
        (decide (entry.counts bucket + 1 ≤ limit), { st with
          rateLimits := st.rateLimits.set ip { entry with
            counts := fun b => if b = bucket then entry.counts bucket + 1
              else entry.counts b } }) := by
  unfold RelayServer.checkRateLimit RelayServer.limitWindow
  cases st.rateLimits.get? ip with
  | none => exact ⟨_, rfl, rfl⟩
  | some entry =>
    rw [Option.map_some, FixedWindow.current]
    by_cases hover : entry.resetAt < now
    · exact ⟨⟨fun _ => 0, now + rateLimitWindowMs⟩, (if_pos hover).symm,
        by simp only [if_pos hover]⟩
    · exact ⟨entry, (if_neg hover).symm, by simp only [if_neg hover]⟩

theorem checkRateLimit_allows (now : ℕ) (st : RelayServer V) (ip : String) (bucket : Bucket)
    (limit : ℕ) : (st.checkRateLimit now ip bucket limit).1 =
      FixedWindow.allows rateLimitWindowMs (st.limitWindow ip) ⟨now, bucket, limit⟩ := by
  obtain ⟨entry, hentry, heq⟩ := checkRateLimit_eq now st ip bucket limit
  rw [heq, FixedWindow.allows, FixedWindow.count_counts_self, ← hentry]
  rfl

theorem limitWindow_checkRateLimit (now : ℕ) (st : RelayServer V) (ip : String)
    (bucket : Bucket) (limit : ℕ) :
    (st.checkRateLimit now ip bucket limit).2.limitWindow ip =
      FixedWindow.step rateLimitWindowMs (st.limitWindow ip) ⟨now, bucket, limit⟩ := by
  obtain ⟨entry, hentry, heq⟩ := checkRateLimit_eq now st ip bucket limit
  rw [heq, RelayServer.limitWindow, FixedWindow.step, ← hentry]
  dsimp only
  rw [JsMap.get?_set_self]
  rfl

theorem limitWindow_checkRateLimit_of_ne (now : ℕ) (st : RelayServer V) {ip ip' : String}
    (bucket : Bucket) (limit : ℕ) (hne : ip ≠ ip') :
    (st.checkRateLimit now ip' bucket limit).2.limitWindow ip = st.limitWindow ip := by
  obtain ⟨entry, -, heq⟩ := checkRateLimit_eq now st ip' bucket limit
  rw [heq, RelayServer.limitWindow]
  dsimp only
  rw [JsMap.get?_set_of_ne _ _ hne]
  rfl

theorem get?_foldl_delete (ips : List String) (ip : String) :
    ∀ limits : JsMap String RateLimitEntry,
      (ips.foldl (fun limits ip => limits.delete ip) limits).get? ip =
        if ip ∈ ips then none else limits.get? ip := by
  induction ips with
  | nil => exact fun limits => rfl
  | cons ip' ips ih =>
    intro limits
    rw [List.foldl_cons, ih, JsMap.get?_delete]
    by_cases hmem : ip ∈ ips
    · simp [hmem]
    · by_cases hip : ip = ip' <;> simp [hmem, hip]

/-- The sweep deletes the entries whose window is over. -/
theorem limitWindow_sweepRateLimits (now : ℕ) (st : RelayServer V) (ip : String) :
    (st.sweepRateLimits now).limitWindow ip =
      (st.limitWindow ip).filter fun w => now ≤ w.resetAt := by
  unfold RelayServer.sweepRateLimits RelayServer.limitWindow
  dsimp only
  rw [get?_foldl_delete]
  have hmem : ip ∈ (st.rateLimits.entries.filter fun e => e.2.resetAt < now).map Prod.fst ↔
      ∃ entry, st.rateLimits.get? ip = some entry ∧ entry.resetAt < now := by
    simp [JsMap.mem_entries]
  simp only [hmem]
  cases hget : st.rateLimits.get? ip with
  | none => simp
  | some entry =>
    by_cases hover : entry.resetAt < now
    · simp [hover, RateLimitEntry.window, Option.filter]
    · simp [hover, RateLimitEntry.window, Option.filter, Nat.le_of_not_lt hover]

/-- At `now` and later, a use falls in the same window by the entry of the address as after the
uses `uses` alone. -/
def Follows (now : ℕ) (st : RelayServer V) (ip : String) (uses : List (Use Bucket)) : Prop :=
  ∀ now', now ≤ now' → FixedWindow.current rateLimitWindowMs now' (st.limitWindow ip) =
    FixedWindow.current rateLimitWindowMs now'
      (Runs.run (FixedWindow.step rateLimitWindowMs) none uses)

/-- The uses of an address's window. -/
def usesOf (ip : String) (calls : List LimitCall) : List (Use Bucket) :=
  calls.filterMap (LimitCall.use? ip)

theorem usesOf_snoc (ip : String) (calls : List LimitCall) (c : LimitCall) :
    usesOf ip (calls ++ [c]) = usesOf ip calls ++ (c.use? ip).toList := by
  rw [usesOf, List.filterMap_append, List.filterMap_cons, List.filterMap_nil]
  cases c.use? ip <;> rfl

/-- An entry whose window is over counts for nothing. -/
theorem current_filter {now now' : ℕ} (hle : now ≤ now') (last : Option (Window Bucket)) :
    FixedWindow.current rateLimitWindowMs now' (last.filter fun w => now ≤ w.resetAt) =
      FixedWindow.current rateLimitWindowMs now' last := by
  cases last with
  | none => rfl
  | some w =>
    by_cases h : now ≤ w.resetAt
    · rw [Option.filter_some_pos (by simpa using h)]
    · rw [Option.filter_some_neg (by simpa using h), FixedWindow.current, FixedWindow.current,
        if_pos (by omega)]

theorem Follows.step {now : ℕ} {st : RelayServer V} {ip : String} {uses : List (Use Bucket)}
    (h : Follows now st ip uses) (c : LimitCall) (hle : now ≤ c.now) :
    Follows c.now (c.step st) ip (uses ++ (c.use? ip).toList) := by
  obtain ⟨t, op⟩ := c
  dsimp only at hle
  intro now' hnow
  dsimp only at hnow
  cases op with
  | check ip' bucket limit =>
    dsimp only [LimitCall.step, LimitCall.use?]
    by_cases hip : ip' = ip
    · subst hip
      rw [limitWindow_checkRateLimit, if_pos rfl, Option.toList_some, Runs.run_snoc,
        FixedWindow.step, FixedWindow.step, h t hle]
    · rw [limitWindow_checkRateLimit_of_ne _ _ _ _ (Ne.symm hip), if_neg hip, Option.toList_none,
        List.append_nil]
      exact h now' (hle.trans hnow)
  | sweep =>
    dsimp only [LimitCall.step, LimitCall.use?]
    rw [Option.toList_none, List.append_nil, limitWindow_sweepRateLimits, current_filter hnow]
    exact h now' (hle.trans hnow)

/-- The clock readings of the calls never go back. -/
def LimitClock (calls : List LimitCall) : Prop := (calls.map LimitCall.now).Pairwise (· ≤ ·)

instance (calls : List LimitCall) : Decidable (LimitClock calls) :=
  inferInstanceAs (Decidable ((calls.map LimitCall.now).Pairwise (· ≤ ·)))

theorem limitClock_snoc {calls : List LimitCall} {c : LimitCall} :
    LimitClock (calls ++ [c]) ↔ LimitClock calls ∧ ∀ c' ∈ calls, c'.now ≤ c.now := by
  simp [LimitClock, List.pairwise_append]

/-- The server after the calls. -/
def afterCalls (cfg : Config) (calls : List LimitCall) : RelayServer V :=
  Runs.run LimitCall.step (RelayServer.create cfg) calls

theorem follows_after (cfg : Config) (ip : String) {calls : List LimitCall}
    (hclock : LimitClock calls) : ∀ now, (∀ c ∈ calls, c.now ≤ now) →
      Follows now (afterCalls cfg calls : RelayServer V) ip (usesOf ip calls) := by
  induction calls using List.reverseRecOn with
  | nil => exact fun _ _ _ _ => rfl
  | append_singleton calls c ih =>
    intro now hnow now' hnow'
    obtain ⟨hclock, hbefore⟩ := limitClock_snoc.1 hclock
    rw [afterCalls, Runs.run_snoc, usesOf_snoc]
    exact (ih hclock c.now hbefore).step c le_rfl now'
      ((hnow c (List.mem_append_right _ (List.mem_singleton_self _))).trans hnow')

/-! ## What the checks answer -/

/-- What a check answers after the checks of its address. -/
def windowResult (calls : List LimitCall) (c : LimitCall) : Option Bool :=
  match c.op with
  | .check ip bucket limit => some (FixedWindow.allows rateLimitWindowMs
      (Runs.run (FixedWindow.step rateLimitWindowMs) none (usesOf ip calls))
      ⟨c.now, bucket, limit⟩)
  | .sweep => none

theorem result_eq (cfg : Config) {calls : List LimitCall} {c : LimitCall}
    (hclock : LimitClock (calls ++ [c])) :
    c.result (afterCalls cfg calls : RelayServer V) = windowResult calls c := by
  obtain ⟨hcalls, hbefore⟩ := limitClock_snoc.1 hclock
  obtain ⟨now, op⟩ := c
  cases op with
  | check ip bucket limit =>
    have hfollows := follows_after (V := V) cfg ip hcalls now hbefore now le_rfl
    dsimp only [LimitCall.result, windowResult]
    rw [checkRateLimit_allows, FixedWindow.allows, FixedWindow.allows, hfollows]
  | sweep => rfl

theorem LimitClock.filter {calls : List LimitCall} (h : LimitClock calls)
    (p : LimitCall → Bool) : LimitClock (calls.filter p) :=
  h.sublist (List.filter_sublist.map _)

/-- Calls that are no check of the address are no use of its window. -/
theorem usesOf_filter {ip : String} {p : LimitCall → Bool}
    (hp : ∀ c, p c = false → LimitCall.use? ip c = none) (calls : List LimitCall) :
    usesOf ip (calls.filter p) = usesOf ip calls := by
  induction calls with
  | nil => rfl
  | cons c calls ih =>
    rw [List.filter_cons]
    split
    next => rw [usesOf, usesOf, List.filterMap_cons, List.filterMap_cons, ← usesOf, ← usesOf, ih]
    next hnot => rw [ih, usesOf, usesOf, List.filterMap_cons_none (hp c (by simpa using hnot))]

/-- The calls of a kind answer the same without the others, if the kind has all checks of the
addresses it has a check of. -/
theorem limitResults_filter (cfg : Config) {kind : LimitCall → Bool}
    (hkind : ∀ c ip bucket limit, kind c = true → c.op = .check ip bucket limit →
      ∀ c', kind c' = false → LimitCall.use? ip c' = none)
    {calls : List LimitCall} (hclock : LimitClock calls) :
    limitResults (V := V) cfg kind calls = limitResults (V := V) cfg kind (calls.filter kind) := by
  induction calls using List.reverseRecOn with
  | nil => rfl
  | append_singleton calls c ih =>
    have hrest := ih (limitClock_snoc.1 hclock).1
    have hfilter := hclock.filter kind
    rw [List.filter_append] at hfilter ⊢
    cases hc : kind c with
    | true =>
      have hsingle : [c].filter kind = [c] := by rw [List.filter_cons_of_pos hc, List.filter_nil]
      rw [hsingle] at hfilter ⊢
      have hsame : c.result (afterCalls cfg calls : RelayServer V) =
          c.result (afterCalls cfg (calls.filter kind) : RelayServer V) := by
        rw [result_eq cfg hclock, result_eq cfg hfilter, windowResult, windowResult]
        cases hop : c.op with
        | check ip bucket limit =>
          dsimp only
          rw [usesOf_filter (hkind c ip bucket limit hc hop)]
        | sweep => rfl
      rw [limitResults, limitResults, Runs.collect_snoc, Runs.collect_snoc, ← limitResults,
        ← limitResults, hrest, ← afterCalls, ← afterCalls, hsame]
    | false =>
      have hnone : [c].filter kind = [] := List.filter_cons_of_neg (by simp [hc])
      rw [hnone, List.append_nil, ← hrest, limitResults, Runs.collect_snoc, hc]
      exact List.append_nil _

/-- Without the sweeps the checks answer the same. -/
theorem limitResults_isCheck (cfg : Config) {calls : List LimitCall} (hclock : LimitClock calls) :
    limitResults (V := V) cfg LimitCall.isCheck calls =
      limitResults (V := V) cfg LimitCall.isCheck (calls.filter LimitCall.isCheck) := by
  refine limitResults_filter cfg (fun _ ip _ _ _ _ c' hc' => ?_) hclock
  obtain ⟨now, op⟩ := c'
  cases op with
  | check => cases hc'
  | sweep => rfl

/-- Without the checks of other addresses, the checks of an address answer the same. -/
theorem limitResults_checks (cfg : Config) (ip : String) {calls : List LimitCall}
    (hclock : LimitClock calls) :
    limitResults (V := V) cfg (LimitCall.checks ip) calls =
      limitResults (V := V) cfg (LimitCall.checks ip) (calls.filter (LimitCall.checks ip)) := by
  refine limitResults_filter cfg (fun c ip₁ _ _ hc hop c' hc' => ?_) hclock
  rw [LimitCall.checks, hop, decide_eq_true_eq] at hc
  subst hc
  obtain ⟨now, op⟩ := c'
  cases op with
  | check ip' => exact if_neg (by simpa [LimitCall.checks] using hc')
  | sweep => rfl

/-! ## How many checks an interval allows -/

theorem LimitCall.use?_eq_some {ip : String} {c : LimitCall} {u : Use Bucket}
    (h : c.use? ip = some u) : c.op = .check ip u.bucket u.limit ∧ u.now = c.now := by
  obtain ⟨now, op⟩ := c
  cases op with
  | check ip' bucket limit =>
    dsimp only [LimitCall.use?] at h
    split at h
    next hip =>
      cases h
      exact ⟨by rw [hip], rfl⟩
    next => cases h
  | sweep => cases h

theorem LimitClock.usesOf {calls : List LimitCall} (h : LimitClock calls) (ip : String) :
    ((usesOf ip calls).map Use.now).Pairwise (· ≤ ·) := by
  unfold LimitClock at h
  unfold QrlBackend.usesOf
  rw [List.pairwise_map] at h ⊢
  rw [List.pairwise_filterMap]
  refine h.imp fun {c c'} hle u hu u' hu' => ?_
  rw [(LimitCall.use?_eq_some hu).2, (LimitCall.use?_eq_some hu').2]
  exact hle

theorem map_resetAt (st : RelayServer V) (ip : String) :
    (st.rateLimits.get? ip).map RateLimitEntry.resetAt =
      (st.limitWindow ip).map Window.resetAt := by
  rw [RelayServer.limitWindow, Option.map_map]
  rfl

/-- The checks that return true are the allowed uses of the address's window. -/
theorem admittedCalls_eq (cfg : Config) (ip : String) (bucket : Bucket) {calls : List LimitCall}
    (hclock : LimitClock calls) : admittedCalls (V := V) cfg ip bucket calls =
      (FixedWindow.admitted rateLimitWindowMs bucket (usesOf ip calls)).map
        fun a => (a.now, some a.resetAt) := by
  induction calls using List.reverseRecOn with
  | nil => rfl
  | append_singleton calls c ih =>
    obtain ⟨hcalls, hbefore⟩ := limitClock_snoc.1 hclock
    have hfollows := follows_after (V := V) cfg ip hcalls c.now hbefore c.now le_rfl
    rw [admittedCalls, Runs.collect_snoc, ← admittedCalls, ih hcalls, usesOf_snoc, ← afterCalls]
    obtain ⟨now, op⟩ := c
    cases op with
    | check ip' bucket' limit =>
      dsimp only [LimitCall.admission?, LimitCall.use?]
      by_cases hip : ip' = ip
      · subst hip
        rw [if_pos rfl, Option.toList_some, FixedWindow.admitted, FixedWindow.admitted,
          Runs.collect_snoc, List.map_append]
        congr 1
        rw [checkRateLimit_allows, map_resetAt, LimitCall.step]
        dsimp only
        rw [limitWindow_checkRateLimit, FixedWindow.step, FixedWindow.allows, hfollows,
          FixedWindow.admission?, FixedWindow.allows]
        by_cases hbucket : bucket' = bucket
        · subst hbucket
          simp only [true_and]
          split <;> rfl
        · simp only [hbucket, false_and, and_false, if_false]
          rfl
      · rw [if_neg hip, if_neg fun h => hip h.1, Option.toList_none, List.append_nil,
          Option.toList_none, List.append_nil]
    | sweep =>
      exact (List.append_nil _).trans (by rw [LimitCall.use?]; simp)

/-- What the checks of an address and a bucket with one limit are allowed, in a window of the
address and in an interval. -/
structure Windowed (V : Type) (cfg : Config) (calls : List LimitCall) (ip : String)
    (bucket : Bucket) (limit : ℕ) : Prop where
  inside : ∀ a ∈ admittedCalls (V := V) cfg ip bucket calls,
    ∃ r, a.2 = some r ∧ a.1 ≤ r ∧ r ≤ a.1 + rateLimitWindowMs
  window : ∀ r, (admittedCalls (V := V) cfg ip bucket calls).countP (·.2 = some r) ≤ limit
  interval : ∀ lo hi, hi ≤ lo + rateLimitWindowMs →
    (admittedCalls (V := V) cfg ip bucket calls).countP (fun a => lo ≤ a.1 ∧ a.1 ≤ hi) ≤ 2 * limit

theorem windowed (cfg : Config) {calls : List LimitCall} (hclock : LimitClock calls) {ip : String}
    {bucket : Bucket} {limit : ℕ}
    (hlimit : ∀ c ∈ calls, ∀ n, c.op = .check ip bucket n → n = limit) :
    Windowed V cfg calls ip bucket limit := by
  have hlast : ∃ now, ∀ u ∈ usesOf ip calls, u.now ≤ now := by
    refine ⟨((usesOf ip calls).map Use.now).sum, fun u hu => ?_⟩
    exact List.le_sum_of_mem (List.mem_map_of_mem hu)
  obtain ⟨now, hnow⟩ := hlast
  have hsound := FixedWindow.sound_admitted rateLimitWindowMs bucket limit (hclock.usesOf ip)
    (fun u hu hbucket => by
      obtain ⟨c, hc, huse⟩ := List.mem_filterMap.1 hu
      exact hlimit c hc u.limit (hbucket ▸ (LimitCall.use?_eq_some huse).1)) now hnow
  refine ⟨fun a ha => ?_, fun r => ?_, fun lo hi hspan => ?_⟩
  · rw [admittedCalls_eq cfg ip bucket hclock] at ha
    obtain ⟨admission, hmem, rfl⟩ := List.mem_map.1 ha
    exact ⟨_, rfl, hsound.inside admission hmem⟩
  · rw [admittedCalls_eq cfg ip bucket hclock, List.countP_map]
    refine le_trans (List.countP_mono_left fun a _ ha => ?_) (hsound.bounded r)
    simpa using ha
  · rw [admittedCalls_eq cfg ip bucket hclock, List.countP_map]
    exact hsound.countP_interval_le hspan

/-- Under a clock that never goes back, the rate limits of an address are those of a fixed
window, whenever the sweep runs and whatever the other addresses do. -/
theorem rate_limit_windowed (cfg : Config) {calls : List LimitCall} (hclock : LimitClock calls) :
    limitResults (V := V) cfg LimitCall.isCheck calls =
        limitResults (V := V) cfg LimitCall.isCheck (calls.filter LimitCall.isCheck) ∧
      (∀ ip bucket limit, (∀ c ∈ calls, ∀ n, c.op = .check ip bucket n → n = limit) →
        Windowed V cfg calls ip bucket limit) ∧
      ∀ ip, limitResults (V := V) cfg (LimitCall.checks ip) calls =
        limitResults (V := V) cfg (LimitCall.checks ip) (calls.filter (LimitCall.checks ip)) :=
  ⟨limitResults_isCheck cfg hclock, fun _ _ _ hlimit => windowed cfg hclock hlimit,
    fun ip => limitResults_checks cfg ip hclock⟩

/-- Two windows with a sweep between them : four of six joins are allowed within 60 seconds, two
in each window. -/
theorem rate_limit_windowed_twice :
    let join (now : ℕ) : LimitCall := ⟨now, .check "ip" .join 2⟩
    let calls := [⟨0, .check "ip" .connect 60⟩, join 59000, join 59000, join 60000, ⟨60001, .sweep⟩,
      join 60001, join 60002, join 60003]
    limitResults (V := String) .unset LimitCall.isCheck calls =
        [true, true, true, false, true, true, false] ∧
      Windowed String .unset calls "ip" .join 2 ∧
      (admittedCalls (V := String) .unset "ip" .join calls).countP
        (fun a => 59000 ≤ a.1 ∧ a.1 ≤ 119000) = 4 :=
  ⟨by decide, (rate_limit_windowed .unset (by decide)).2.1 "ip" .join 2 (by simp), by decide⟩

end QrlBackend
