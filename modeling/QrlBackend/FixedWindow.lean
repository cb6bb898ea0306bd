import Mathlib.Data.List.Count
import Mathlib.Order.Nat
import QrlBackend.Runs

/-!
# Fixed windows

A limiter of the simplest kind counts the uses of each bucket in a window and starts a new
window at the first use after the old one is over. A use is allowed while the count of its
bucket is within the limit.

All buckets share the window, whichever opened it. Windows do not overlap, and the next one
starts after the last instant of the one before (`Sound.spaced`), so an interval no longer
than a window meets at most two of them. Hence a bucket with limit `n` is allowed at most `n`
times in a window and at most `2 * n` times in such an interval (`Sound.countP_interval_le`).
-/

set_option autoImplicit false

namespace FixedWindow

variable {β : Type*} [DecidableEq β]

/-- How often each bucket was used in a window, and the window's last instant. -/
structure Window (β : Type*) where
  counts : β → ℕ
  resetAt : ℕ

/-- A use of a bucket. -/
structure Use (β : Type*) where
  now : ℕ
  bucket : β
  limit : ℕ

/-- The window a use at `now` falls in : the last one, unless it is over. -/
def current (span now : ℕ) : Option (Window β) → Window β
  | some w => if w.resetAt < now then ⟨fun _ => 0, now + span⟩ else w
  | none => ⟨fun _ => 0, now + span⟩

def Window.count (w : Window β) (bucket : β) : Window β :=
  { w with counts := fun b => if b = bucket then w.counts bucket + 1 else w.counts b }

/-- The window after a use. -/
def step (span : ℕ) (last : Option (Window β)) (u : Use β) : Option (Window β) :=
  some ((current span u.now last).count u.bucket)

/-- The use is within its limit. -/
def allows (span : ℕ) (last : Option (Window β)) (u : Use β) : Bool :=
  ((current span u.now last).count u.bucket).counts u.bucket ≤ u.limit

/-- When a use was allowed, and the last instant of its window. -/
structure Admission where
  now : ℕ
  resetAt : ℕ

def admission? (span : ℕ) (bucket : β) (last : Option (Window β)) (u : Use β) :
    Option Admission :=
  if u.bucket = bucket ∧ allows span last u then
    some ⟨u.now, (current span u.now last).resetAt⟩
  else none

/-- The allowed uses of a bucket, oldest first. -/
def admitted (span : ℕ) (bucket : β) (uses : List (Use β)) : List Admission :=
  Runs.collect (step span) (admission? span bucket) none uses

@[simp] theorem count_resetAt (w : Window β) (bucket : β) :
    (w.count bucket).resetAt = w.resetAt :=
  rfl

@[simp] theorem count_counts_self (w : Window β) (bucket : β) :
    (w.count bucket).counts bucket = w.counts bucket + 1 :=
  if_pos rfl

theorem counts_le_count (w : Window β) (bucket b : β) :
    w.counts b ≤ (w.count bucket).counts b := by
  unfold Window.count
  dsimp only
  split
  next h => rw [h]; exact Nat.le_succ _
  next => exact le_rfl

omit [DecidableEq β] in
/-- A use falls in the last window, or opens one that nothing was counted in. -/
theorem current_cases (span now : ℕ) (last : Option (Window β)) :
    (∃ w, last = some w ∧ now ≤ w.resetAt ∧ current span now last = w) ∨
      (∀ w, last = some w → w.resetAt < now) ∧
        current span now last = ⟨fun _ => 0, now + span⟩ := by
  cases last with
  | none => exact .inr ⟨nofun, rfl⟩
  | some w =>
    by_cases h : w.resetAt < now
    · exact .inr ⟨fun w' hw' => Option.some.inj hw' ▸ h, if_pos h⟩
    · exact .inl ⟨w, rfl, by omega, if_neg h⟩

/-! ## What a run keeps -/

/-- The allowed uses `l` of a bucket, when `last` is the last window and `now` the last
instant. -/
structure Sound (span : ℕ) (bucket : β) (n now : ℕ) (l : List Admission)
    (last : Option (Window β)) : Prop where
  inside : ∀ a ∈ l, a.now ≤ a.resetAt ∧ a.resetAt ≤ a.now + span
  spaced : ∀ a ∈ l, ∀ a' ∈ l, a.resetAt = a'.resetAt ∨ a.resetAt + span < a'.resetAt ∨
    a'.resetAt + span < a.resetAt
  latest : ∀ a ∈ l, ∃ w, last = some w ∧ (a.resetAt = w.resetAt ∨ a.resetAt + span < w.resetAt)
  recent : ∀ w, last = some w → w.resetAt ≤ now + span
  counted : ∀ w, last = some w → l.countP (·.resetAt = w.resetAt) ≤ w.counts bucket
  bounded : ∀ r, l.countP (·.resetAt = r) ≤ n

omit [DecidableEq β] in
theorem sound_nil (span : ℕ) (bucket : β) (n now : ℕ) :
    Sound span bucket n now [] none where
  inside _ h := by cases h
  spaced _ h := by cases h
  latest _ h := by cases h
  recent _ h := by cases h
  counted _ h := by cases h
  bounded _ := Nat.zero_le _

omit [DecidableEq β] in
/-- The window of the next use, before the use is counted. -/
theorem Sound.current {span : ℕ} {bucket : β} {n now now' : ℕ} {l : List Admission}
    {last : Option (Window β)} (h : Sound span bucket n now l last) (hle : now ≤ now') :
    Sound span bucket n now' l (some (current span now' last)) ∧
      now' ≤ (FixedWindow.current span now' last).resetAt := by
  rcases current_cases span now' last with ⟨w, hlast, hnow, hcur⟩ | ⟨hend, hcur⟩
  · rw [hcur]
    subst hlast
    refine ⟨⟨h.inside, h.spaced, h.latest, fun w' hw' => ?_, h.counted, h.bounded⟩, hnow⟩
    have := h.recent w' hw'
    omega
  · rw [hcur]
    have hlate : ∀ a ∈ l, a.resetAt < now' := by
      intro a ha
      obtain ⟨w, hw, hage⟩ := h.latest a ha
      have := hend w hw
      omega
    refine ⟨⟨h.inside, h.spaced, fun a ha => ⟨_, rfl, .inr ?_⟩, ?_, ?_, h.bounded⟩, by simp⟩
    · have := hlate a ha
      dsimp only
      omega
    · rintro w ⟨⟩
      exact le_rfl
    · rintro w ⟨⟩
      rw [Nat.le_zero, List.countP_eq_zero]
      intro a ha heq
      have := hlate a ha
      rw [decide_eq_true_eq] at heq
      dsimp only at heq
      omega

/-- Counting a use that is not logged. -/
theorem Sound.count {span : ℕ} {bucket : β} {n now : ℕ} {l : List Admission} {w : Window β}
    (h : Sound span bucket n now l (some w)) (b : β) :
    Sound span bucket n now l (some (w.count b)) where
  inside := h.inside
  spaced := h.spaced
  latest a ha := by
    obtain ⟨w', hw', hage⟩ := h.latest a ha
    cases hw'
    exact ⟨_, rfl, hage⟩
  recent := by
    rintro w' ⟨⟩
    exact h.recent w rfl
  counted := by
    rintro w' ⟨⟩
    exact (h.counted w rfl).trans (counts_le_count w b bucket)
  bounded := h.bounded

/-- Counting a use that is logged, within the limit. -/
theorem Sound.admit {span : ℕ} {bucket : β} {n now : ℕ} {l : List Admission} {w : Window β}
    (h : Sound span bucket n now l (some w)) (hnow : now ≤ w.resetAt)
    (hroom : w.counts bucket + 1 ≤ n) :
    Sound span bucket n now (l ++ [⟨now, w.resetAt⟩]) (some (w.count bucket)) where
  inside a ha := by
    rcases List.mem_append.1 ha with ha | ha
    · exact h.inside a ha
    · rw [List.mem_singleton.1 ha]
      exact ⟨hnow, h.recent w rfl⟩
  spaced a ha a' ha' := by
    have hlast : ∀ a ∈ l, a.resetAt = w.resetAt ∨ a.resetAt + span < w.resetAt := by
      intro a ha
      obtain ⟨w', hw', hage⟩ := h.latest a ha
      rwa [Option.some.inj hw']
    rcases List.mem_append.1 ha with ha | ha <;> rcases List.mem_append.1 ha' with ha' | ha'
    · exact h.spaced a ha a' ha'
    · rw [List.mem_singleton.1 ha']
      exact (hlast a ha).imp_right .inl
    · rw [List.mem_singleton.1 ha]
      exact (hlast a' ha').imp Eq.symm .inr
    · rw [List.mem_singleton.1 ha, List.mem_singleton.1 ha']
      exact .inl rfl
  latest a ha := by
    refine ⟨_, rfl, ?_⟩
    rcases List.mem_append.1 ha with ha | ha
    · obtain ⟨w', hw', hage⟩ := h.latest a ha
      cases hw'
      exact hage
    · rw [List.mem_singleton.1 ha]
      exact .inl rfl
  recent := by
    rintro w' ⟨⟩
    exact h.recent w rfl
  counted := by
    rintro w' ⟨⟩
    have hold := h.counted w rfl
    rw [List.countP_append, List.countP_singleton, count_resetAt, count_counts_self,
      if_pos (decide_eq_true rfl)]
    omega
  bounded r := by
    have hold := h.counted w rfl
    rw [List.countP_append, List.countP_singleton]
    split
    next hr =>
      rw [decide_eq_true_eq] at hr
      subst hr
      dsimp only
      omega
    next => exact h.bounded r

theorem Sound.step {span : ℕ} {bucket : β} {n now : ℕ} {l : List Admission}
    {last : Option (Window β)} (h : Sound span bucket n now l last) {u : Use β}
    (hle : now ≤ u.now) (hlimit : u.bucket = bucket → u.limit = n) :
    Sound span bucket n u.now (l ++ (admission? span bucket last u).toList)
      (step span last u) := by
  obtain ⟨hcurrent, hnow⟩ := h.current hle
  unfold FixedWindow.step admission?
  split
  next hallowed =>
    obtain ⟨rfl, hallows⟩ := hallowed
    rw [allows, decide_eq_true_eq, count_counts_self, hlimit rfl] at hallows
    exact hcurrent.admit hnow hallows
  next =>
    rw [Option.toList_none, List.append_nil]
    exact hcurrent.count u.bucket

omit [DecidableEq β] in
theorem Sound.mono {span : ℕ} {bucket : β} {n now now' : ℕ} {l : List Admission}
    {last : Option (Window β)} (h : Sound span bucket n now l last) (hle : now ≤ now') :
    Sound span bucket n now' l last :=
  { h with recent := fun w hw => (h.recent w hw).trans (Nat.add_le_add_right hle span) }

/-- Under a clock that never goes back, the allowed uses of a bucket with one limit. -/
theorem sound_admitted (span : ℕ) (bucket : β) (n : ℕ) {uses : List (Use β)}
    (hclock : (uses.map Use.now).Pairwise (· ≤ ·))
    (hlimit : ∀ u ∈ uses, u.bucket = bucket → u.limit = n) :
    ∀ now, (∀ u ∈ uses, u.now ≤ now) →
      Sound span bucket n now (admitted span bucket uses) (Runs.run (step span) none uses) := by
  induction uses using List.reverseRecOn with
  | nil => exact fun now _ => sound_nil span bucket n now
  | append_singleton uses u ih =>
    intro now hnow
    rw [List.map_append, List.pairwise_append] at hclock
    have hbefore : ∀ u' ∈ uses, u'.now ≤ u.now := fun u' hu' =>
      hclock.2.2 _ (List.mem_map_of_mem hu') _ (List.mem_singleton_self _)
    have hsound := ih hclock.1 (fun u hu => hlimit u (List.mem_append_left _ hu)) u.now hbefore
    have hlast : u ∈ uses ++ [u] := List.mem_append_right _ (List.mem_singleton_self _)
    rw [Runs.run_snoc, admitted, Runs.collect_snoc]
    exact (hsound.step le_rfl (hlimit u hlast)).mono (hnow u hlast)

/-! ## How many uses an interval allows -/

/-- A list on which a function has at most two values, each at most `n` times. -/
theorem length_le_of_two_values {α : Type*} {f : α → ℕ} {n : ℕ} {l : List α}
    (htwo : ∀ a ∈ l, ∀ b ∈ l, ∀ c ∈ l, f a = f b ∨ f b = f c ∨ f a = f c)
    (hn : ∀ r, l.countP (f · = r) ≤ n) : l.length ≤ 2 * n := by
  cases l with
  | nil => exact Nat.zero_le _
  | cons a l =>
    rw [List.length_eq_countP_add_countP (f · = f a)]
    have hfirst := hn (f a)
    have hrest : (a :: l).countP (fun b => ¬(decide (f b = f a)) = true) ≤ n := by
      by_cases hother : ∃ c ∈ a :: l, f c ≠ f a
      · obtain ⟨c, hc, hne⟩ := hother
        refine (List.countP_mono_left fun b hb hba => ?_).trans (hn (f c))
        rw [decide_eq_true_eq, decide_eq_true_eq] at hba
        rw [decide_eq_true_eq]
        rcases htwo a List.mem_cons_self b hb c hc with h | h | h
        · exact absurd h.symm hba
        · exact h
        · exact absurd h.symm hne
      · push Not at hother
        refine (List.countP_eq_zero.2 fun b hb => ?_).le.trans (Nat.zero_le n)
        simp [hother b hb]
    omega

omit [DecidableEq β] in
/-- An interval no longer than a window meets at most two windows. -/
theorem Sound.countP_interval_le {span : ℕ} {bucket : β} {n now : ℕ} {l : List Admission}
    {last : Option (Window β)} (h : Sound span bucket n now l last) {lo hi : ℕ}
    (hspan : hi ≤ lo + span) : l.countP (fun a => lo ≤ a.now ∧ a.now ≤ hi) ≤ 2 * n := by
  rw [List.countP_eq_length_filter]
  have hmem : ∀ a ∈ l.filter (fun a => lo ≤ a.now ∧ a.now ≤ hi), a ∈ l ∧ lo ≤ a.now ∧ a.now ≤ hi :=
    fun a ha => by simpa using ha
  refine length_le_of_two_values (f := Admission.resetAt) (fun a ha b hb c hc => ?_) fun r =>
    List.filter_sublist.countP_le.trans (h.bounded r)
  obtain ⟨ha, hlo, hhi⟩ := hmem a ha
  obtain ⟨hb, hlo', hhi'⟩ := hmem b hb
  obtain ⟨hc, hlo'', hhi''⟩ := hmem c hc
  have := h.inside a ha
  have := h.inside b hb
  have := h.inside c hc
  have := h.spaced a ha b hb
  have := h.spaced b hb c hc
  have := h.spaced a ha c hc
  omega

end FixedWindow
