import Mathlib.Data.List.Basic

/-!
# Delivery in order, stream by stream

Messages of many streams are accepted, wait in queues, and are handed over or get lost. A
queue can hold messages of many streams.

`Step` lists what a system of queues may do : lose messages, accept one at the end of a queue
or hand it over at once, move messages to another queue, and hand over from a queue. The
conditions are that a stream never waits in two queues, and that what stays in a queue is
not earlier than what is handed over from it. Every step keeps `Ordered`, so in each stream
the messages are handed over in the order in which they were accepted (`Ordered.handed`).
-/

set_option autoImplicit false

namespace Streams

/-- The accepted messages, the messages handed over, and the queues. -/
structure State (P M : Type*) where
  accepted : List M
  handed : List M
  queue : P → List M

variable {P M K : Type*} [DecidableEq P] [DecidableEq K] (stream : M → K)

/-- The messages of one stream. -/
def ofStream (κ : K) (l : List M) : List M := l.filter (stream · = κ)

/-- What a step may do to the queues. -/
inductive Step (σ σ' : State P M) : Prop
  | lose (haccepted : σ'.accepted = σ.accepted) (hhanded : σ'.handed = σ.handed)
      (hqueue : ∀ p, (σ'.queue p).Sublist (σ.queue p))
  | accept (m : M) (p : P) (hapart : ∀ p' ≠ p, ∀ m' ∈ σ.queue p', stream m' ≠ stream m)
      (haccepted : σ'.accepted = σ.accepted ++ [m]) (hhanded : σ'.handed = σ.handed)
      (hqueue : ∀ p', (σ'.queue p').Sublist (if p' = p then σ.queue p ++ [m] else σ.queue p'))
  | direct (m : M) (hnone : ∀ p, ∀ m' ∈ σ.queue p, stream m' ≠ stream m)
      (haccepted : σ'.accepted = σ.accepted ++ [m]) (hhanded : σ'.handed = σ.handed ++ [m])
      (hqueue : ∀ p, (σ'.queue p).Sublist (σ.queue p))
  /-- Whole streams move from one queue to another, in place of what was there. -/
  | move (p q : P) (moves : M → Bool)
      (hstreams : ∀ m ∈ σ.queue p, ∀ m' ∈ σ.queue p, stream m = stream m' → moves m = moves m')
      (haccepted : σ'.accepted = σ.accepted) (hhanded : σ'.handed = σ.handed)
      (hqueue : ∀ p', (σ'.queue p').Sublist (if p' = q then (σ.queue p).filter moves else
        if p' = p then (σ.queue p).filter (!moves ·) else σ.queue p'))
  | hand (p : P) (out : List M)
      (hfirst : ∀ κ, (ofStream stream κ (out ++ σ'.queue p)).Sublist
        (ofStream stream κ (σ.queue p)))
      (haccepted : σ'.accepted = σ.accepted) (hhanded : σ'.handed = σ.handed ++ out)
      (hqueue : ∀ p' ≠ p, (σ'.queue p').Sublist (σ.queue p'))

/-- No stream waits in two queues, and what waits comes after what was handed over. -/
structure Ordered (σ : State P M) : Prop where
  apart : ∀ p p', p ≠ p' → ∀ m ∈ σ.queue p, ∀ m' ∈ σ.queue p', stream m ≠ stream m'
  sublist : ∀ κ p,
    (ofStream stream κ (σ.handed ++ σ.queue p)).Sublist (ofStream stream κ σ.accepted)

variable {stream}

omit [DecidableEq P] in
/-- In each stream the messages are handed over in the order in which they were accepted, and
none twice. -/
theorem Ordered.handed [Nonempty P] {σ : State P M} (h : Ordered stream σ) (κ : K) :
    (ofStream stream κ σ.handed).Sublist (ofStream stream κ σ.accepted) := by
  obtain ⟨p⟩ := ‹Nonempty P›
  exact ((List.sublist_append_left σ.handed (σ.queue p)).filter _).trans (h.sublist κ p)

omit [DecidableEq P] in
/-- At first nothing is out of order. -/
theorem ordered_empty {σ : State P M} (hhanded : σ.handed = []) (hqueue : ∀ p, σ.queue p = []) :
    Ordered stream σ where
  apart p _ _ m hm := by simp [hqueue] at hm
  sublist κ p := by simp [ofStream, hhanded, hqueue]

/-! ## Streams of lists -/

theorem ofStream_append (κ : K) (l l' : List M) :
    ofStream stream κ (l ++ l') = ofStream stream κ l ++ ofStream stream κ l' :=
  List.filter_append _ _

theorem mem_ofStream {κ : K} {l : List M} {m : M} :
    m ∈ ofStream stream κ l ↔ m ∈ l ∧ stream m = κ := by
  simp [ofStream]

theorem ofStream_sublist {l l' : List M} (h : l.Sublist l') (κ : K) :
    (ofStream stream κ l).Sublist (ofStream stream κ l') :=
  h.filter _

theorem ofStream_eq_nil {κ : K} {l : List M} (h : ∀ m ∈ l, stream m ≠ κ) :
    ofStream stream κ l = [] :=
  List.filter_eq_nil_iff.2 fun m hm => by simpa using h m hm

omit [DecidableEq P] in
/-- Taking whole streams out of a list keeps the order in each stream. -/
theorem ofStream_partition {l : List M} {moves : M → Bool}
    (hstreams : ∀ m ∈ l, ∀ m' ∈ l, stream m = stream m' → moves m = moves m') (κ : K) :
    (ofStream stream κ (l.filter moves ++ l.filter (!moves ·))).Sublist (ofStream stream κ l) := by
  rw [ofStream_append]
  by_cases hsome : ∃ m ∈ l, stream m = κ ∧ moves m = true
  · obtain ⟨m, hm, rfl, hmoves⟩ := hsome
    have hnil : ofStream stream (stream m) (l.filter (!moves ·)) = [] := by
      refine ofStream_eq_nil fun m' hm' hstream => ?_
      obtain ⟨hm', hstays⟩ := List.mem_filter.1 hm'
      rw [hstreams m' hm' m hm hstream, hmoves] at hstays
      cases hstays
    rw [hnil, List.append_nil]
    exact ofStream_sublist List.filter_sublist _
  · have hnil : ofStream stream κ (l.filter moves) = [] := by
      refine ofStream_eq_nil fun m hm hstream => hsome ?_
      exact ⟨m, (List.mem_filter.1 hm).1, hstream, (List.mem_filter.1 hm).2⟩
    rw [hnil, List.nil_append]
    exact ofStream_sublist List.filter_sublist _

omit [DecidableEq P] in
/-- So does taking out the first message of a stream. -/
theorem ofStream_first {pre post : List M} {m : M} (hpre : ∀ m' ∈ pre, stream m' ≠ stream m)
    (κ : K) : (ofStream stream κ ([m] ++ (pre ++ post))).Sublist
      (ofStream stream κ (pre ++ m :: post)) := by
  by_cases hκ : stream m = κ
  · have hnil : ofStream stream κ pre = [] := ofStream_eq_nil (hκ ▸ hpre)
    rw [List.append_cons pre m post]
    simp only [ofStream_append, hnil, List.nil_append]
    exact .refl _
  · have hnil : ofStream stream κ [m] = [] := ofStream_eq_nil (by simpa using hκ)
    rw [ofStream_append, hnil, List.nil_append]
    exact ofStream_sublist ((List.Sublist.refl pre).append (List.sublist_cons_self m post)) κ

/-! ## Steps -/

omit [DecidableEq P] in
/-- Fewer messages wait. -/
theorem Ordered.lose {σ σ' : State P M} (h : Ordered stream σ)
    (haccepted : σ'.accepted = σ.accepted) (hhanded : σ'.handed = σ.handed)
    (hqueue : ∀ p, (σ'.queue p).Sublist (σ.queue p)) :
    Ordered stream σ' where
  apart p p' hp m hm m' hm' := h.apart p p' hp m ((hqueue p).subset hm) m' ((hqueue p').subset hm')
  sublist κ p := by
    rw [haccepted, hhanded]
    exact (ofStream_sublist ((hqueue p).append_left _) κ).trans (h.sublist κ p)

/-- A new element goes to the end of its queue. -/
theorem Ordered.accept {σ σ' : State P M} (h : Ordered stream σ) {m : M} {p : P}
    (hapart : ∀ p' ≠ p, ∀ m' ∈ σ.queue p', stream m' ≠ stream m)
    (haccepted : σ'.accepted = σ.accepted ++ [m]) (hhanded : σ'.handed = σ.handed)
    (hqueue : ∀ p', (σ'.queue p').Sublist (if p' = p then σ.queue p ++ [m] else σ.queue p')) :
    Ordered stream σ' where
  apart p₁ p₂ hne m₁ hm₁ m₂ hm₂ := by
    have hold : ∀ p', ∀ m' ∈ σ'.queue p', m' ∈ σ.queue p' ∨ p' = p ∧ m' = m := by
      intro p' m' hm'
      have hmem := (hqueue p').subset hm'
      split at hmem
      next hp =>
        rcases List.mem_append.1 hmem with hold | hnew
        · exact .inl (hp ▸ hold)
        · exact .inr ⟨hp, List.mem_singleton.1 hnew⟩
      next => exact .inl hmem
    rcases hold p₁ m₁ hm₁ with h₁ | ⟨rfl, rfl⟩
    · rcases hold p₂ m₂ hm₂ with h₂ | ⟨rfl, rfl⟩
      · exact h.apart p₁ p₂ hne m₁ h₁ m₂ h₂
      · exact hapart p₁ hne m₁ h₁
    · rcases hold p₂ m₂ hm₂ with h₂ | ⟨rfl, rfl⟩
      · exact (hapart p₂ hne.symm m₂ h₂).symm
      · exact absurd rfl hne
  sublist κ p' := by
    rw [haccepted, hhanded, ofStream_append κ σ.accepted]
    have hwait := hqueue p'
    split at hwait
    next hp =>
      have hsnoc : (ofStream stream κ (σ.handed ++ σ'.queue p')).Sublist
          (ofStream stream κ (σ.handed ++ (σ.queue p ++ [m]))) :=
        ofStream_sublist (hwait.append_left _) κ
      rw [← List.append_assoc, ofStream_append κ (σ.handed ++ σ.queue p)] at hsnoc
      exact hsnoc.trans ((h.sublist κ p).append_right _)
    next =>
      have hkept : (ofStream stream κ (σ.handed ++ σ'.queue p')).Sublist
          (ofStream stream κ (σ.handed ++ σ.queue p')) :=
        ofStream_sublist (hwait.append_left _) κ
      exact (hkept.trans (h.sublist κ p')).trans (List.sublist_append_left _ _)

omit [DecidableEq P] in
/-- An element whose stream is queued nowhere may be handed over at once. -/
theorem Ordered.direct {σ σ' : State P M} (h : Ordered stream σ) {m : M}
    (hnone : ∀ p, ∀ m' ∈ σ.queue p, stream m' ≠ stream m)
    (haccepted : σ'.accepted = σ.accepted ++ [m]) (hhanded : σ'.handed = σ.handed ++ [m])
    (hqueue : ∀ p, (σ'.queue p).Sublist (σ.queue p)) : Ordered stream σ' where
  apart p p' hp m₁ hm₁ m₂ hm₂ :=
    h.apart p p' hp m₁ ((hqueue p).subset hm₁) m₂ ((hqueue p').subset hm₂)
  sublist κ p := by
    have hsub := h.sublist κ p
    rw [haccepted, hhanded]
    simp only [ofStream_append] at hsub ⊢
    by_cases hκ : stream m = κ
    · have hnil : ofStream stream κ (σ'.queue p) = [] :=
        ofStream_eq_nil fun m' hm' => hκ ▸ hnone p m' ((hqueue p).subset hm')
      rw [hnil, List.append_nil]
      exact ((List.sublist_append_left _ _).trans hsub).append_right _
    · have hnil : ofStream stream κ [m] = [] := ofStream_eq_nil (by simpa using hκ)
      rw [hnil, List.append_nil, List.append_nil]
      exact ((ofStream_sublist (hqueue p) κ).append_left _).trans hsub

/-- Streams that move as a whole stay in order. -/
theorem Ordered.move {σ σ' : State P M} (h : Ordered stream σ) {p q : P} {moves : M → Bool}
    (hstreams : ∀ m ∈ σ.queue p, ∀ m' ∈ σ.queue p, stream m = stream m' → moves m = moves m')
    (haccepted : σ'.accepted = σ.accepted) (hhanded : σ'.handed = σ.handed)
    (hqueue : ∀ p', (σ'.queue p').Sublist (if p' = q then (σ.queue p).filter moves else
      if p' = p then (σ.queue p).filter (!moves ·) else σ.queue p')) :
    Ordered stream σ' where
  apart p₁ p₂ hne m₁ hm₁ m₂ hm₂ := by
    have hmoved : ∀ m' ∈ σ'.queue q, m' ∈ σ.queue p ∧ moves m' = true := by
      intro m' hm'
      have hmem := (hqueue q).subset hm'
      rw [if_pos rfl] at hmem
      exact List.mem_filter.1 hmem
    have hkept : ∀ p' ≠ q, ∀ m' ∈ σ'.queue p', m' ∈ σ.queue p' ∧ (p' = p → moves m' = false) := by
      intro p' hp' m' hm'
      have hmem := (hqueue p').subset hm'
      rw [if_neg hp'] at hmem
      split at hmem
      next hp =>
        obtain ⟨hmem, hmoves⟩ := List.mem_filter.1 hmem
        exact ⟨hp ▸ hmem, fun _ => by simpa using hmoves⟩
      next hp => exact ⟨hmem, fun hp' => absurd hp' hp⟩
    -- a moved message and one that stayed
    have hacross : ∀ p' ≠ q, ∀ m ∈ σ'.queue q, ∀ m' ∈ σ'.queue p', stream m ≠ stream m' := by
      intro p' hp' m hm m' hm' hstream
      obtain ⟨hm, hmoves⟩ := hmoved m hm
      obtain ⟨hm', hstays⟩ := hkept p' hp' m' hm'
      by_cases hp : p' = p
      · subst hp
        have hsame := hstreams m hm m' hm' hstream
        rw [hmoves, hstays rfl] at hsame
        cases hsame
      · exact h.apart p p' (Ne.symm hp) m hm m' hm' hstream
    by_cases h₁ : p₁ = q
    · subst h₁
      exact hacross p₂ hne.symm m₁ hm₁ m₂ hm₂
    · by_cases h₂ : p₂ = q
      · subst h₂
        exact (hacross p₁ hne m₂ hm₂ m₁ hm₁).symm
      · exact h.apart p₁ p₂ hne m₁ (hkept p₁ h₁ m₁ hm₁).1 m₂ (hkept p₂ h₂ m₂ hm₂).1
  sublist κ p' := by
    rw [haccepted, hhanded]
    obtain ⟨p₀, hfrom⟩ : ∃ p₀, (σ'.queue p').Sublist (σ.queue p₀) := by
      have hwait := hqueue p'
      split at hwait
      · exact ⟨p, hwait.trans List.filter_sublist⟩
      · split at hwait
        · exact ⟨p, hwait.trans List.filter_sublist⟩
        · exact ⟨p', hwait⟩
    exact (ofStream_sublist (hfrom.append_left _) κ).trans (h.sublist κ p₀)

/-- What is handed over comes first in its streams. -/
theorem Ordered.hand {σ σ' : State P M} (h : Ordered stream σ) {p : P} {out : List M}
    (hfirst : ∀ κ, (ofStream stream κ (out ++ σ'.queue p)).Sublist (ofStream stream κ (σ.queue p)))
    (haccepted : σ'.accepted = σ.accepted) (hhanded : σ'.handed = σ.handed ++ out)
    (hqueue : ∀ p' ≠ p, (σ'.queue p').Sublist (σ.queue p')) : Ordered stream σ' where
  apart p₁ p₂ hne m₁ hm₁ m₂ hm₂ := by
    have hold : ∀ p', ∀ m' ∈ σ'.queue p', m' ∈ σ.queue p' := by
      intro p' m' hm'
      by_cases hp : p' = p
      · subst hp
        have hmem := (hfirst (stream m')).subset
          (mem_ofStream.2 ⟨List.mem_append_right _ hm', rfl⟩)
        exact (mem_ofStream.1 hmem).1
      · exact (hqueue p' hp).subset hm'
    exact h.apart p₁ p₂ hne m₁ (hold p₁ m₁ hm₁) m₂ (hold p₂ m₂ hm₂)
  sublist κ p' := by
    have hsub := h.sublist κ
    have hfirst := hfirst κ
    rw [haccepted, hhanded]
    simp only [ofStream_append, List.append_assoc] at hsub hfirst ⊢
    by_cases hp : p' = p
    · subst hp
      exact (hfirst.append_left _).trans (hsub p')
    by_cases hout : ofStream stream κ out = []
    · rw [hout, List.nil_append]
      exact ((ofStream_sublist (hqueue p' hp) κ).append_left _).trans (hsub p')
    · -- the stream waited in the queue it was handed over from, so in no other
      obtain ⟨m, hm⟩ := List.exists_mem_of_ne_nil _ hout
      obtain ⟨hm, hκ⟩ := mem_ofStream.1 (hfirst.subset (List.mem_append_left _ hm))
      have hnil : ofStream stream κ (σ'.queue p') = [] := ofStream_eq_nil fun m' hm' =>
        hκ ▸ h.apart p' p hp m' ((hqueue p' hp).subset hm') m hm
      rw [hnil, List.append_nil]
      exact (((List.sublist_append_left _ _).trans hfirst).append_left _).trans (hsub p)

/-- Every step keeps the order. -/
theorem Step.ordered {σ σ' : State P M} (hstep : Step stream σ σ') (h : Ordered stream σ) :
    Ordered stream σ' := by
  cases hstep with
  | lose haccepted hhanded hqueue => exact h.lose haccepted hhanded hqueue
  | accept m p hapart haccepted hhanded hqueue => exact h.accept hapart haccepted hhanded hqueue
  | direct m hnone haccepted hhanded hqueue => exact h.direct hnone haccepted hhanded hqueue
  | move p q moves hstreams haccepted hhanded hqueue =>
    exact h.move hstreams haccepted hhanded hqueue
  | hand p out hfirst haccepted hhanded hqueue => exact h.hand hfirst haccepted hhanded hqueue

end Streams
