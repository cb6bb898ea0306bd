import QrlBackend.Runs

/-!
# Callbacks

A client may send a callback with a request, which is to be called once. Most requests are
answered in the step they come in. A handler that waits leaves its request open, and the step in
which the handler ends answers it, unless the client has gone by then. A client has at most one
request open.

`Serves` is what one step does for a client. If every step of a run does that, each answer of
the run belongs to a request of its own (`exists_accounts`), and only a request whose handler
waits, or waited when the client left, is without one.
-/

set_option autoImplicit false

open Runs

namespace Callbacks

variable {σ ε ρ : Type*}

/-- Where a client stands. It is `waiting` while a request of its is open. -/
inductive Phase where
  | absent
  | idle
  | waiting
  | gone
  deriving DecidableEq

/-- What there is to see of a client. -/
structure Desk (σ ε ρ : Type*) where
  /-- The event is a request of the client with a callback. -/
  asks : σ → ε → Prop
  /-- The handler of the request may wait. -/
  slow : ε → Prop
  /-- What may answer a request. -/
  Answers : ε → ρ → Prop
  phase : σ → Phase
  answers : σ → List ρ

/-- What one step does for the client. -/
inductive Desk.Serves (d : Desk σ ε ρ) (s : σ) (e : ε) (s' : σ) : Prop
  | kept (hasks : ¬d.asks s e) (hphase : d.phase s' = d.phase s)
      (hanswers : d.answers s' = d.answers s)
  | came (hasks : ¬d.asks s e) (habsent : d.phase s = .absent) (hidle : d.phase s' = .idle)
      (hanswers : d.answers s' = d.answers s)
  | went (hasks : ¬d.asks s e) (hpresent : d.phase s ≠ .absent) (hgone : d.phase s' = .gone)
      (hanswers : d.answers s' = d.answers s)
  | answered (r : ρ) (hasks : d.asks s e) (hpresent : d.phase s = .idle ∨ d.phase s = .waiting)
      (hphase : d.phase s' = d.phase s) (hanswers : d.answers s' = d.answers s ++ [r])
      (hr : d.Answers e r)
  | opened (hasks : d.asks s e) (hslow : d.slow e) (hidle : d.phase s = .idle)
      (hwaiting : d.phase s' = .waiting) (hanswers : d.answers s' = d.answers s)
  | closed (r : ρ) (hasks : ¬d.asks s e) (hwaiting : d.phase s = .waiting)
      (hidle : d.phase s' = .idle) (hanswers : d.answers s' = d.answers s ++ [r])
      (hr : ∀ e', d.slow e' → d.Answers e' r)

section Runs

variable (d : Desk σ ε ρ) (step : σ → ε → σ) (init : σ)

/-- The event at a place of the run is a request of the client. -/
def Desk.Asked (es : List ε) (n : ℕ) (e : ε) : Prop :=
  es[n]? = some e ∧ d.asks (run step init (es.take n)) e

/-- Each answer of the run is ascribed to a request. -/
structure Desk.Accounts (es : List ε) (ledger : List (ℕ × ρ)) : Prop where
  answers : ledger.map Prod.snd = d.answers (run step init es)
  nodup : (ledger.map Prod.fst).Nodup
  fits : ∀ x ∈ ledger, ∃ e, d.Asked step init es x.1 e ∧ d.Answers e x.2
  absent : d.phase (run step init es) = .absent → ∀ n e, ¬d.Asked step init es n e
  /-- Only a request whose handler may wait has no answer, and only while the client waits or
  after it left. -/
  unanswered : ∀ n e, d.Asked step init es n e → n ∉ ledger.map Prod.fst →
    d.slow e ∧ (d.phase (run step init es) = .waiting ∨ d.phase (run step init es) = .gone)
  /-- One request is open while the client waits. -/
  waiting : d.phase (run step init es) = .waiting → ∃ n e, d.Asked step init es n e ∧
    n ∉ ledger.map Prod.fst ∧
      ∀ n' e', d.Asked step init es n' e' → n' ∉ ledger.map Prod.fst → n' = n

variable {d step init}

theorem Desk.asked_snoc {es : List ε} {e e' : ε} {n : ℕ} :
    d.Asked step init (es ++ [e]) n e' ↔ d.Asked step init es n e' ∨
      (n = es.length ∧ e' = e ∧ d.asks (run step init es) e) := by
  unfold Asked
  rcases Nat.lt_trichotomy n es.length with hn | rfl | hn
  · rw [List.getElem?_append_left hn, List.take_append_of_le_length (Nat.le_of_lt hn)]
    simp [Nat.ne_of_lt hn]
  · have hnone : es[es.length]? = none := List.getElem?_eq_none (Nat.le_refl _)
    rw [List.getElem?_concat_length, List.take_left' rfl, hnone]
    simp only [Option.some.injEq, reduceCtorEq, false_and, false_or, true_and]
    constructor
    · rintro ⟨rfl, h⟩
      exact ⟨rfl, h⟩
    · rintro ⟨rfl, h⟩
      exact ⟨rfl, h⟩
  · have hlength : (es ++ [e]).length ≤ n := by
      rw [List.length_append]
      exact hn
    rw [List.getElem?_eq_none hlength, List.getElem?_eq_none (Nat.le_of_lt hn)]
    simp [Nat.ne_of_gt hn]

theorem Desk.Asked.lt {es : List ε} {n : ℕ} {e : ε} (h : d.Asked step init es n e) :
    n < es.length :=
  (List.getElem?_eq_some_iff.1 h.1).1

theorem Desk.Asked.snoc {es : List ε} {e e' : ε} {n : ℕ} (h : d.Asked step init es n e') :
    d.Asked step init (es ++ [e]) n e' :=
  asked_snoc.2 (.inl h)

/-- A step without a request adds none. -/
theorem Desk.asked_snoc_of_not {es : List ε} {e e' : ε} {n : ℕ}
    (hasks : ¬d.asks (run step init es) e) :
    d.Asked step init (es ++ [e]) n e' ↔ d.Asked step init es n e' := by
  rw [asked_snoc]
  simp [hasks]

namespace Desk.Accounts

variable {es : List ε} {e : ε} {ledger : List (ℕ × ρ)}

theorem lt (h : d.Accounts step init es ledger) {n : ℕ} (hn : n ∈ ledger.map Prod.fst) :
    n < es.length := by
  obtain ⟨x, hx, rfl⟩ := List.mem_map.1 hn
  obtain ⟨_, hasked, -⟩ := h.fits x hx
  exact hasked.lt

/-- A new answer, ascribed to a request without one. -/
theorem nodup_snoc (h : d.Accounts step init es ledger) {n : ℕ} (r : ρ)
    (hn : n ∉ ledger.map Prod.fst) : ((ledger ++ [(n, r)]).map Prod.fst).Nodup := by
  rw [List.map_append, List.nodup_append]
  refine ⟨h.nodup, by simp, fun a ha b hb => ?_⟩
  rintro rfl
  obtain rfl : a = n := List.mem_singleton.1 hb
  exact hn ha

theorem not_mem_snoc {n m : ℕ} {r : ρ} (h : m ∉ (ledger ++ [(n, r)]).map Prod.fst) :
    m ∉ ledger.map Prod.fst ∧ m ≠ n := by
  simpa [not_or] using h

/-- Nothing was asked and nothing answered. -/
theorem quiet (h : d.Accounts step init es ledger) (hasks : ¬d.asks (run step init es) e)
    (hanswers : d.answers (run step init (es ++ [e])) = d.answers (run step init es))
    (habsent : d.phase (run step init (es ++ [e])) = .absent →
      d.phase (run step init es) = .absent)
    (hwaiting : d.phase (run step init (es ++ [e])) = .waiting →
      d.phase (run step init es) = .waiting)
    (hopen : d.phase (run step init es) = .waiting ∨ d.phase (run step init es) = .gone →
      d.phase (run step init (es ++ [e])) = .waiting ∨
        d.phase (run step init (es ++ [e])) = .gone) :
    d.Accounts step init (es ++ [e]) ledger where
  answers := h.answers.trans hanswers.symm
  nodup := h.nodup
  fits x hx := by
    obtain ⟨e', hasked, hr⟩ := h.fits x hx
    exact ⟨e', hasked.snoc, hr⟩
  absent hphase n e' hasked :=
    h.absent (habsent hphase) n e' ((asked_snoc_of_not hasks).1 hasked)
  unanswered n e' hasked hn := by
    obtain ⟨hslow, hphase⟩ := h.unanswered n e' ((asked_snoc_of_not hasks).1 hasked) hn
    exact ⟨hslow, hopen hphase⟩
  waiting hphase := by
    obtain ⟨n, e', hasked, hn, honly⟩ := h.waiting (hwaiting hphase)
    exact ⟨n, e', hasked.snoc, hn, fun n' e'' hasked' =>
      honly n' e'' ((asked_snoc_of_not hasks).1 hasked')⟩

/-- The request is answered at once. -/
theorem answered (h : d.Accounts step init es ledger) {r : ρ} (hasks : d.asks (run step init es) e)
    (hpresent : d.phase (run step init es) = .idle ∨ d.phase (run step init es) = .waiting)
    (hphase : d.phase (run step init (es ++ [e])) = d.phase (run step init es))
    (hanswers : d.answers (run step init (es ++ [e])) = d.answers (run step init es) ++ [r])
    (hr : d.Answers e r) : d.Accounts step init (es ++ [e]) (ledger ++ [(es.length, r)]) where
  answers := by rw [List.map_append, h.answers, hanswers]; rfl
  nodup := h.nodup_snoc r fun hn => absurd (h.lt hn) (Nat.lt_irrefl _)
  fits x hx := by
    rcases List.mem_append.1 hx with hx | hx
    · obtain ⟨e', hasked, hr⟩ := h.fits x hx
      exact ⟨e', hasked.snoc, hr⟩
    · obtain rfl := List.mem_singleton.1 hx
      exact ⟨e, asked_snoc.2 (.inr ⟨rfl, rfl, hasks⟩), hr⟩
  absent habsent := by
    rw [hphase] at habsent
    rcases hpresent with hidle | hwaiting
    · cases habsent.symm.trans hidle
    · cases habsent.symm.trans hwaiting
  unanswered n e' hasked hn := by
    obtain ⟨hn, hne⟩ := not_mem_snoc hn
    rw [hphase]
    rcases asked_snoc.1 hasked with hasked | ⟨hlast, -, -⟩
    · exact h.unanswered n e' hasked hn
    · exact absurd hlast hne
  waiting hwaiting := by
    obtain ⟨n, e', hasked, hn, honly⟩ := h.waiting (hphase ▸ hwaiting)
    refine ⟨n, e', hasked.snoc, ?_, fun n' e'' hasked' hn' => ?_⟩
    · simp only [List.map_append, List.mem_append, not_or]
      exact ⟨hn, by simpa using Nat.ne_of_lt hasked.lt⟩
    · obtain ⟨hn', hne⟩ := not_mem_snoc hn'
      rcases asked_snoc.1 hasked' with hasked' | ⟨hlast, -, -⟩
      · exact honly n' e'' hasked' hn'
      · exact absurd hlast hne

/-- The handler of the request waits. -/
theorem opened (h : d.Accounts step init es ledger) (hasks : d.asks (run step init es) e)
    (hslow : d.slow e)
    (hidle : d.phase (run step init es) = .idle)
    (hwaiting : d.phase (run step init (es ++ [e])) = .waiting)
    (hanswers : d.answers (run step init (es ++ [e])) = d.answers (run step init es)) :
    d.Accounts step init (es ++ [e]) ledger where
  answers := h.answers.trans hanswers.symm
  nodup := h.nodup
  fits x hx := by
    obtain ⟨e', hasked, hr⟩ := h.fits x hx
    exact ⟨e', hasked.snoc, hr⟩
  absent habsent := by cases habsent.symm.trans hwaiting
  unanswered n e' hasked hn := by
    rcases asked_snoc.1 hasked with hasked | ⟨-, rfl, -⟩
    · obtain ⟨-, hphase⟩ := h.unanswered n e' hasked hn
      rw [hidle] at hphase
      rcases hphase with hphase | hphase <;> cases hphase
    · exact ⟨hslow, .inl hwaiting⟩
  waiting _ := by
    refine ⟨es.length, e, asked_snoc.2 (.inr ⟨rfl, rfl, hasks⟩),
      fun hn => absurd (h.lt hn) (Nat.lt_irrefl _), fun n e' hasked hn => ?_⟩
    rcases asked_snoc.1 hasked with hasked | ⟨hlast, -, -⟩
    · obtain ⟨-, hphase⟩ := h.unanswered n e' hasked hn
      rw [hidle] at hphase
      rcases hphase with hphase | hphase <;> cases hphase
    · exact hlast

/-- The handler that waited answers its request. -/
theorem closed (h : d.Accounts step init es ledger) {r : ρ} (hasks : ¬d.asks (run step init es) e)
    (hwaiting : d.phase (run step init es) = .waiting)
    (hidle : d.phase (run step init (es ++ [e])) = .idle)
    (hanswers : d.answers (run step init (es ++ [e])) = d.answers (run step init es) ++ [r])
    (hr : ∀ e', d.slow e' → d.Answers e' r) :
    ∃ n, d.Accounts step init (es ++ [e]) (ledger ++ [(n, r)]) := by
  obtain ⟨n, e', hasked, hn, honly⟩ := h.waiting hwaiting
  refine ⟨n, ?_, h.nodup_snoc r hn, fun x hx => ?_, fun habsent => ?_,
    fun n' e'' hasked' hn' => ?_, fun hwaiting' => ?_⟩
  · rw [List.map_append, h.answers, hanswers]
    rfl
  · rcases List.mem_append.1 hx with hx | hx
    · obtain ⟨e', hasked, hr⟩ := h.fits x hx
      exact ⟨e', hasked.snoc, hr⟩
    · obtain rfl := List.mem_singleton.1 hx
      exact ⟨e', hasked.snoc, hr e' (h.unanswered n e' hasked hn).1⟩
  · cases habsent.symm.trans hidle
  · obtain ⟨hn', hne⟩ := not_mem_snoc hn'
    exact absurd (honly n' e'' ((asked_snoc_of_not hasks).1 hasked') hn') hne
  · cases hwaiting'.symm.trans hidle

end Desk.Accounts

variable (d step init)

/-- If every step of a run serves the client, its answers can be ascribed to its requests. -/
theorem Desk.exists_accounts (habsent : d.phase init = .absent) (hnone : d.answers init = [])
    (hstep : ∀ es e, d.Serves (run step init es) e (step (run step init es) e)) (es : List ε) :
    ∃ ledger, d.Accounts step init es ledger := by
  induction es using List.reverseRecOn with
  | nil =>
    have hasked : ∀ n e, ¬d.Asked step init [] n e :=
      fun n e h => absurd h.lt (Nat.not_lt_zero n)
    refine ⟨[], hnone.symm, List.nodup_nil, List.forall_mem_nil _, fun _ => hasked,
      fun n e h => absurd h (hasked n e), fun hwaiting => ?_⟩
    cases habsent.symm.trans hwaiting
  | append_singleton es e ih =>
    obtain ⟨ledger, h⟩ := ih
    have hserves := hstep es e
    have hsnoc : run step init (es ++ [e]) = step (run step init es) e := run_snoc init es e
    rw [← hsnoc] at hserves
    cases hserves with
    | kept hasks hphase hanswers =>
      exact ⟨ledger, h.quiet hasks hanswers (fun hp => hphase ▸ hp) (fun hp => hphase ▸ hp)
        fun hp => by rwa [hphase]⟩
    | came hasks habsent hidle hanswers =>
      refine ⟨ledger, h.quiet hasks hanswers (fun _ => habsent) (fun hp => ?_) fun hp => ?_⟩
      · cases hp.symm.trans hidle
      · rw [habsent] at hp
        rcases hp with hp | hp <;> cases hp
    | went hasks hpresent hgone hanswers =>
      refine ⟨ledger, h.quiet hasks hanswers (fun hp => ?_) (fun hp => ?_) fun _ => .inr hgone⟩
      · cases hp.symm.trans hgone
      · cases hp.symm.trans hgone
    | answered r hasks hpresent hphase hanswers hr =>
      exact ⟨_, h.answered hasks hpresent hphase hanswers hr⟩
    | opened hasks hslow hidle hwaiting hanswers =>
      exact ⟨ledger, h.opened hasks hslow hidle hwaiting hanswers⟩
    | closed r hasks hwaiting hidle hanswers hr =>
      obtain ⟨n, h'⟩ := h.closed hasks hwaiting hidle hanswers hr
      exact ⟨_, h'⟩

variable {d step init}

/-- A request whose handler does not wait is answered in its own step. -/
theorem Desk.Asked.answered_at_once {es : List ε} {n : ℕ} {e : ε}
    (hasked : d.Asked step init es n e) (hslow : ¬d.slow e)
    (hstep : ∀ es e, d.Serves (run step init es) e (step (run step init es) e)) :
    ∃ r, d.Answers e r ∧ d.answers (run step init (es.take (n + 1))) =
      d.answers (run step init (es.take n)) ++ [r] := by
  obtain ⟨hget, hasks⟩ := hasked
  have htake : es.take (n + 1) = es.take n ++ [e] := by
    rw [List.take_add_one, hget]
    rfl
  rw [htake, run_snoc]
  cases hstep (es.take n) e with
  | kept hno | came hno | went hno | closed _ hno => exact absurd hasks hno
  | answered r _ _ _ hanswers hr => exact ⟨r, hr, hanswers⟩
  | opened _ hmay => exact absurd hmay hslow

end Runs

end Callbacks
