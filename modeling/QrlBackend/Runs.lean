import Mathlib.Algebra.Group.Nat.Defs
import Mathlib.Data.List.Basic
import Mathlib.Data.List.Induction

/-!
# Runs of a step function

A deterministic system is a step function on states and events. A run is a list of
events, and what the environment promises about it is a condition on each step
(`Guarded`). Whatever holds initially and is kept by every step that meets the condition
holds at the end of the run (`Guarded.run_invariant`), and so in every state the run
passes, because a prefix of a guarded run is guarded (`Guarded.of_append`). A step may
also use what is known of every state the run reaches (`Guarded.run_reached`).

`tally` adds a count over the steps of a run, `collect` lists what they produce, and
`latest?` finds the last step that meets a condition. Each reads an event in the state it
happens in. `part_run` is the run of a part of the system.
-/

set_option autoImplicit false

namespace Runs

variable {σ ε : Type*}

/-- The state after the events `es`. -/
def run (step : σ → ε → σ) (s : σ) (es : List ε) : σ := es.foldl step s

/-- Every event of the run meets the condition in the state it happens in. -/
def Guarded (step : σ → ε → σ) (ok : σ → ε → Prop) : σ → List ε → Prop
  | _, [] => True
  | s, e :: es => ok s e ∧ Guarded step ok (step s e) es

instance decidableGuarded (step : σ → ε → σ) (ok : σ → ε → Prop) [∀ s e, Decidable (ok s e)] :
    ∀ (s : σ) (es : List ε), Decidable (Guarded step ok s es)
  | _, [] => isTrue trivial
  | s, e :: es =>
    have := decidableGuarded step ok (step s e) es
    inferInstanceAs (Decidable (ok s e ∧ Guarded step ok (step s e) es))

variable {step : σ → ε → σ} {ok : σ → ε → Prop}

@[simp] theorem run_nil (s : σ) : run step s [] = s := rfl

@[simp] theorem run_cons (s : σ) (e : ε) (es : List ε) :
    run step s (e :: es) = run step (step s e) es :=
  rfl

theorem run_append (s : σ) (es es' : List ε) :
    run step s (es ++ es') = run step (run step s es) es' :=
  List.foldl_append

theorem guarded_append {es es' : List ε} : ∀ {s : σ}, Guarded step ok s (es ++ es') ↔
    Guarded step ok s es ∧ Guarded step ok (run step s es) es' := by
  induction es with
  | nil => simp [Guarded]
  | cons e es ih =>
    intro s
    rw [List.cons_append, Guarded, Guarded, ih, run_cons, and_assoc]

/-- A prefix of a guarded run is guarded. -/
theorem Guarded.of_append {s : σ} {es es' : List ε} (h : Guarded step ok s (es ++ es')) :
    Guarded step ok s es :=
  (guarded_append.1 h).1

/-- A weaker condition guards more runs. -/
theorem Guarded.mono {ok' : σ → ε → Prop} (hok : ∀ s e, ok s e → ok' s e) {es : List ε} :
    ∀ {s : σ}, Guarded step ok s es → Guarded step ok' s es := by
  induction es with
  | nil => exact fun _ => trivial
  | cons e es ih => exact fun h => ⟨hok _ _ h.1, ih h.2⟩

/-- What every step of a guarded run keeps holds at its end. -/
theorem Guarded.run_invariant {I : σ → Prop} (hstep : ∀ s e, I s → ok s e → I (step s e))
    {es : List ε} : ∀ {s : σ}, Guarded step ok s es → I s → I (run step s es) := by
  induction es with
  | nil => exact fun _ h => h
  | cons e es ih => exact fun hg h => ih hg.2 (hstep _ _ h hg.1)

theorem guarded_true : ∀ (es : List ε) {s : σ}, Guarded step (fun _ _ => True) s es
  | [], _ => trivial
  | _ :: es, _ => ⟨trivial, guarded_true es⟩

/-- What every step keeps holds at the end of every run. -/
theorem run_invariant {I : σ → Prop} (hstep : ∀ s e, I s → I (step s e)) (es : List ε) {s : σ}
    (h : I s) : I (run step s es) :=
  (guarded_true es).run_invariant (fun s e hi _ => hstep s e hi) h

/-! ## Histories -/

@[simp] theorem run_snoc (s : σ) (es : List ε) (e : ε) :
    run step s (es ++ [e]) = step (run step s es) e := by
  rw [run_append, run_cons, run_nil]

theorem guarded_snoc {s : σ} {es : List ε} {e : ε} :
    Guarded step ok s (es ++ [e]) ↔ Guarded step ok s es ∧ ok (run step s es) e := by
  rw [guarded_append, Guarded, Guarded, and_true]

/-- What every step of a guarded run keeps, when it is taken in a state the run reaches. -/
theorem Guarded.run_reached {I : σ → Prop} {s : σ} (hinit : I s)
    (hstep : ∀ es e, I (run step s es) → ok (run step s es) e → I (step (run step s es) e))
    {es : List ε} (hguard : Guarded step ok s es) : I (run step s es) := by
  induction es using List.reverseRecOn with
  | nil => exact hinit
  | append_singleton es e ih =>
    obtain ⟨hguard, hok⟩ := guarded_snoc.1 hguard
    rw [run_snoc]
    exact hstep es e (ih hguard) hok

/-- The sum of a count over the steps of a run. -/
def tally (step : σ → ε → σ) (f : σ → ε → ℕ) : σ → List ε → ℕ
  | _, [] => 0
  | s, e :: es => f s e + tally step f (step s e) es

@[simp] theorem tally_snoc (f : σ → ε → ℕ) (es : List ε) (e : ε) : ∀ s : σ,
    tally step f s (es ++ [e]) = tally step f s es + f (run step s es) e := by
  induction es with
  | nil => simp [tally]
  | cons e' es ih =>
    intro s
    rw [List.cons_append, tally, tally, ih, run_cons, add_assoc]

/-- What the steps of a run produce, oldest first. -/
def collect {α : Type*} (step : σ → ε → σ) (f : σ → ε → Option α) : σ → List ε → List α
  | _, [] => []
  | s, e :: es => (f s e).toList ++ collect step f (step s e) es

@[simp] theorem collect_snoc {α : Type*} (f : σ → ε → Option α) (es : List ε) (e : ε) : ∀ s : σ,
    collect step f s (es ++ [e]) = collect step f s es ++ (f (run step s es) e).toList := by
  induction es with
  | nil => simp [collect]
  | cons e' es ih =>
    intro s
    rw [List.cons_append, collect, collect, ih, run_cons, List.append_assoc]

/-- What a run produces comes from one of its events. -/
theorem exists_of_mem_collect {α : Type*} {f : σ → ε → Option α} {es : List ε} {a : α} :
    ∀ {s : σ}, a ∈ collect step f s es → ∃ s', ∃ e ∈ es, f s' e = some a := by
  induction es with
  | nil => intro s h; cases h
  | cons e es ih =>
    intro s h
    rcases List.mem_append.1 h with h | h
    · exact ⟨s, e, List.mem_cons_self, Option.mem_toList.1 h⟩
    · obtain ⟨s', e', he', hf⟩ := ih h
      exact ⟨s', e', List.mem_cons_of_mem _ he', hf⟩

/-- The event is at a place of the run, and is read in the state the run has there. -/
theorem exists_cut_of_mem_collect {α : Type*} {f : σ → ε → Option α} {es : List ε} {a : α} :
    ∀ {s : σ}, a ∈ collect step f s es →
      ∃ before e rest, es = before ++ e :: rest ∧ f (run step s before) e = some a := by
  induction es with
  | nil => intro s h; cases h
  | cons e es ih =>
    intro s h
    rcases List.mem_append.1 h with h | h
    · exact ⟨[], e, es, rfl, Option.mem_toList.1 h⟩
    · obtain ⟨before, e', rest, rfl, hf⟩ := ih h
      exact ⟨e :: before, e', rest, rfl, hf⟩

/-- The last event of a run that meets `p`. -/
def latest? (step : σ → ε → σ) (p : σ → ε → Bool) : σ → List ε → Option ε
  | _, [] => none
  | s, e :: es => (latest? step p (step s e) es).or (if p s e then some e else none)

@[simp] theorem latest?_snoc (p : σ → ε → Bool) (es : List ε) (e : ε) : ∀ s : σ,
    latest? step p s (es ++ [e]) =
      if p (run step s es) e then some e else latest? step p s es := by
  induction es with
  | nil => exact fun s => Option.none_or
  | cons e' es ih =>
    intro s
    rw [List.cons_append, latest?, ih, run_cons, latest?]
    split <;> simp

section Part

variable {τ δ : Type*} {step' : τ → δ → τ} {f : ε → Option δ}

/-- A part of a system that takes a step of its own at some of the events has a run of its
own. -/
theorem part_run {part : σ → τ}
    (hstep : ∀ s e, part (step s e) = (f e).elim (part s) (step' (part s))) (es : List ε) :
    ∀ s : σ, part (run step s es) = run step' (part s) (es.filterMap f) := by
  induction es with
  | nil => exact fun s => rfl
  | cons e es ih =>
    intro s
    rw [run_cons, ih, hstep]
    cases hf : f e with
    | none => rw [List.filterMap_cons_none hf, Option.elim_none]
    | some d => rw [List.filterMap_cons_some hf, Option.elim_some, run_cons]

/-- A place of the part's run is one of the run. -/
theorem exists_cut_of_filterMap {es : List ε} {before rest : List δ} {d : δ}
    (h : es.filterMap f = before ++ d :: rest) :
    ∃ before' e rest', es = before' ++ e :: rest' ∧ before'.filterMap f = before ∧
      f e = some d ∧ rest'.filterMap f = rest := by
  obtain ⟨left, right, rfl, rfl, hright⟩ := List.filterMap_eq_append_iff.1 h
  obtain ⟨skipped, e, rest', rfl, hskipped, he, rfl⟩ := List.filterMap_eq_cons_iff.1 hright
  refine ⟨left ++ skipped, e, rest', by simp, ?_, he, rfl⟩
  rw [List.filterMap_append, List.filterMap_eq_nil_iff.2 hskipped, List.append_nil]

end Part

end Runs
