import Mathlib.Logic.Relation
import Mathlib.Tactic.ByContra

/-!
# Views of a pair

Members sit in channels, at most two in each, and every member that is online keeps a view :
whether the other seat of its channel is taken. A member learns that from a list it is given
when it takes its seat, and then from announcements, which reach everybody that hears the
channel. A member can have its seat before it is shown to the others (`Pending`). Its list is
drawn up with the seat, but it gets the list only when it is shown, and some pending members
lose the seat again and are never shown.

`Agree` is the invariant. A view is of somebody who keeps the seat, and nobody is missing
from it who has been shown. The moves keep it (`Agree.of_move`) under the conditions they
carry : nobody takes or gives up a seat behind a pending member's back, and announcements
reach nobody who sits elsewhere. When nobody is pending the views are right
(`Agree.view_iff`).
-/

set_option autoImplicit false

namespace Presence

variable {C S : Type*}

/-- A member that has a seat and is not shown yet : whether its list has the other seat taken,
and whether it will keep its own. -/
structure Pending where
  listed : Bool
  settles : Bool

/-- The seats of members in channels, who is online, whom announcements reach, and what members
see. -/
structure State (C S : Type*) where
  sits : C → S → Prop
  online : S → Prop
  hears : C → S → Prop
  pending : S → Option Pending
  view : S → Bool

namespace State

/-- The member keeps its seat. -/
def Stays (σ : State C S) (x : S) : Prop := ∀ p, σ.pending x = some p → p.settles = true

/-- What a member sees, or will see once it is shown. -/
def outlook (σ : State C S) (x : S) : Option Bool :=
  match σ.pending x with
  | none => some (σ.view x)
  | some p => if p.settles then some p.listed else none

/-- A member that is shown sees its view. -/
theorem outlook_of_none {σ : State C S} {x : S} (h : σ.pending x = none) :
    σ.outlook x = some (σ.view x) := by
  rw [outlook, h]

theorem stays_of_none {σ : State C S} {x : S} (h : σ.pending x = none) : σ.Stays x := by
  intro p hp
  rw [h] at hp
  cases hp

/-- A pending member with an outlook settles, and will see its list. -/
theorem outlook_eq_some {σ : State C S} {x : S} {p : Pending} (h : σ.pending x = some p)
    {listed : Bool} (houtlook : σ.outlook x = some listed) :
    p.settles = true ∧ p.listed = listed := by
  rw [outlook, h] at houtlook
  dsimp only at houtlook
  split at houtlook
  next hsettles => exact ⟨hsettles, Option.some.inj houtlook⟩
  next => cases houtlook

theorem outlook_congr {σ σ' : State C S} {x : S} (hpending : σ'.pending x = σ.pending x)
    (hview : σ.pending x = none → σ'.view x = σ.view x) : σ'.outlook x = σ.outlook x := by
  unfold outlook
  rw [hpending]
  split
  next hnone => rw [hview hnone]
  next => rfl

theorem stays_congr {σ σ' : State C S} {x : S} (hpending : σ'.pending x = σ.pending x) :
    σ'.Stays x ↔ σ.Stays x := by
  rw [Stays, Stays, hpending]

end State

/-- Views are of members that stay, and miss nobody but a pending member. -/
structure Agree (σ : State C S) : Prop where
  hears : ∀ c x, σ.sits c x → σ.online x → σ.hears c x
  sound : ∀ c x, σ.sits c x → σ.online x → σ.outlook x = some true →
    ∃ y, y ≠ x ∧ σ.sits c y ∧ σ.Stays y
  complete : ∀ c x y, σ.sits c x → σ.online x → σ.outlook x = some false → y ≠ x → σ.sits c y →
    σ.pending x = none ∧ σ.pending y ≠ none

/-- When nobody in the channel is pending, a view is whether the other seat is taken. -/
theorem Agree.view_iff {σ : State C S} (h : Agree σ) {c : C} {x : S} (hsits : σ.sits c x)
    (honline : σ.online x) (hrest : ∀ y, σ.sits c y → σ.pending y = none) :
    σ.view x = true ↔ ∃ y, y ≠ x ∧ σ.sits c y := by
  have houtlook := State.outlook_of_none (hrest x hsits)
  constructor
  · intro hview
    obtain ⟨y, hne, hy, -⟩ := h.sound c x hsits honline (houtlook.trans (congrArg some hview))
    exact ⟨y, hne, hy⟩
  · rintro ⟨y, hne, hy⟩
    by_contra hview
    have hfalse : σ.outlook x = some false := by rw [houtlook, eq_false_of_ne_true hview]
    exact (h.complete c x y hsits honline hfalse hne hy).2 (hrest y hy)

/-! ## Moves -/

/-- Nothing is announced. Members may lose their seats, but nobody loses the company it
sees, and whoever is told that it is alone is. -/
structure Fades (σ σ' : State C S) : Prop where
  sits : ∀ c x, σ'.sits c x → σ.sits c x
  online : ∀ c x, σ'.sits c x → σ'.online x → σ.online x
  hears : ∀ c x, σ'.sits c x → σ'.online x → σ.hears c x → σ'.hears c x
  pending : ∀ c x, σ'.sits c x → σ'.pending x = σ.pending x
  view : ∀ c x, σ'.sits c x → σ'.online x → σ.pending x = none →
    σ'.view x = σ.view x ∨ σ'.view x = false ∧ ∀ y, y ≠ x → ¬σ'.sits c y
  company : ∀ c x y, σ'.sits c x → σ'.online x → y ≠ x → σ.sits c y → σ.Stays y → σ'.sits c y

/-- An announcement of the channel reaches no shown member of another one. -/
def Confined (σ : State C S) (s : S) (c : C) : Prop :=
  ∀ c' x, x ≠ s → σ.hears c x → σ.sits c' x → σ.online x → σ.pending x = none → c' = c

/-- A member gives up its seat, and that is announced. -/
structure Leaves (σ σ' : State C S) (s : S) (c : C) : Prop where
  sits : ∀ c' x, σ'.sits c' x ↔ σ.sits c' x ∧ ¬(c' = c ∧ x = s)
  seat : σ.sits c s
  pair : ∀ x y, σ.sits c x → σ.sits c y → x ≠ s → y ≠ s → x = y
  online : ∀ c' x, σ'.sits c' x → σ'.online x → σ.online x
  hears : ∀ c' x, σ'.sits c' x → σ'.online x → σ.hears c' x → σ'.hears c' x
  pending : ∀ c' x, σ'.sits c' x → σ'.pending x = σ.pending x
  told : ∀ c' x, σ'.sits c' x → σ'.online x → x ≠ s → σ.hears c x → σ'.view x = false
  untold : ∀ c' x, σ'.sits c' x → σ'.online x → ¬(x ≠ s ∧ σ.hears c x) → σ'.view x = σ.view x
  confined : Confined σ s c
  /-- No pending member of the channel still counts on the one that leaves. -/
  unlisted : ∀ x p, x ≠ s → σ.sits c x → σ.online x → σ.pending x = some p → p.settles = false

/-- A pending or new member is shown : it gets its list, and the others are told. -/
structure Joins (σ σ' : State C S) (s : S) (c : C) (listed : Bool) : Prop where
  seat : σ'.sits c s
  place : ∀ c', σ.sits c' s → c' = c
  others : ∀ c' x, ¬(c' = c ∧ x = s) → σ'.sits c' x → σ.sits c' x
  kept : ∀ c' x, c' ≠ c → x ≠ s → σ.sits c' x → σ'.sits c' x
  online : ∀ c' x, σ'.sits c' x → x ≠ s → σ'.online x → σ.online x
  hears : ∀ c' x, σ'.sits c' x → x ≠ s → σ'.online x → σ.hears c' x → σ'.hears c' x
  hears_self : σ'.online s → σ'.hears c s
  shown : σ'.pending s = none
  pending : ∀ c' x, x ≠ s → σ'.sits c' x → σ'.pending x = σ.pending x
  view_self : σ'.online s → σ'.view s = listed
  told : ∀ c' x, σ'.sits c' x → σ'.online x → x ≠ s → σ.hears c x → σ'.view x = true
  untold : ∀ c' x, σ'.sits c' x → σ'.online x → x ≠ s → ¬σ.hears c x → σ'.view x = σ.view x
  confined : Confined σ s c
  listed_of : ∀ y, σ'.online s → y ≠ s → σ'.sits c y → listed = true
  of_listed : σ'.online s → listed = true → ∃ y, y ≠ s ∧ σ'.sits c y ∧ σ.Stays y
  /-- Every pending member of the channel already has it on its list. -/
  expected : ∀ x p, x ≠ s → σ'.sits c x → σ'.online x → σ.pending x = some p →
    p.settles = true → p.listed = true

/-- A member without a seat is announced to a channel where everybody has company. -/
structure Haunts (σ σ' : State C S) (s : S) (c : C) : Prop where
  sits : ∀ c' x, σ'.sits c' x ↔ σ.sits c' x
  absent : ∀ c', ¬σ.sits c' s
  online : ∀ c' x, σ'.sits c' x → σ'.online x → σ.online x
  hears : ∀ c' x, σ'.sits c' x → σ'.online x → σ.hears c' x → σ'.hears c' x
  pending : ∀ c' x, σ'.sits c' x → σ'.pending x = σ.pending x
  told : ∀ c' x, σ'.sits c' x → σ'.online x → σ.hears c x → σ'.view x = true
  untold : ∀ c' x, σ'.sits c' x → σ'.online x → ¬σ.hears c x → σ'.view x = σ.view x
  confined : Confined σ s c
  company : ∀ x, σ.sits c x → σ.online x → σ.pending x = none → ∃ y, y ≠ x ∧ σ.sits c y ∧ σ.Stays y

/-- A member takes a seat and is not shown yet. -/
structure Enters (σ σ' : State C S) (s : S) (c : C) (p : Pending) : Prop where
  seat : σ'.sits c s
  place : ∀ c', σ.sits c' s → c' = c
  others : ∀ c' x, ¬(c' = c ∧ x = s) → σ'.sits c' x → σ.sits c' x
  kept : ∀ c' x, c' ≠ c → x ≠ s → σ.sits c' x → σ'.sits c' x
  online : ∀ c' x, σ'.sits c' x → x ≠ s → σ'.online x → σ.online x
  hears : ∀ c' x, σ'.sits c' x → x ≠ s → σ'.online x → σ.hears c' x → σ'.hears c' x
  hears_self : σ'.online s → σ'.hears c s
  pends : σ'.pending s = some p
  pending : ∀ c' x, x ≠ s → σ'.sits c' x → σ'.pending x = σ.pending x
  view : ∀ c' x, σ'.sits c' x → σ'.online x → x ≠ s → σ.pending x = none → σ'.view x = σ.view x
  listed_of : ∀ y, p.settles = true → σ'.online s → y ≠ s → σ'.sits c y → p.listed = true
  of_listed : p.settles = true → σ'.online s → p.listed = true →
    ∃ y, y ≠ s ∧ σ'.sits c y ∧ σ.Stays y
  /-- If it takes the place of another, it keeps it. -/
  replaces : ∀ x y, σ'.sits c x → σ'.online x → x ≠ s → y ≠ x → σ.sits c y → σ.Stays y →
    σ'.sits c y ∧ y ≠ s ∨ p.settles = true
  expected : ∀ x q, x ≠ s → σ'.sits c x → σ'.online x → σ.pending x = some q →
    q.settles = true → q.listed = true

/-- Ways to come from one state to another. -/
inductive Move : State C S → State C S → Prop
  | fades {σ σ' : State C S} (h : Fades σ σ') : Move σ σ'
  | leaves {σ σ' : State C S} {s : S} {c : C} (h : Leaves σ σ' s c) : Move σ σ'
  | joins {σ σ' : State C S} {s : S} {c : C} {listed : Bool} (h : Joins σ σ' s c listed) :
      Move σ σ'
  | haunts {σ σ' : State C S} {s : S} {c : C} (h : Haunts σ σ' s c) : Move σ σ'
  | enters {σ σ' : State C S} {s : S} {c : C} {p : Pending} (h : Enters σ σ' s c p) : Move σ σ'

namespace Agree

variable {σ σ' : State C S} {s : S} {c : C}

/-- Where nobody is announced, views stay right. -/
theorem fades (h : Agree σ) (hmove : Fades σ σ') : Agree σ' := by
  have houtlook : ∀ {c x}, σ'.sits c x → σ'.online x → σ'.outlook x = σ.outlook x ∨
      σ'.outlook x = some false ∧ ∀ y, y ≠ x → ¬σ'.sits c y := by
    intro c x hsits honline
    have hpending := hmove.pending c x hsits
    rcases hold : σ.pending x with _ | p
    · rcases hmove.view c x hsits honline hold with hsame | ⟨hfalse, halone⟩
      · exact .inl (State.outlook_congr hpending fun _ => hsame)
      · exact .inr ⟨by rw [State.outlook_of_none (hpending.trans hold), hfalse], halone⟩
    · refine .inl (State.outlook_congr hpending fun hnone => ?_)
      rw [hold] at hnone
      cases hnone
  refine ⟨fun c x hsits honline => ?_, fun c x hsits honline hsees => ?_,
    fun c x y hsits honline hsees hne hy => ?_⟩
  · exact hmove.hears c x hsits honline
      (h.hears c x (hmove.sits c x hsits) (hmove.online c x hsits honline))
  · rcases houtlook hsits honline with hsame | ⟨hfalse, -⟩
    · obtain ⟨y, hne, hy, hstays⟩ := h.sound c x (hmove.sits c x hsits)
        (hmove.online c x hsits honline) (hsame ▸ hsees)
      have hy' := hmove.company c x y hsits honline hne hy hstays
      exact ⟨y, hne, hy', (State.stays_congr (hmove.pending c y hy')).2 hstays⟩
    · rw [hfalse] at hsees
      cases hsees
  · rcases houtlook hsits honline with hsame | ⟨-, halone⟩
    · rw [hmove.pending c x hsits, hmove.pending c y hy]
      exact h.complete c x y (hmove.sits c x hsits) (hmove.online c x hsits honline)
        (hsame ▸ hsees) hne (hmove.sits c y hy)
    · exact absurd hy (halone y hne)

/-- The other member of the channel is told of who leaves. -/
theorem leaves (h : Agree σ) (hmove : Leaves σ σ' s c) : Agree σ' := by
  have hsits : ∀ {c' x}, σ'.sits c' x → σ.sits c' x := fun hx => ((hmove.sits _ _).1 hx).1
  -- the other member of the channel is told, and nobody else sits there
  have hhere : ∀ {x}, σ'.sits c x → σ'.online x →
      x ≠ s ∧ σ.hears c x ∧ ∀ y, y ≠ x → ¬σ'.sits c y := by
    intro x hx honline
    have hxs : x ≠ s := fun hxs => ((hmove.sits c x).1 hx).2 ⟨rfl, hxs⟩
    refine ⟨hxs, h.hears c x (hsits hx) (hmove.online c x hx honline), fun y hne hy => hne ?_⟩
    exact hmove.pair y x (hsits hy) (hsits hx)
      (fun hys => ((hmove.sits c y).1 hy).2 ⟨rfl, hys⟩) hxs
  have hthere : ∀ {c' x}, c' ≠ c → σ'.sits c' x → σ'.online x →
      σ'.outlook x = σ.outlook x := by
    intro c' x hc hx honline
    refine State.outlook_congr (hmove.pending c' x hx) fun hnone =>
      hmove.untold c' x hx honline fun htold => hc ?_
    exact hmove.confined c' x htold.1 htold.2 (hsits hx) (hmove.online c' x hx honline) hnone
  refine ⟨fun c' x hx honline => hmove.hears c' x hx honline
    (h.hears c' x (hsits hx) (hmove.online c' x hx honline)), fun c' x hx honline houtlook => ?_,
    fun c' x y hx honline houtlook hne hy => ?_⟩
  · by_cases hc : c' = c
    · subst hc
      obtain ⟨hxs, hhears, -⟩ := hhere hx honline
      rcases hpending : σ'.pending x with _ | p
      · rw [State.outlook_of_none hpending, hmove.told c' x hx honline hxs hhears] at houtlook
        cases houtlook
      · obtain ⟨hsettles, -⟩ := State.outlook_eq_some hpending houtlook
        rw [hmove.pending c' x hx] at hpending
        have hunlisted := hmove.unlisted x p hxs (hsits hx) (hmove.online c' x hx honline) hpending
        rw [hsettles] at hunlisted
        cases hunlisted
    · rw [hthere hc hx honline] at houtlook
      obtain ⟨y, hne, hy, hstays⟩ := h.sound c' x (hsits hx) (hmove.online c' x hx honline) houtlook
      have hy' : σ'.sits c' y := (hmove.sits c' y).2 ⟨hy, fun hall => hc hall.1⟩
      exact ⟨y, hne, hy', (State.stays_congr (hmove.pending c' y hy')).2 hstays⟩
  · by_cases hc : c' = c
    · subst hc
      exact absurd hy ((hhere hx honline).2.2 y hne)
    · rw [hthere hc hx honline] at houtlook
      rw [hmove.pending c' x hx, hmove.pending c' y hy]
      exact h.complete c' x y (hsits hx) (hmove.online c' x hx honline) houtlook hne (hsits hy)

/-- Who joins sees whether it is alone, and the other member is told. -/
theorem joins {listed : Bool} (h : Agree σ) (hmove : Joins σ σ' s c listed) : Agree σ' := by
  have hself : ∀ {c'}, σ'.sits c' s → c' = c := by
    intro c' hs
    by_contra hc
    exact hc (hmove.place c' (hmove.others c' s (fun hall => hc hall.1) hs))
  have hothers : ∀ {c' x}, x ≠ s → σ'.sits c' x → σ.sits c' x :=
    fun hxs hx => hmove.others _ _ (fun hall => hxs hall.2) hx
  have hstays : ∀ {c' x}, x ≠ s → σ'.sits c' x → (σ'.Stays x ↔ σ.Stays x) :=
    fun hxs hx => State.stays_congr (hmove.pending _ _ hxs hx)
  have hthere : ∀ {c' x}, c' ≠ c → x ≠ s → σ'.sits c' x → σ'.online x →
      σ'.outlook x = σ.outlook x := by
    intro c' x hc hxs hx honline
    have hold := hothers hxs hx
    refine State.outlook_congr (hmove.pending c' x hxs hx) fun hnone =>
      hmove.untold c' x hx honline hxs fun hhears => hc ?_
    exact hmove.confined c' x hxs hhears hold (hmove.online c' x hx hxs honline) hnone
  refine ⟨fun c' x hx honline => ?_, fun c' x hx honline houtlook => ?_,
    fun c' x y hx honline houtlook hne hy => ?_⟩
  · by_cases hxs : x = s
    · subst hxs
      exact hself hx ▸ hmove.hears_self honline
    · have hold := hothers hxs hx
      exact hmove.hears c' x hx hxs honline (h.hears c' x hold (hmove.online c' x hx hxs honline))
  · by_cases hxs : x = s
    · subst hxs
      obtain rfl := hself hx
      rw [State.outlook_of_none hmove.shown, hmove.view_self honline] at houtlook
      obtain ⟨y, hne, hy, hy'⟩ := hmove.of_listed honline (Option.some.inj houtlook)
      exact ⟨y, hne, hy, (hstays hne hy).2 hy'⟩
    by_cases hc : c' = c
    · subst hc
      exact ⟨s, Ne.symm hxs, hmove.seat, State.stays_of_none hmove.shown⟩
    · rw [hthere hc hxs hx honline] at houtlook
      obtain ⟨y, hne, hy, hy'⟩ := h.sound c' x (hothers hxs hx)
        (hmove.online c' x hx hxs honline) houtlook
      have hys : y ≠ s := fun hys => hc (hmove.place c' (hys ▸ hy))
      have hseat := hmove.kept c' y hc hys hy
      exact ⟨y, hne, hseat, (hstays hys hseat).2 hy'⟩
  · by_cases hxs : x = s
    · subst hxs
      obtain rfl := hself hx
      rw [State.outlook_of_none hmove.shown, hmove.view_self honline] at houtlook
      have hlisted := hmove.listed_of y honline hne hy
      rw [Option.some.inj houtlook] at hlisted
      cases hlisted
    by_cases hc : c' = c
    · subst hc
      have hold := hothers hxs hx
      have honline₀ := hmove.online c' x hx hxs honline
      rcases hpending : σ.pending x with _ | p
      · have hpending' := (hmove.pending c' x hxs hx).trans hpending
        rw [State.outlook_of_none hpending',
          hmove.told c' x hx honline hxs (h.hears c' x hold honline₀)] at houtlook
        cases houtlook
      · have hpending' := (hmove.pending c' x hxs hx).trans hpending
        obtain ⟨hsettles, hlisted⟩ := State.outlook_eq_some hpending' houtlook
        have hexpected := hmove.expected x p hxs hx honline hpending hsettles
        rw [hlisted] at hexpected
        cases hexpected
    · rw [hthere hc hxs hx honline] at houtlook
      have hys : y ≠ s := fun hys => hc (hself (hys ▸ hy))
      rw [hmove.pending c' x hxs hx, hmove.pending c' y hys hy]
      exact h.complete c' x y (hothers hxs hx) (hmove.online c' x hx hxs honline) houtlook
        hne (hothers hys hy)

/-- Where everybody has company, one more announcement leaves nobody wrong. -/
theorem haunts (h : Agree σ) (hmove : Haunts σ σ' s c) : Agree σ' := by
  have hsits : ∀ {c' x}, σ'.sits c' x → σ.sits c' x := fun hx => (hmove.sits _ _).1 hx
  have hconfined : ∀ {c' x}, σ'.sits c' x → σ'.online x → σ.pending x = none → σ.hears c x →
      c' = c := fun {c' x} hx honline hnone hhears =>
    hmove.confined c' x (fun hxs => hmove.absent c' (hxs ▸ hsits hx)) hhears (hsits hx)
      (hmove.online c' x hx honline) hnone
  have hthere : ∀ {c' x}, σ'.sits c' x → σ'.online x → (σ.pending x = none → ¬σ.hears c x) →
      σ'.outlook x = σ.outlook x := fun hx honline hnot =>
    State.outlook_congr (hmove.pending _ _ hx) fun hnone =>
      hmove.untold _ _ hx honline (hnot hnone)
  have hstays : ∀ {c' x}, σ.sits c' x → (σ'.Stays x ↔ σ.Stays x) :=
    fun hx => State.stays_congr (hmove.pending _ _ ((hmove.sits _ _).2 hx))
  refine ⟨fun c' x hx honline => hmove.hears c' x hx honline
    (h.hears c' x (hsits hx) (hmove.online c' x hx honline)), fun c' x hx honline houtlook => ?_,
    fun c' x y hx honline houtlook hne hy => ?_⟩
  · have honline₀ := hmove.online c' x hx honline
    by_cases htold : σ.pending x = none ∧ σ.hears c x
    · obtain ⟨hnone, hhears⟩ := htold
      obtain rfl := hconfined hx honline hnone hhears
      obtain ⟨y, hne, hy, hy'⟩ := hmove.company x (hsits hx) honline₀ hnone
      exact ⟨y, hne, (hmove.sits c' y).2 hy, (hstays hy).2 hy'⟩
    · rw [hthere hx honline fun hnone hhears => htold ⟨hnone, hhears⟩] at houtlook
      obtain ⟨y, hne, hy, hy'⟩ := h.sound c' x (hsits hx) honline₀ houtlook
      exact ⟨y, hne, (hmove.sits c' y).2 hy, (hstays hy).2 hy'⟩
  · have honline₀ := hmove.online c' x hx honline
    by_cases htold : σ.pending x = none ∧ σ.hears c x
    · obtain ⟨hnone, hhears⟩ := htold
      rw [State.outlook_of_none ((hmove.pending c' x hx).trans hnone),
        hmove.told c' x hx honline hhears] at houtlook
      cases houtlook
    · rw [hthere hx honline fun hnone hhears => htold ⟨hnone, hhears⟩] at houtlook
      rw [hmove.pending c' x hx, hmove.pending c' y hy]
      exact h.complete c' x y (hsits hx) honline₀ houtlook hne (hsits hy)

/-- Nobody is told of a member that enters, and it is not shown yet itself. -/
theorem enters {p : Pending} (h : Agree σ) (hmove : Enters σ σ' s c p) : Agree σ' := by
  have hself : ∀ {c'}, σ'.sits c' s → c' = c := by
    intro c' hs
    by_contra hc
    exact hc (hmove.place c' (hmove.others c' s (fun hall => hc hall.1) hs))
  have hothers : ∀ {c' x}, x ≠ s → σ'.sits c' x → σ.sits c' x :=
    fun hxs hx => hmove.others _ _ (fun hall => hxs hall.2) hx
  have hstays : ∀ {c' x}, x ≠ s → σ'.sits c' x → (σ'.Stays x ↔ σ.Stays x) :=
    fun hxs hx => State.stays_congr (hmove.pending _ _ hxs hx)
  have hold : ∀ {c' x}, x ≠ s → σ'.sits c' x → σ'.online x → σ'.outlook x = σ.outlook x :=
    fun hxs hx honline => State.outlook_congr (hmove.pending _ _ hxs hx) fun hnone =>
      hmove.view _ _ hx honline hxs hnone
  refine ⟨fun c' x hx honline => ?_, fun c' x hx honline houtlook => ?_,
    fun c' x y hx honline houtlook hne hy => ?_⟩
  · by_cases hxs : x = s
    · subst hxs
      exact hself hx ▸ hmove.hears_self honline
    · exact hmove.hears c' x hx hxs honline
        (h.hears c' x (hothers hxs hx) (hmove.online c' x hx hxs honline))
  · by_cases hxs : x = s
    · subst hxs
      obtain rfl := hself hx
      obtain ⟨hsettles, hlisted⟩ := State.outlook_eq_some hmove.pends houtlook
      obtain ⟨y, hne, hy, hy'⟩ := hmove.of_listed hsettles honline hlisted
      exact ⟨y, hne, hy, (hstays hne hy).2 hy'⟩
    · rw [hold hxs hx honline] at houtlook
      obtain ⟨y, hne, hy, hy'⟩ := h.sound c' x (hothers hxs hx)
        (hmove.online c' x hx hxs honline) houtlook
      by_cases hc : c' = c
      · subst hc
        rcases hmove.replaces x y hx honline hxs hne hy hy' with ⟨hseat, hys⟩ | hsettles
        · exact ⟨y, hne, hseat, (hstays hys hseat).2 hy'⟩
        · refine ⟨s, Ne.symm hxs, hmove.seat, fun q hq => ?_⟩
          rw [hmove.pends] at hq
          exact Option.some.inj hq ▸ hsettles
      · have hys : y ≠ s := fun hys => hc (hmove.place c' (hys ▸ hy))
        have hseat := hmove.kept c' y hc hys hy
        exact ⟨y, hne, hseat, (hstays hys hseat).2 hy'⟩
  · by_cases hxs : x = s
    · subst hxs
      obtain rfl := hself hx
      obtain ⟨hsettles, hlisted⟩ := State.outlook_eq_some hmove.pends houtlook
      have hlisted' := hmove.listed_of y hsettles honline hne hy
      rw [hlisted] at hlisted'
      cases hlisted'
    rw [hold hxs hx honline] at houtlook
    by_cases hys : y = s
    · subst hys
      obtain rfl := hself hy
      rw [hmove.pending c' x hxs hx, hmove.pends]
      refine ⟨?_, nofun⟩
      by_contra hsome
      obtain ⟨q, hq⟩ := Option.ne_none_iff_exists'.1 hsome
      obtain ⟨hsettles, hlisted⟩ := State.outlook_eq_some hq houtlook
      have hexpected := hmove.expected x q hxs hx honline hq hsettles
      rw [hlisted] at hexpected
      cases hexpected
    · rw [hmove.pending c' x hxs hx, hmove.pending c' y hys hy]
      exact h.complete c' x y (hothers hxs hx) (hmove.online c' x hx hxs honline) houtlook hne
        (hothers hys hy)

/-- Every move keeps views right. -/
theorem of_move (h : Agree σ) (hmove : Move σ σ') : Agree σ' := by
  cases hmove with
  | fades hmove => exact h.fades hmove
  | leaves hmove => exact h.leaves hmove
  | joins hmove => exact h.joins hmove
  | haunts hmove => exact h.haunts hmove
  | enters hmove => exact h.enters hmove

/-- Any number of moves keeps the agreement. -/
theorem of_moves (h : Agree σ) (hmoves : Relation.ReflTransGen Move σ σ') : Agree σ' := by
  induction hmoves with
  | refl => exact h
  | tail _ hmove ih => exact ih.of_move hmove

end Agree

end Presence
