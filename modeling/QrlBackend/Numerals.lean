import Mathlib.Data.Nat.Digits.Lemmas

/-!
# Numerals

The numeral of a number in a base (`Nat.toDigits`), most significant digit first. For a
positive number it has no leading zero, and it is the only text of digits without one that
has the number as its value (`toDigits_ofDigits`, `ofDigits_toDigits`).

The value of a digit is a parameter, since a program may compute it in more ways than one.
-/

set_option autoImplicit false

namespace Numerals

variable {b n : ℕ}

/-- The two lists of digits of a positive number agree. -/
theorem toDigits_eq_digits (hb : 1 < b) (hn : 0 < n) :
    Nat.toDigits b n = (Nat.digits b n).reverse.map Nat.digitChar := by
  induction n using Nat.strong_induction_on with
  | _ n ih =>
    rw [Nat.toDigits_eq_if hb, Nat.digits_def' hb hn, List.reverse_cons, List.map_append]
    split
    next hlt => simp [Nat.div_eq_of_lt hlt, Nat.mod_eq_of_lt hlt]
    next hge =>
      rw [ih (n / b) (Nat.div_lt_self hn hb) (Nat.div_pos (Nat.le_of_not_lt hge) (by omega))]
      rfl

theorem digitChar_ne_zero : ∀ d < 16, d ≠ 0 → Nat.digitChar d ≠ '0' := by decide

/-- The numeral of a positive number has no leading zero. -/
theorem head_toDigits (hb : 1 < b) (hb' : b ≤ 16) (hn : 0 < n) :
    ∀ c ∈ (Nat.toDigits b n).head?, c ≠ '0' := by
  intro c hc
  rw [toDigits_eq_digits hb hn, List.head?_map, List.head?_reverse, Option.mem_map] at hc
  obtain ⟨d, hd, rfl⟩ := hc
  rw [Option.mem_def, List.getLast?_eq_some_getLast (Nat.digits_ne_nil_iff_ne_zero.2 hn.ne')] at hd
  have hlast : d ≠ 0 := Option.some.inj hd ▸ Nat.getLast_digit_ne_zero b hn.ne'
  have hmem : d ∈ Nat.digits b n := Option.some.inj hd ▸ List.getLast_mem _
  exact digitChar_ne_zero d ((Nat.digits_lt_base hb hmem).trans_le hb') hlast

variable {value : Char → ℕ}

/-- A numeral has the value it was made of. -/
theorem ofDigits_toDigits (hb : 1 < b) (hn : 0 < n)
    (hvalue : ∀ d < b, value (Nat.digitChar d) = d) :
    Nat.ofDigits b ((Nat.toDigits b n).reverse.map value) = n := by
  rw [toDigits_eq_digits hb hn, ← List.map_reverse, List.reverse_reverse, List.map_map]
  have hdigits : (Nat.digits b n).map (value ∘ Nat.digitChar) = Nat.digits b n := by
    conv_rhs => rw [← List.map_id (Nat.digits b n)]
    exact List.map_congr_left fun d hd => hvalue d (Nat.digits_lt_base hb hd)
  rw [hdigits, Nat.ofDigits_digits]

/-- A text of digits without a leading zero is the numeral of its value, which is positive. -/
theorem toDigits_ofDigits (hb : 1 < b) (hvalue : ∀ d < b, value (Nat.digitChar d) = d)
    {l : List Char} (hne : l ≠ []) (hdigits : ∀ c ∈ l, ∃ d < b, c = Nat.digitChar d)
    (hhead : ∀ c ∈ l.head?, c ≠ '0') :
    0 < Nat.ofDigits b (l.reverse.map value) ∧
      Nat.toDigits b (Nat.ofDigits b (l.reverse.map value)) = l := by
  have hback : ∀ c ∈ l, value c < b ∧ Nat.digitChar (value c) = c := by
    intro c hc
    obtain ⟨d, hd, rfl⟩ := hdigits c hc
    rw [hvalue d hd]
    exact ⟨hd, rfl⟩
  have hlist : Nat.digits b (Nat.ofDigits b (l.reverse.map value)) = l.reverse.map value := by
    refine Nat.digits_ofDigits b hb _ (fun d hd => ?_) fun hnil hzero => ?_
    · obtain ⟨c, hc, rfl⟩ := List.mem_map.1 hd
      exact (hback c (List.mem_reverse.1 hc)).1
    · rw [List.getLast_map, List.getLast_reverse] at hzero
      have hmem := List.head_mem hne
      refine hhead _ (List.head?_eq_some_head hne) ?_
      rw [← (hback _ hmem).2, hzero]
      rfl
  have hpos : 0 < Nat.ofDigits b (l.reverse.map value) := by
    rw [Nat.pos_iff_ne_zero, ← Nat.digits_ne_nil_iff_ne_zero (b := b), hlist]
    simpa using hne
  refine ⟨hpos, ?_⟩
  rw [toDigits_eq_digits hb hpos, hlist, ← List.map_reverse, List.reverse_reverse, List.map_map]
  conv_rhs => rw [← List.map_id l]
  exact List.map_congr_left fun c hc => (hback c hc).2

end Numerals
