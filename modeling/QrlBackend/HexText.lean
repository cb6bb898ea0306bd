import Mathlib.Data.Nat.Digits.Lemmas

/-!
# Hex texts

The lower-case hexadecimal digits of a number, and how many there are.
-/

set_option autoImplicit false

namespace Hex

theorem toList_toLower (s : String) : s.toLower.toList = s.toList.map Char.toLower :=
  String.toList_map

theorem toList_toUpper (s : String) : s.toUpper.toList = s.toList.map Char.toUpper :=
  String.toList_map

/-- Hexadecimal digits, in either case. -/
def isDigit (c : Char) : Bool :=
  ('0' ≤ c && c ≤ '9') || ('a' ≤ c && c ≤ 'f') || ('A' ≤ c && c ≤ 'F')

/-- The digits that `digitChar` writes. -/
def isLowerDigit (c : Char) : Bool := ('0' ≤ c && c ≤ '9') || ('a' ≤ c && c ≤ 'f')

/-- The digits of a positive number, most significant first. -/
def digits (n : ℕ) : List Char := (Nat.digits 16 n).reverse.map Nat.digitChar

/-- The digits of a number. Zero has one. -/
def text (n : ℕ) : List Char := if n = 0 then ['0'] else digits n

theorem isLowerDigit_digitChar : ∀ d < 16, isLowerDigit (Nat.digitChar d) = true := by
  decide

theorem all_digits (n : ℕ) : (digits n).all isLowerDigit = true := by
  rw [List.all_eq_true]
  intro c hc
  obtain ⟨d, hd, rfl⟩ := List.mem_map.1 hc
  exact isLowerDigit_digitChar d (Nat.digits_lt_base (by decide) (List.mem_reverse.1 hd))

/-- A number is written in lower case. -/
theorem all_text (n : ℕ) : (text n).all isLowerDigit = true := by
  unfold text
  split
  · decide
  · exact all_digits n

/-- A number below `16 ^ k` has at most `k` digits, and at least one. -/
theorem length_text {n k : ℕ} (hk : 0 < k) (hn : n < 16 ^ k) :
    1 ≤ (text n).length ∧ (text n).length ≤ k := by
  unfold text
  split
  · exact ⟨le_rfl, hk⟩
  next hzero =>
    rw [digits, List.length_map, List.length_reverse]
    exact ⟨List.length_pos_of_ne_nil (Nat.digits_ne_nil_iff_ne_zero.2 hzero),
      (Nat.digits_length_le_iff (by decide) n).2 hn⟩

theorem isDigit_of_isLowerDigit {c : Char} (h : isLowerDigit c = true) : isDigit c = true := by
  rw [isDigit]
  rw [isLowerDigit] at h
  rw [h, Bool.true_or]

/-- A property of characters that the hex digits have, by checking each. -/
theorem forall_digit {p : Char → Prop} [DecidablePred p]
    (hall : ∀ n < 128, isDigit (Char.ofNat n) = true → p (Char.ofNat n)) {c : Char}
    (h : isDigit c = true) : p c := by
  have hlt : c.toNat < 128 := by
    simp only [isDigit, Bool.or_eq_true, Bool.and_eq_true, decide_eq_true_eq] at h
    rcases h with (⟨-, h⟩ | ⟨-, h⟩) | ⟨-, h⟩ <;> exact lt_of_le_of_lt h (by decide)
  rw [← Char.ofNat_toNat c] at h ⊢
  exact hall _ hlt h

/-- Lower-casing a digit gives a digit. -/
theorem isLowerDigit_toLower {c : Char} (h : isDigit c = true) :
    isLowerDigit c.toLower = true :=
  forall_digit (p := fun c => isLowerDigit c.toLower = true) (by decide) h

theorem toLower_of_isLowerDigit {c : Char} (h : isLowerDigit c = true) : c.toLower = c := by
  have himp : isLowerDigit c = true → c.toLower = c :=
    forall_digit (p := fun c => isLowerDigit c = true → c.toLower = c) (by decide)
      (isDigit_of_isLowerDigit h)
  exact himp h

/-- Of the case of a digit only the last change counts. -/
theorem toUpper_toLower {c : Char} (h : isDigit c = true) : c.toLower.toUpper = c.toUpper :=
  forall_digit (p := fun c => c.toLower.toUpper = c.toUpper) (by decide) h

theorem toLower_toUpper {c : Char} (h : isDigit c = true) : c.toUpper.toLower = c.toLower :=
  forall_digit (p := fun c => c.toUpper.toLower = c.toLower) (by decide) h

/-- Nothing but a hex digit has a hex digit as its lower case. -/
theorem isDigit_of_toLower {c : Char} (h : isLowerDigit c.toLower = true) : isDigit c = true := by
  by_cases hupper : 'A'.val ≤ c.val ∧ c.val ≤ 'Z'.val
  · have hlt : c.toNat < 128 := lt_of_le_of_lt hupper.2 (by decide)
    have hall : ∀ n < 128, isLowerDigit (Char.ofNat n).toLower = true →
        isDigit (Char.ofNat n) = true := by decide
    rw [← Char.ofNat_toNat c] at h ⊢
    exact hall _ hlt h
  · have hsame : c.toLower = c := dif_neg hupper
    exact isDigit_of_isLowerDigit (hsame ▸ h)

end Hex
