import Mathlib.Data.List.Basic

/-!
# Base64

The canonical encoder of RFC 4648, padded, and a lenient decoder. The decoder reads the
sextets of the alphabet characters, skips every other character, the padding included,
and drops what is left over after the last whole byte.

`decode_encode` : decoding a canonical text gives the bytes back. So re-encoding what a text
decodes to is a normal form for "decodes to the same bytes".
-/

set_option autoImplicit false

namespace Base64

/-- The character of a sextet. -/
def charOf (n : ℕ) : Char :=
  if n < 26 then Char.ofNat (65 + n)
  else if n < 52 then Char.ofNat (97 + (n - 26))
  else if n < 62 then Char.ofNat (48 + (n - 52))
  else if n = 62 then '+' else '/'

/-- The sextet of a character. The URL-safe spellings of 62 and 63 count too. -/
def sextet? (c : Char) : Option ℕ :=
  if 65 ≤ c.toNat ∧ c.toNat ≤ 90 then some (c.toNat - 65)
  else if 97 ≤ c.toNat ∧ c.toNat ≤ 122 then some (c.toNat - 97 + 26)
  else if 48 ≤ c.toNat ∧ c.toNat ≤ 57 then some (c.toNat - 48 + 52)
  else if c = '+' ∨ c = '-' then some 62
  else if c = '/' ∨ c = '_' then some 63
  else none

/-- Four sextets to three bytes. A rest of three sextets is two bytes, a rest of two is
one byte, and a single sextet is dropped. -/
def decodeSextets : List ℕ → List (Fin 256)
  | a :: b :: c :: d :: rest =>
    Fin.ofNat 256 (a * 4 + b / 16) :: Fin.ofNat 256 (b % 16 * 16 + c / 4) ::
      Fin.ofNat 256 (c % 4 * 64 + d) :: decodeSextets rest
  | [a, b, c] => [Fin.ofNat 256 (a * 4 + b / 16), Fin.ofNat 256 (b % 16 * 16 + c / 4)]
  | [a, b] => [Fin.ofNat 256 (a * 4 + b / 16)]
  | _ => []

/-- The lenient decoder. -/
def decode (text : List Char) : List (Fin 256) := decodeSextets (text.filterMap sextet?)

/-- The canonical padded encoder. -/
def encode : List (Fin 256) → List Char
  | x :: y :: z :: rest =>
    charOf (x / 4) :: charOf (x % 4 * 16 + y / 16) :: charOf (y % 16 * 4 + z / 64) ::
      charOf (z % 64) :: encode rest
  | [x, y] => [charOf (x / 4), charOf (x % 4 * 16 + y / 16), charOf (y % 16 * 4), '=']
  | [x] => [charOf (x / 4), charOf (x % 4 * 16), '=', '=']
  | [] => []

theorem sextet?_charOf {n : ℕ} (hn : n < 64) : sextet? (charOf n) = some n :=
  (by decide : ∀ k : Fin 64, sextet? (charOf k) = some k.val) ⟨n, hn⟩

theorem sextet?_pad : sextet? '=' = none := by decide

theorem ofNat_eq {n : ℕ} {x : Fin 256} (h : n = x.val) : Fin.ofNat 256 n = x := by
  subst h
  simp

/-- Decoding a canonical text gives the bytes back. -/
theorem decode_encode : ∀ bytes : List (Fin 256), decode (encode bytes) = bytes
  | x :: y :: z :: rest => by
    have ih := decode_encode rest
    rw [decode] at ih
    have hx := x.isLt
    have hy := y.isLt
    have hz := z.isLt
    rw [encode, decode, List.filterMap_cons_some (sextet?_charOf (by omega)),
      List.filterMap_cons_some (sextet?_charOf (by omega)),
      List.filterMap_cons_some (sextet?_charOf (by omega)),
      List.filterMap_cons_some (sextet?_charOf (by omega)), decodeSextets, ih]
    congr 1
    · exact ofNat_eq (by omega)
    congr 1
    · exact ofNat_eq (by omega)
    congr 1
    exact ofNat_eq (by omega)
  | [x, y] => by
    have hx := x.isLt
    have hy := y.isLt
    rw [encode, decode, List.filterMap_cons_some (sextet?_charOf (by omega)),
      List.filterMap_cons_some (sextet?_charOf (by omega)),
      List.filterMap_cons_some (sextet?_charOf (by omega)),
      List.filterMap_cons_none sextet?_pad, List.filterMap_nil, decodeSextets]
    congr 1
    · exact ofNat_eq (by omega)
    congr 1
    exact ofNat_eq (by omega)
  | [x] => by
    have hx := x.isLt
    rw [encode, decode, List.filterMap_cons_some (sextet?_charOf (by omega)),
      List.filterMap_cons_some (sextet?_charOf (by omega)),
      List.filterMap_cons_none sextet?_pad, List.filterMap_cons_none sextet?_pad,
      List.filterMap_nil, decodeSextets]
    congr 1
    exact ofNat_eq (by omega)
  | [] => rfl

end Base64
