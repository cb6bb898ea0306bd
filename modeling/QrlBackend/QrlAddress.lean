import QrlBackend.HexText

/-!
# QRL addresses

`utils/qrl-address.ts` and the QIP-55 casing of `crypto/qip55-checksum.ts`. `shake256` is
the digest of a text, of the given number of bytes.
-/

set_option autoImplicit false

namespace QrlBackend

variable (shake256 : String → ℕ → List UInt8)

/-- The character at position `i`, by the byte of the digest that is there : a hex letter is
uppercase exactly when its nibble is at least 8. -/
def casing (byte : UInt8) (i : ℕ) (c : Char) : Char :=
  if c < 'a' ∨ 'f' < c then c
  else
    let nibble := if i % 2 = 0 then byte >>> 4 else byte &&& 0x0f
    if 8 ≤ nibble then c.toUpper else c

/-- The body in the case that its digest gives. -/
def checksummedBody (lower : String) : String :=
  let hash := shake256 lower (lower.length / 2)
  String.ofList <| lower.toList.mapIdx fun i c => casing (hash[i / 2]?.getD 0) i c

/-- Uniform-case bodies are valid; mixed-case bodies must match the checksum. -/
def hasValidCase (body : String) : Bool :=
  let lower := body.toLower
  if body = lower || body = body.toUpper then true
  else body = checksummedBody shake256 lower

def qrlAddressHexLength : ℕ := 128

def qrlAddressFormat : String := s!"Q + {qrlAddressHexLength} hex chars"

/-- `^Q[0-9a-fA-F]{128}$`, and the case of what follows the `Q`. -/
def isQrlAddress (value : String) : Bool :=
  match value.toList with
  | 'Q' :: body =>
    body.all Hex.isDigit && body.length = qrlAddressHexLength &&
      hasValidCase shake256 (String.ofList body)
  | _ => false

/-- A QIP-55 address : `Q` and 64 bytes of hex, all in one case or in the checksum's. -/
def QrlAddress (address : String) : Prop :=
  ∃ body : String, address = "Q" ++ body ∧ body.length = 128 ∧
    (∀ c ∈ body.toList, Hex.isDigit c = true) ∧
    (body = body.toLower ∨ body = body.toUpper ∨
      body = checksummedBody shake256 body.toLower)

/-- One case throughout, or that of the checksum. -/
theorem hasValidCase_iff (body : String) :
    hasValidCase shake256 body = true ↔ body = body.toLower ∨ body = body.toUpper ∨
      body = checksummedBody shake256 body.toLower := by
  simp only [hasValidCase]
  split
  next h =>
    rw [Bool.or_eq_true, decide_eq_true_eq, decide_eq_true_eq] at h
    exact ⟨fun _ => h.elim .inl (.inr ∘ .inl), fun _ => rfl⟩
  next h =>
    rw [Bool.or_eq_true, decide_eq_true_eq, decide_eq_true_eq, not_or] at h
    rw [decide_eq_true_eq, or_iff_right h.1, or_iff_right h.2]

/-- The check accepts the addresses, and nothing else. -/
theorem isQrlAddress_iff (value : String) :
    isQrlAddress shake256 value = true ↔ QrlAddress shake256 value := by
  constructor
  · intro h
    unfold isQrlAddress at h
    split at h
    next body hbody =>
      rw [Bool.and_eq_true, Bool.and_eq_true, decide_eq_true_eq, List.all_eq_true] at h
      obtain ⟨⟨hdigits, hlength⟩, hcase⟩ := h
      refine ⟨String.ofList body, ?_, ?_, ?_, (hasValidCase_iff shake256 _).1 hcase⟩
      · rw [← String.toList_inj, hbody, String.toList_append, String.toList_ofList,
          String.toList_ofList, List.singleton_append]
      · rw [String.length_ofList, hlength]
        rfl
      · rwa [String.toList_ofList]
    next => cases h
  · rintro ⟨body, rfl, hlength, hdigits, hcase⟩
    have hlist : ("Q" ++ body).toList = 'Q' :: body.toList := by
      rw [String.toList_append]
      rfl
    unfold isQrlAddress
    rw [hlist]
    simp only [Bool.and_eq_true, List.all_eq_true, decide_eq_true_eq, String.ofList_toList]
    exact ⟨⟨hdigits, hlength⟩, (hasValidCase_iff shake256 body).2 hcase⟩

end QrlBackend
