import QrlBackend.RpcSecurity

/-!
# The casing of an address is a checksum

`checksummedBody` reads the nibble of the digest at each position and nothing outside the
digest (`checksummedBody_get?`), and it changes the case of letters only, so it lowercases to
what it was given. A spelling of a body is accepted when it is all lower case, all upper
case or the checksummed one (`hasValidCase_spelling`), and no other. So a checksummed body
with the case of one letter changed is no longer accepted, unless the change made it uniform
(`hasValidCase_recase`).
-/

set_option autoImplicit false

namespace QrlBackend

variable (shake256 : String → ℕ → List UInt8)

/-- A digit keeps its case or gets the upper one. -/
theorem casing_eq_or (byte : UInt8) (i : ℕ) (c : Char) :
    casing byte i c = c ∨ casing byte i c = c.toUpper := by
  unfold casing
  dsimp only
  generalize (if i % 2 = 0 then byte >>> 4 else byte &&& 0x0f) = nibble
  split
  · exact .inl rfl
  · split
    · exact .inr rfl
    · exact .inl rfl

theorem casing_toLower {c : Char} (h : Hex.isLowerDigit c = true) (byte : UInt8) (i : ℕ) :
    (casing byte i c).toLower = c := by
  have hlower := Hex.toLower_of_isLowerDigit h
  rcases casing_eq_or byte i c with hcase | hcase
  · rw [hcase, hlower]
  · rw [hcase, Hex.toLower_toUpper (Hex.isDigit_of_isLowerDigit h), hlower]

theorem checksummedBody_toList (b : String) :
    (checksummedBody shake256 b).toList = b.toList.mapIdx fun i c =>
      casing ((shake256 b (b.length / 2))[i / 2]?.getD 0) i c :=
  String.toList_ofList

theorem checksummedBody_length (b : String) :
    (checksummedBody shake256 b).length = b.length := by
  rw [← String.length_toList, checksummedBody_toList, List.length_mapIdx, String.length_toList]

/-- A body of hex digits in lower case. -/
def IsLowerHexBody (b : String) : Prop := ∀ c ∈ b.toList, Hex.isLowerDigit c = true

/-- Lower-casing takes the checksum away. -/
theorem checksummedBody_toLower {b : String} (hb : IsLowerHexBody b) :
    (checksummedBody shake256 b).toLower = b := by
  rw [← String.toList_inj, Hex.toList_toLower, checksummedBody_toList]
  refine List.ext_getElem? fun i => ?_
  rw [List.getElem?_map, List.getElem?_mapIdx]
  cases hc : b.toList[i]? with
  | none => rfl
  | some c =>
    rw [Option.map_some, Option.map_some, casing_toLower (hb c (List.mem_of_getElem? hc))]

/-- The digest has a byte for every pair of characters, and each is read where it is. -/
theorem checksummedBody_get? {b : String} (heven : b.length % 2 = 0)
    (hdigest : (shake256 b (b.length / 2)).length = b.length / 2) {i : ℕ} {c : Char}
    (hc : b.toList[i]? = some c) :
    ∃ hin : i / 2 < (shake256 b (b.length / 2)).length,
      (checksummedBody shake256 b).toList[i]? =
        some (casing ((shake256 b (b.length / 2)).get ⟨i / 2, hin⟩) i c) := by
  have hi : i < b.length := by
    rw [← String.length_toList]
    exact (List.getElem?_eq_some_iff.1 hc).1
  have hin : i / 2 < (shake256 b (b.length / 2)).length := by
    rw [hdigest]
    omega
  refine ⟨hin, ?_⟩
  rw [checksummedBody_toList, List.getElem?_mapIdx, hc, Option.map_some,
    List.getElem?_eq_getElem hin, Option.getD_some, List.get_eq_getElem]

/-! ## The spellings of a body -/

/-- Only hex digits spell a hex body. -/
theorem isDigit_of_spelling {b s : String} (hb : IsLowerHexBody b) (hs : s.toLower = b) :
    ∀ c ∈ s.toList, Hex.isDigit c = true := by
  intro c hc
  refine Hex.isDigit_of_toLower (hb _ ?_)
  rw [← hs, Hex.toList_toLower]
  exact List.mem_map_of_mem hc

/-- All spellings have the same upper case. -/
theorem toUpper_of_spelling {b s : String} (hb : IsLowerHexBody b) (hs : s.toLower = b) :
    s.toUpper = b.toUpper := by
  rw [← hs, ← String.toList_inj, Hex.toList_toUpper, Hex.toList_toUpper, Hex.toList_toLower,
    List.map_map]
  refine List.map_congr_left fun c hc => ?_
  exact (Hex.toUpper_toLower (isDigit_of_spelling hb hs c hc)).symm

/-- Of all spellings three are valid. -/
theorem hasValidCase_spelling {b s : String} (hb : IsLowerHexBody b) (hs : s.toLower = b) :
    hasValidCase shake256 s = true ↔ s = b ∨ s = b.toUpper ∨ s = checksummedBody shake256 b := by
  rw [hasValidCase_iff, hs, toUpper_of_spelling hb hs]

/-! ## One letter in the other case -/

/-- The other case of a letter. -/
def flipCase (c : Char) : Char := if c.isUpper then c.toLower else c.toUpper

/-- The text with the case of the character at position `i` changed. -/
def recase (s : String) (i : ℕ) : String := String.ofList (s.toList.modify i flipCase)

/-- All in one case. -/
def IsUniform (s : String) : Prop := s = s.toLower ∨ s = s.toUpper

theorem flipCase_toLower {c : Char} (h : Hex.isDigit c = true) :
    (flipCase c).toLower = c.toLower :=
  Hex.forall_digit (p := fun c => (flipCase c).toLower = c.toLower) (by decide) h

theorem flipCase_ne {c : Char} (h : Hex.isDigit c = true) (hletter : c.isAlpha = true) :
    flipCase c ≠ c :=
  Hex.forall_digit (p := fun c => c.isAlpha = true → flipCase c ≠ c) (by decide) h hletter

theorem recase_toLower {s : String} (h : ∀ c ∈ s.toList, Hex.isDigit c = true) (i : ℕ) :
    (recase s i).toLower = s.toLower := by
  rw [← String.toList_inj, Hex.toList_toLower, Hex.toList_toLower, recase, String.toList_ofList]
  refine List.ext_getElem? fun j => ?_
  rw [List.getElem?_map, List.getElem?_map, List.getElem?_modify]
  cases hc : s.toList[j]? with
  | none => rfl
  | some c =>
    rw [Option.map_some, Option.map_eq_map, Option.map_some, Option.map_some]
    split
    · rw [flipCase_toLower (h c (List.mem_of_getElem? hc))]
    · rfl

/-- Another case of one letter is another text. -/
theorem recase_ne {s : String} {i : ℕ} {c : Char} (hc : s.toList[i]? = some c)
    (hdigit : Hex.isDigit c = true) (hletter : c.isAlpha = true) : recase s i ≠ s := by
  intro h
  have hi := congrArg (fun s : String => s.toList[i]?) h
  rw [recase, String.toList_ofList, List.getElem?_modify_eq, hc] at hi
  exact flipCase_ne hdigit hletter (Option.some.inj hi)

/-- A checksummed body with one letter in the other case is accepted only if it is uniform. -/
theorem hasValidCase_recase {b : String} (hb : IsLowerHexBody b) {i : ℕ} {c : Char}
    (hc : (checksummedBody shake256 b).toList[i]? = some c) (hletter : c.isAlpha = true) :
    hasValidCase shake256 (recase (checksummedBody shake256 b) i) = true ↔
      IsUniform (recase (checksummedBody shake256 b) i) := by
  have hlower := checksummedBody_toLower shake256 hb
  have hdigits := isDigit_of_spelling hb hlower
  have hspells := (recase_toLower hdigits i).trans hlower
  have hne := recase_ne hc (hdigits c (List.mem_of_getElem? hc)) hletter
  rw [hasValidCase_spelling shake256 hb hspells, IsUniform, hspells,
    toUpper_of_spelling hb hspells, or_iff_left hne]

/-- An address has a body with an accepted casing. -/
theorem hasValidCase_of_isQrlAddress {body : String}
    (h : isQrlAddress shake256 ("Q" ++ body) = true) : hasValidCase shake256 body = true := by
  obtain ⟨body', heq, -, -, hcase⟩ := (isQrlAddress_iff shake256 _).1 h
  have hlist := congrArg String.toList heq
  rw [String.toList_append, String.toList_append, List.append_cancel_left_eq,
    String.toList_inj] at hlist
  rw [hlist]
  exact (hasValidCase_iff shake256 body').2 hcase

/-- What the casing of the addresses with one body amounts to. -/
structure CaseChecksum (b : String) : Prop where
  length : (checksummedBody shake256 b).length = b.length
  toLower : (checksummedBody shake256 b).toLower = b
  inside : ∀ i c, b.toList[i]? = some c → ∃ hin : i / 2 < (shake256 b (b.length / 2)).length,
    (checksummedBody shake256 b).toList[i]? =
      some (casing ((shake256 b (b.length / 2)).get ⟨i / 2, hin⟩) i c)
  spellings : ∀ s : String, s.toLower = b →
    (hasValidCase shake256 s = true ↔ s = b ∨ s = b.toUpper ∨ s = checksummedBody shake256 b)
  recased : ∀ i c, (checksummedBody shake256 b).toList[i]? = some c → c.isAlpha = true →
    ¬IsUniform (recase (checksummedBody shake256 b) i) →
    hasValidCase shake256 (recase (checksummedBody shake256 b) i) = false ∧
      isQrlAddress shake256 ("Q" ++ recase (checksummedBody shake256 b) i) = false

/-- For every digest of the asked length, the casing of QIP-55 is a checksum of every hex body
of even length, and an address is `Q` and 128 hex digits with such a casing. -/
theorem casing_is_checksum (hdigest : ∀ text n, (shake256 text n).length = n) :
    (∀ b, IsLowerHexBody b → b.length % 2 = 0 → CaseChecksum shake256 b) ∧
      ∀ value, isAddressValue shake256 value = true ↔
        ∃ address, value = .string address ∧ QrlAddress shake256 address := by
  refine ⟨fun b hb heven => ⟨checksummedBody_length shake256 b, checksummedBody_toLower shake256 hb,
    fun i c hc => checksummedBody_get? shake256 heven (hdigest b _) hc,
    fun s hs => hasValidCase_spelling shake256 hb hs, fun i c hc hletter hmixed => ?_⟩,
    fun value => ?_⟩
  · have hrefused : ¬hasValidCase shake256 (recase (checksummedBody shake256 b) i) = true :=
      fun h => hmixed ((hasValidCase_recase shake256 hb hc hletter).1 h)
    rw [Bool.not_eq_true] at hrefused
    refine ⟨hrefused, ?_⟩
    rw [Bool.eq_false_iff]
    intro haddress
    rw [hasValidCase_of_isQrlAddress shake256 haddress] at hrefused
    cases hrefused
  · cases value <;> simp [isAddressValue, isQrlAddress_iff]

/-- The digest of `deadbeef`, and zeros for other texts. -/
def deadbeefDigest (text : String) (n : ℕ) : List UInt8 :=
  if text = "deadbeef" ∧ n = 4 then [0xda, 0x8b, 0x08, 0xd9] else List.replicate n 0

theorem length_deadbeefDigest (text : String) (n : ℕ) : (deadbeefDigest text n).length = n := by
  unfold deadbeefDigest
  split
  next h => exact h.2.symm
  next => exact List.length_replicate

/-- The body `deadbeef` has the spelling `DEADbEEF`, and with its first letter in the other case
it has none. -/
theorem casing_is_checksum_deadbeef :
    CaseChecksum deadbeefDigest "deadbeef" ∧
      checksummedBody deadbeefDigest "deadbeef" = "DEADbEEF" ∧
      hasValidCase deadbeefDigest "dEADbEEF" = false :=
  ⟨(casing_is_checksum deadbeefDigest length_deadbeefDigest).1 "deadbeef"
    (List.all_eq_true.1 (by decide)) (by decide), by decide, by decide +kernel⟩

end QrlBackend
