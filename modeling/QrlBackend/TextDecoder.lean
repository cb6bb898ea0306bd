import Mathlib.Data.List.Basic

/-!
# The streaming text decoder

`new TextDecoder('utf-8', { fatal: true })` of the encoding standard. `Utf8.handle` is what its
UTF-8 decoder does with a byte, with the shifts and masks as arithmetic, and `decode` a call for
a chunk of a stream : the bytes of a code point that is not complete wait for the next chunk.

Whatever the chunks, the decoder reads their concatenation (`decode_append`), and what it
accepts are the encodings of texts, without the mark that may stand in front
(`decode_start_iff`).
-/

set_option autoImplicit false

namespace TextDecoder

/-! ## The decoder -/

/-- The UTF-8 decoder. The boundaries are those of the next byte. -/
structure Utf8 where
  codePoint : ℕ
  bytesSeen : ℕ
  bytesNeeded : ℕ
  lowerBoundary : ℕ
  upperBoundary : ℕ

namespace Utf8

def start : Utf8 := ⟨0, 0, 0, 0x80, 0xBF⟩

/-- The first byte of a code point. -/
def first (byte : ℕ) : Option (Utf8 × Option Char) :=
  if byte ≤ 0x7F then some (start, some (Char.ofNat byte))
  else if 0xC2 ≤ byte ∧ byte ≤ 0xDF then some (⟨byte % 0x20, 0, 1, 0x80, 0xBF⟩, none)
  else if 0xE0 ≤ byte ∧ byte ≤ 0xEF then
    some (⟨byte % 0x10, 0, 2, if byte = 0xE0 then 0xA0 else 0x80,
      if byte = 0xED then 0x9F else 0xBF⟩, none)
  else if 0xF0 ≤ byte ∧ byte ≤ 0xF4 then
    some (⟨byte % 0x8, 0, 3, if byte = 0xF0 then 0x90 else 0x80,
      if byte = 0xF4 then 0x8F else 0xBF⟩, none)
  else none

/-- What the decoder does with a byte : an error, or on with or without a code point. -/
def handle (d : Utf8) (byte : ℕ) : Option (Utf8 × Option Char) :=
  if d.bytesNeeded = 0 then first byte
  else if d.lowerBoundary ≤ byte ∧ byte ≤ d.upperBoundary then
    let codePoint := d.codePoint * 0x40 + byte % 0x40
    if d.bytesSeen + 1 = d.bytesNeeded then some (start, some (Char.ofNat codePoint))
    else some (⟨codePoint, d.bytesSeen + 1, d.bytesNeeded, 0x80, 0xBF⟩, none)
  else none

def feed : Utf8 → List ℕ → Option (Utf8 × List Char)
  | d, [] => some (d, [])
  | d, byte :: bytes => do
    let (d, c) ← d.handle byte
    let (d, text) ← d.feed bytes
    return (d, c.toList ++ text)

end Utf8

/-- U+FEFF, the byte order mark. -/
def byteOrderMark : Char := Char.ofNat 0xFEFF

/-- Serialize what has been decoded. A mark is left out in front of everything else. -/
def serialize (bomSeen : Bool) (text : List Char) : Bool × List Char :=
  match bomSeen, text with
  | false, c :: text => (true, if c = byteOrderMark then text else c :: text)
  | bomSeen, text => (bomSeen, text)

structure Decoder where
  utf8 : Utf8
  bomSeen : Bool

def Decoder.start : Decoder := ⟨.start, false⟩

/-- `decode(chunk, { stream: true })`, nothing for an error. -/
def Decoder.decode (decoder : Decoder) (chunk : List UInt8) : Option (Decoder × List Char) := do
  let (utf8, text) ← decoder.utf8.feed (chunk.map UInt8.toNat)
  let (bomSeen, text) := serialize decoder.bomSeen text
  return (⟨utf8, bomSeen⟩, text)

/-- `decode()`, at the end. It yields no more text, and an error within a code point. -/
def Decoder.flush (decoder : Decoder) : Option (List Char) :=
  if decoder.utf8.bytesNeeded = 0 then some [] else none

/-! ## Chunks -/

/-- Feeding two parts is feeding the first, then the second. -/
theorem Utf8.feed_append (d : Utf8) (bytes bytes' : List ℕ) :
    d.feed (bytes ++ bytes') = (d.feed bytes).bind fun (d, text) =>
      (d.feed bytes').map fun (d, text') => (d, text ++ text') := by
  induction bytes generalizing d with
  | nil => simp [feed]
  | cons byte bytes ih =>
    rw [List.cons_append, feed, feed]
    cases d.handle byte with
    | none => rfl
    | some handled =>
      obtain ⟨d, c⟩ := handled
      simp only [Option.bind_eq_bind, Option.bind_some, Option.pure_def, ih]
      cases d.feed bytes with
      | none => rfl
      | some fed =>
        obtain ⟨d, text⟩ := fed
        simp only [Option.bind_some]
        cases d.feed bytes' with
        | none => rfl
        | some fed => simp

theorem serialize_append (bomSeen : Bool) (text text' : List Char) :
    serialize bomSeen (text ++ text') =
      ((serialize (serialize bomSeen text).1 text').1,
        (serialize bomSeen text).2 ++ (serialize (serialize bomSeen text).1 text').2) := by
  cases bomSeen with
  | true => rfl
  | false =>
    cases text with
    | nil => rfl
    | cons c text =>
      rw [List.cons_append, serialize, serialize]
      split <;> rfl

theorem Decoder.decode_nil (decoder : Decoder) : decoder.decode [] = some (decoder, []) := by
  obtain ⟨utf8, bomSeen⟩ := decoder
  cases bomSeen <;> rfl

theorem Decoder.flush_cases (decoder : Decoder) :
    decoder.flush = some [] ∨ decoder.flush = none := by
  unfold flush
  split
  · exact .inl rfl
  · exact .inr rfl

/-- Decoding two chunks is decoding their concatenation. -/
theorem Decoder.decode_append (decoder : Decoder) (bytes bytes' : List UInt8) :
    decoder.decode (bytes ++ bytes') = (decoder.decode bytes).bind fun (decoder, text) =>
      (decoder.decode bytes').map fun (decoder, text') => (decoder, text ++ text') := by
  unfold decode
  rw [List.map_append, Utf8.feed_append]
  cases decoder.utf8.feed (bytes.map UInt8.toNat) with
  | none => rfl
  | some fed =>
    obtain ⟨d, text⟩ := fed
    simp only [Option.bind_eq_bind, Option.bind_some, Option.pure_def]
    cases d.feed (bytes'.map UInt8.toNat) with
    | none => rfl
    | some fed =>
      simp only [Option.map_some, Option.bind_some]
      rw [serialize_append]

/-! ## Encodings -/

namespace Utf8

/-- The bytes of a code point. -/
def encode (v : ℕ) : List ℕ :=
  if v ≤ 0x7F then [v]
  else if v ≤ 0x7FF then [v / 0x40 % 0x20 + 0xC0, v % 0x40 + 0x80]
  else if v ≤ 0xFFFF then
    [v / 0x1000 % 0x10 + 0xE0, v / 0x40 % 0x40 + 0x80, v % 0x40 + 0x80]
  else
    [v / 0x40000 % 0x8 + 0xF0, v / 0x1000 % 0x40 + 0x80, v / 0x40 % 0x40 + 0x80, v % 0x40 + 0x80]

theorem map_toNat_utf8EncodeChar (c : Char) :
    (String.utf8EncodeChar c).map UInt8.toNat = encode c.toNat := by
  have hbyte : ∀ n < 256, (UInt8.ofNat n).toNat = n := fun n hn =>
    UInt8.toNat_ofNat_of_lt' hn
  unfold String.utf8EncodeChar encode
  dsimp only [Char.toNat]
  split
  next h => rw [List.map_singleton, hbyte _ (by omega)]
  next =>
    split
    next => simp (disch := omega) only [List.map_cons, List.map_nil, hbyte]
    next =>
      split
      next => simp (disch := omega) only [List.map_cons, List.map_nil, hbyte]
      next => simp (disch := omega) only [List.map_cons, List.map_nil, hbyte]

variable {d : Utf8} {byte : ℕ} {bytes : List ℕ}

theorem feed_of_none {d' : Utf8} (h : d.handle byte = some (d', none)) :
    d.feed (byte :: bytes) = d'.feed bytes := by
  rw [feed, h]
  cases hfeed : d'.feed bytes <;> simp [hfeed]

theorem feed_of_some {d' : Utf8} {c : Char} (h : d.handle byte = some (d', some c)) :
    d.feed (byte :: bytes) = (d'.feed bytes).map fun (d, text) => (d, c :: text) := by
  rw [feed, h]
  cases hfeed : d'.feed bytes <;> simp [hfeed]

theorem handle_start (byte : ℕ) : start.handle byte = first byte := if_pos rfl

theorem handle_one (h : byte ≤ 0x7F) :
    start.handle byte = some (start, some (Char.ofNat byte)) :=
  if_pos h

theorem handle_two (byte : ℕ) (h : 0xC2 ≤ byte ∧ byte ≤ 0xDF) :
    start.handle byte = some (⟨byte % 0x20, 0, 1, 0x80, 0xBF⟩, none) := by
  rw [handle_start, first, if_neg (by omega), if_pos h]

theorem handle_three (byte : ℕ) (h : 0xE0 ≤ byte ∧ byte ≤ 0xEF) :
    start.handle byte = some (⟨byte % 0x10, 0, 2, if byte = 0xE0 then 0xA0 else 0x80,
      if byte = 0xED then 0x9F else 0xBF⟩, none) := by
  rw [handle_start, first, if_neg (by omega), if_neg (by omega), if_pos h]

theorem handle_four (byte : ℕ) (h : 0xF0 ≤ byte ∧ byte ≤ 0xF4) :
    start.handle byte = some (⟨byte % 0x8, 0, 3, if byte = 0xF0 then 0x90 else 0x80,
      if byte = 0xF4 then 0x8F else 0xBF⟩, none) := by
  rw [handle_start, first, if_neg (by omega), if_neg (by omega), if_neg (by omega), if_pos h]

/-- The last byte of a code point. -/
theorem handle_last {codePoint bytesSeen lower upper : ℕ} (hlower : lower ≤ byte)
    (hupper : byte ≤ upper) :
    handle ⟨codePoint, bytesSeen, bytesSeen + 1, lower, upper⟩ byte =
      some (start, some (Char.ofNat (codePoint * 0x40 + byte % 0x40))) := by
  rw [handle, if_neg (Nat.succ_ne_zero _), if_pos ⟨hlower, hupper⟩, if_pos rfl]

/-- A byte that is not the last one. -/
theorem handle_middle {codePoint bytesSeen bytesNeeded lower upper : ℕ} (hlower : lower ≤ byte)
    (hupper : byte ≤ upper) (hneeded : bytesSeen + 1 < bytesNeeded) :
    handle ⟨codePoint, bytesSeen, bytesNeeded, lower, upper⟩ byte =
      some (⟨codePoint * 0x40 + byte % 0x40, bytesSeen + 1, bytesNeeded, 0x80, 0xBF⟩, none) := by
  rw [handle, if_neg (Nat.ne_zero_of_lt hneeded), if_pos ⟨hlower, hupper⟩,
    if_neg (Nat.ne_of_lt hneeded)]

/-- The decoder reads the encoding of a code point. -/
theorem feed_encode {v : ℕ} (hv : v.isValidChar) (bytes : List ℕ) :
    start.feed (encode v ++ bytes) =
      (start.feed bytes).map fun (d, text) => (d, Char.ofNat v :: text) := by
  have hrange : v < 0xD800 ∨ 0xDFFF < v ∧ v < 0x110000 := hv
  unfold encode
  split
  next h => exact feed_of_some (handle_one h)
  next h₁ =>
    split
    next h₂ =>
      have hlead := handle_two (v / 0x40 % 0x20 + 0xC0) (by omega)
      have hpoint : (v / 0x40 % 0x20 + 0xC0) % 0x20 * 0x40 + (v % 0x40 + 0x80) % 0x40 = v := by
        omega
      rw [List.cons_append, feed_of_none hlead, List.singleton_append,
        feed_of_some (handle_last (by omega) (by omega)), hpoint]
    next h₂ =>
      split
      next h₃ =>
        have hlead := handle_three (v / 0x1000 % 0x10 + 0xE0) (by omega)
        have hpoint : ((v / 0x1000 % 0x10 + 0xE0) % 0x10 * 0x40 +
            (v / 0x40 % 0x40 + 0x80) % 0x40) * 0x40 + (v % 0x40 + 0x80) % 0x40 = v := by
          omega
        rw [List.cons_append, feed_of_none hlead, List.cons_append,
          feed_of_none (handle_middle (by split <;> omega) (by split <;> omega) (by omega)),
          List.singleton_append, feed_of_some (handle_last (by omega) (by omega)), hpoint]
      next h₃ =>
        have hlead := handle_four (v / 0x40000 % 0x8 + 0xF0) (by omega)
        have hpoint : (((v / 0x40000 % 0x8 + 0xF0) % 0x8 * 0x40 +
            (v / 0x1000 % 0x40 + 0x80) % 0x40) * 0x40 + (v / 0x40 % 0x40 + 0x80) % 0x40) * 0x40 +
            (v % 0x40 + 0x80) % 0x40 = v := by
          omega
        rw [List.cons_append, feed_of_none hlead, List.cons_append,
          feed_of_none (handle_middle (by split <;> omega) (by split <;> omega) (by omega)),
          List.cons_append, feed_of_none (handle_middle (by omega) (by omega) (by omega)),
          List.singleton_append, feed_of_some (handle_last (by omega) (by omega)), hpoint]

/-- What the first byte of a longer encoding can be. -/
theorem first_eq_none {d : Utf8} (h : first byte = some (d, none)) :
    (0xC2 ≤ byte ∧ byte ≤ 0xDF ∧ d = ⟨byte % 0x20, 0, 1, 0x80, 0xBF⟩) ∨
    (0xE0 ≤ byte ∧ byte ≤ 0xEF ∧ d = ⟨byte % 0x10, 0, 2, if byte = 0xE0 then 0xA0 else 0x80,
      if byte = 0xED then 0x9F else 0xBF⟩) ∨
    0xF0 ≤ byte ∧ byte ≤ 0xF4 ∧ d = ⟨byte % 0x8, 0, 3, if byte = 0xF0 then 0x90 else 0x80,
      if byte = 0xF4 then 0x8F else 0xBF⟩ := by
  unfold first at h
  split at h
  · cases h
  · split at h
    next htwo =>
      cases h
      exact .inl ⟨htwo.1, htwo.2, rfl⟩
    next =>
      split at h
      next hthree =>
        cases h
        exact .inr (.inl ⟨hthree.1, hthree.2, rfl⟩)
      next =>
        split at h
        next hfour =>
          cases h
          exact .inr (.inr ⟨hfour.1, hfour.2, rfl⟩)
        next => cases h

/-- The decoder within an encoding, and the bytes of it so far. -/
inductive Pending : Utf8 → List ℕ → Prop
  | start : Pending start []
  | first {b : ℕ} {d : Utf8} (h : first b = some (d, none)) : Pending d [b]
  | second {b b₁ : ℕ} {d : Utf8} (h : first b = some (d, none)) (hneeded : 2 ≤ d.bytesNeeded)
      (hb₁ : d.lowerBoundary ≤ b₁ ∧ b₁ ≤ d.upperBoundary) :
      Pending ⟨d.codePoint * 0x40 + b₁ % 0x40, 1, d.bytesNeeded, 0x80, 0xBF⟩ [b, b₁]
  | third {b b₁ b₂ : ℕ} {d : Utf8} (h : first b = some (d, none)) (hneeded : d.bytesNeeded = 3)
      (hb₁ : d.lowerBoundary ≤ b₁ ∧ b₁ ≤ d.upperBoundary) (hb₂ : 0x80 ≤ b₂ ∧ b₂ ≤ 0xBF) :
      Pending ⟨(d.codePoint * 0x40 + b₁ % 0x40) * 0x40 + b₂ % 0x40, 2, 3, 0x80, 0xBF⟩ [b, b₁, b₂]

/-- If the decoder needs no more bytes it is not within an encoding. -/
theorem Pending.eq_start {d : Utf8} {tail : List ℕ} (h : Pending d tail)
    (hneeded : d.bytesNeeded = 0) : d = Utf8.start ∧ tail = [] := by
  cases h with
  | start => exact ⟨rfl, rfl⟩
  | first h => rcases first_eq_none h with ⟨-, -, rfl⟩ | ⟨-, -, rfl⟩ | ⟨-, -, rfl⟩ <;> cases hneeded
  | second h hneeded' => exact absurd (hneeded ▸ hneeded') (by decide)
  | third => cases hneeded

theorem encode_two {b b₁ : ℕ} (hb : 0xC2 ≤ b) (hb' : b ≤ 0xDF) (hb₁ : 0x80 ≤ b₁ ∧ b₁ ≤ 0xBF) :
    (b % 0x20 * 0x40 + b₁ % 0x40).isValidChar ∧
      encode (b % 0x20 * 0x40 + b₁ % 0x40) = [b, b₁] := by
  generalize hv : b % 0x20 * 0x40 + b₁ % 0x40 = v
  have hlead : v / 0x40 % 0x20 + 0xC0 = b := by omega
  have hlast : v % 0x40 + 0x80 = b₁ := by omega
  refine ⟨.inl (by omega), ?_⟩
  rw [encode, if_neg (by omega), if_pos (by omega), hlead, hlast]

/-- The bounds of the second byte rule out short numbers and surrogates. -/
theorem encode_three {b b₁ b₂ : ℕ} (hb : 0xE0 ≤ b) (hb' : b ≤ 0xEF)
    (hb₁ : (if b = 0xE0 then 0xA0 else 0x80) ≤ b₁ ∧ b₁ ≤ if b = 0xED then 0x9F else 0xBF)
    (hb₂ : 0x80 ≤ b₂ ∧ b₂ ≤ 0xBF) :
    ((b % 0x10 * 0x40 + b₁ % 0x40) * 0x40 + b₂ % 0x40).isValidChar ∧
      encode ((b % 0x10 * 0x40 + b₁ % 0x40) * 0x40 + b₂ % 0x40) = [b, b₁, b₂] := by
  have hlower : 0x80 ≤ b₁ ∧ (b = 0xE0 → 0xA0 ≤ b₁) := by
    have := hb₁.1
    split at this <;> omega
  have hupper : b₁ ≤ 0xBF ∧ (b = 0xED → b₁ ≤ 0x9F) := by
    have := hb₁.2
    split at this <;> omega
  generalize hv : (b % 0x10 * 0x40 + b₁ % 0x40) * 0x40 + b₂ % 0x40 = v
  have hlead : v / 0x1000 % 0x10 + 0xE0 = b := by omega
  have hmiddle : v / 0x40 % 0x40 + 0x80 = b₁ := by omega
  have hlast : v % 0x40 + 0x80 = b₂ := by omega
  have hvalid : v < 0xD800 ∨ 0xDFFF < v ∧ v < 0x110000 := by omega
  refine ⟨hvalid, ?_⟩
  rw [encode, if_neg (by omega), if_neg (by omega), if_pos (by omega), hlead, hmiddle, hlast]

theorem encode_four {b b₁ b₂ b₃ : ℕ} (hb : 0xF0 ≤ b) (hb' : b ≤ 0xF4)
    (hb₁ : (if b = 0xF0 then 0x90 else 0x80) ≤ b₁ ∧ b₁ ≤ if b = 0xF4 then 0x8F else 0xBF)
    (hb₂ : 0x80 ≤ b₂ ∧ b₂ ≤ 0xBF) (hb₃ : 0x80 ≤ b₃ ∧ b₃ ≤ 0xBF) :
    (((b % 0x8 * 0x40 + b₁ % 0x40) * 0x40 + b₂ % 0x40) * 0x40 + b₃ % 0x40).isValidChar ∧
      encode (((b % 0x8 * 0x40 + b₁ % 0x40) * 0x40 + b₂ % 0x40) * 0x40 + b₃ % 0x40) =
        [b, b₁, b₂, b₃] := by
  have hlower : 0x80 ≤ b₁ ∧ (b = 0xF0 → 0x90 ≤ b₁) := by
    have := hb₁.1
    split at this <;> omega
  have hupper : b₁ ≤ 0xBF ∧ (b = 0xF4 → b₁ ≤ 0x8F) := by
    have := hb₁.2
    split at this <;> omega
  generalize hv : ((b % 0x8 * 0x40 + b₁ % 0x40) * 0x40 + b₂ % 0x40) * 0x40 + b₃ % 0x40 = v
  have hlead : v / 0x40000 % 0x8 + 0xF0 = b := by omega
  have hsecond : v / 0x1000 % 0x40 + 0x80 = b₁ := by omega
  have hthird : v / 0x40 % 0x40 + 0x80 = b₂ := by omega
  have hlast : v % 0x40 + 0x80 = b₃ := by omega
  have hvalid : v < 0xD800 ∨ 0xDFFF < v ∧ v < 0x110000 := by omega
  refine ⟨hvalid, ?_⟩
  rw [encode, if_neg (by omega), if_neg (by omega), if_neg (by omega), hlead, hsecond, hthird,
    hlast]

/-- A byte behind the first one. -/
theorem handle_of_needed {d d' : Utf8} {c : Option Char} (hneeded : d.bytesNeeded ≠ 0)
    (h : d.handle byte = some (d', c)) :
    (d.lowerBoundary ≤ byte ∧ byte ≤ d.upperBoundary) ∧
      (d.bytesSeen + 1 = d.bytesNeeded ∧ d' = start ∧
          c = some (Char.ofNat (d.codePoint * 0x40 + byte % 0x40)) ∨
        d.bytesSeen + 1 ≠ d.bytesNeeded ∧ c = none ∧
          d' = ⟨d.codePoint * 0x40 + byte % 0x40, d.bytesSeen + 1, d.bytesNeeded, 0x80, 0xBF⟩) := by
  rw [handle, if_neg hneeded] at h
  split at h
  next hbounds =>
    refine ⟨hbounds, ?_⟩
    dsimp only at h
    split at h
    next hlast =>
      cases h
      exact .inl ⟨hlast, rfl, rfl⟩
    next hmore =>
      cases h
      exact .inr ⟨hmore, rfl, rfl⟩
  next => cases h

/-- A byte goes on with an encoding or completes it. -/
theorem Pending.handle {d d' : Utf8} {tail : List ℕ} {b : ℕ} {c : Option Char}
    (h : Pending d tail) (hb : d.handle b = some (d', c)) :
    c = none ∧ Pending d' (tail ++ [b]) ∨
      d' = Utf8.start ∧ ∃ v : ℕ, v.isValidChar ∧ c = some (Char.ofNat v) ∧
        encode v = tail ++ [b] := by
  cases h with
  | start =>
    rw [handle_start] at hb
    cases c with
    | none => exact .inl ⟨rfl, .first hb⟩
    | some c =>
      unfold Utf8.first at hb
      split at hb
      next hone =>
        cases hb
        exact .inr ⟨rfl, b, .inl (by omega), rfl, if_pos hone⟩
      next =>
        split at hb
        · cases hb
        · split at hb
          · cases hb
          · split at hb <;> cases hb
  | first hlead =>
    obtain ⟨hlower, hupper, rfl⟩ | ⟨hlower, hupper, rfl⟩ | ⟨hlower, hupper, rfl⟩ :=
      first_eq_none hlead
    · obtain ⟨hbounds, ⟨-, rfl, rfl⟩ | ⟨hmore, -⟩⟩ := handle_of_needed (Nat.succ_ne_zero _) hb
      · obtain ⟨hvalid, hencode⟩ := encode_two hlower hupper hbounds
        exact .inr ⟨rfl, _, hvalid, rfl, hencode⟩
      · exact absurd rfl hmore
    · obtain ⟨hbounds, ⟨hlast, -⟩ | ⟨-, rfl, rfl⟩⟩ := handle_of_needed (Nat.succ_ne_zero _) hb
      · cases hlast
      · exact .inl ⟨rfl, .second hlead (Nat.le_refl 2) hbounds⟩
    · obtain ⟨hbounds, ⟨hlast, -⟩ | ⟨-, rfl, rfl⟩⟩ := handle_of_needed (Nat.succ_ne_zero _) hb
      · cases hlast
      · exact .inl ⟨rfl, .second hlead (Nat.le_succ 2) hbounds⟩
  | second hlead hneeded hb₁ =>
    obtain ⟨hlower, hupper, rfl⟩ | ⟨hlower, hupper, rfl⟩ | ⟨hlower, hupper, rfl⟩ :=
      first_eq_none hlead
    · exact absurd hneeded (Nat.not_succ_le_self 1)
    · obtain ⟨hbounds, ⟨-, rfl, rfl⟩ | ⟨hmore, -⟩⟩ := handle_of_needed (Nat.succ_ne_zero _) hb
      · obtain ⟨hvalid, hencode⟩ := encode_three hlower hupper hb₁ hbounds
        exact .inr ⟨rfl, _, hvalid, rfl, hencode⟩
      · exact absurd rfl hmore
    · obtain ⟨hbounds, ⟨hlast, -⟩ | ⟨-, rfl, rfl⟩⟩ := handle_of_needed (Nat.succ_ne_zero _) hb
      · cases hlast
      · exact .inl ⟨rfl, .third hlead rfl hb₁ hbounds⟩
  | third hlead hneeded hb₁ hb₂ =>
    obtain ⟨hlower, hupper, rfl⟩ | ⟨hlower, hupper, rfl⟩ | ⟨hlower, hupper, rfl⟩ :=
      first_eq_none hlead
    · cases hneeded
    · cases hneeded
    · obtain ⟨hbounds, ⟨-, rfl, rfl⟩ | ⟨hmore, -⟩⟩ := handle_of_needed (Nat.succ_ne_zero _) hb
      · obtain ⟨hvalid, hencode⟩ := encode_four hlower hupper hb₁ hb₂ hbounds
        exact .inr ⟨rfl, _, hvalid, rfl, hencode⟩
      · exact absurd rfl hmore

/-- What has been fed are encodings, and the bytes that are pending. -/
theorem Pending.feed {d d' : Utf8} {tail bytes : List ℕ} {text : List Char}
    (h : Pending d tail) (hfeed : d.feed bytes = some (d', text)) :
    ∃ tail', Pending d' tail' ∧
      tail ++ bytes = text.flatMap (fun c => encode c.toNat) ++ tail' := by
  induction bytes generalizing d tail text with
  | nil =>
    cases hfeed
    exact ⟨tail, h, List.append_nil _⟩
  | cons b bytes ih =>
    rw [Utf8.feed] at hfeed
    simp only [Option.bind_eq_bind, Option.bind_eq_some_iff, Option.pure_def, Option.some.injEq,
      Prod.exists, Prod.mk.injEq] at hfeed
    obtain ⟨d₁, c, hb, d₂, text', hrest, rfl, rfl⟩ := hfeed
    obtain ⟨rfl, hpending⟩ | ⟨rfl, v, hvalid, rfl, hencode⟩ := h.handle hb
    · obtain ⟨tail', htail', heq⟩ := ih hpending hrest
      refine ⟨tail', htail', ?_⟩
      rw [← List.append_cons] at heq
      exact heq
    · obtain ⟨tail', htail', heq⟩ := ih .start hrest
      refine ⟨tail', htail', ?_⟩
      have hpoint : (Char.ofNat v).toNat = v := by
        rw [Char.ofNat, dif_pos hvalid]
        rfl
      rw [List.nil_append] at heq
      rw [Option.toList_some, List.singleton_append, List.flatMap_cons, hpoint, hencode, heq,
        List.append_assoc, List.append_assoc]
      rfl

theorem feed_flatMap_encode (text : List Char) :
    start.feed (text.flatMap fun c => encode c.toNat) = some (start, text) := by
  induction text with
  | nil => rfl
  | cons c text ih =>
    have hvalid : c.toNat.isValidChar := c.valid
    rw [List.flatMap_cons, feed_encode hvalid, ih, Option.map_some, Char.ofNat_toNat]

/-- What the decoder reads up to the end of a code point are the encodings of texts. -/
theorem feed_start_iff {bytes : List UInt8} {d : Utf8} {text : List Char} :
    start.feed (bytes.map UInt8.toNat) = some (d, text) ∧ d.bytesNeeded = 0 ↔
      bytes = text.flatMap String.utf8EncodeChar ∧ d = start := by
  have hencode : (text.flatMap String.utf8EncodeChar).map UInt8.toNat =
      text.flatMap fun c => encode c.toNat := by
    simp only [List.map_flatMap, map_toNat_utf8EncodeChar]
  constructor
  · rintro ⟨hfeed, hneeded⟩
    obtain ⟨tail, htail, hbytes⟩ := Pending.start.feed hfeed
    obtain ⟨rfl, rfl⟩ := htail.eq_start hneeded
    rw [List.nil_append, List.append_nil, ← hencode] at hbytes
    exact ⟨List.map_injective_iff.2 (fun _ _ => UInt8.toNat_inj.1) hbytes, rfl⟩
  · rintro ⟨rfl, rfl⟩
    exact ⟨by rw [hencode, feed_flatMap_encode], rfl⟩

end Utf8

/-- The text without the mark in front. -/
def withoutMark (text : List Char) : List Char := (serialize false text).2

/-- What a stream is decoded to, up to its end, is the text that it encodes. -/
theorem Decoder.decode_start_iff {bytes : List UInt8} {text : List Char} :
    (∃ decoder, Decoder.start.decode bytes = some (decoder, text) ∧ decoder.flush = some []) ↔
      ∃ encoded : List Char, bytes = encoded.flatMap String.utf8EncodeChar ∧
        text = withoutMark encoded := by
  have hdecode : ∀ decoder, Decoder.start.decode bytes = some (decoder, text) ↔
      ∃ utf8 encoded, Utf8.start.feed (bytes.map UInt8.toNat) = some (utf8, encoded) ∧
        decoder = ⟨utf8, (serialize false encoded).1⟩ ∧ text = withoutMark encoded := by
    intro decoder
    simp only [decode, start, withoutMark, Option.bind_eq_bind, Option.bind_eq_some_iff,
      Option.pure_def, Option.some.injEq, Prod.exists, Prod.mk.injEq]
    constructor
    · rintro ⟨utf8, encoded, hfeed, rfl, rfl⟩
      exact ⟨utf8, encoded, hfeed, rfl, rfl⟩
    · rintro ⟨utf8, encoded, hfeed, rfl, rfl⟩
      exact ⟨utf8, encoded, hfeed, rfl, rfl⟩
  have hflush : ∀ decoder : Decoder, decoder.flush = some [] ↔ decoder.utf8.bytesNeeded = 0 := by
    intro decoder
    rw [flush]
    split
    next h => exact iff_of_true rfl h
    next h => exact iff_of_false nofun h
  simp only [hdecode, hflush]
  constructor
  · rintro ⟨_, ⟨utf8, encoded, hfeed, rfl, rfl⟩, hneeded⟩
    exact ⟨encoded, (Utf8.feed_start_iff.1 ⟨hfeed, hneeded⟩).1, rfl⟩
  · rintro ⟨encoded, hencoded, rfl⟩
    obtain ⟨hfeed, hneeded⟩ := Utf8.feed_start_iff.2 ⟨hencoded, rfl⟩
    exact ⟨_, ⟨_, encoded, hfeed, rfl, rfl⟩, hneeded⟩

end TextDecoder
