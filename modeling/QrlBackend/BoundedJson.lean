import QrlBackend.Configuration
import QrlBackend.TextDecoder
import QrlBackend.Upstream
import Mathlib.Data.List.TakeWhile

/-!
# Bounded reading of JSON

`utils/bounded-json.ts` : the body of a response is read chunk after chunk, counted and decoded
on the way, and parsed when all of it is there. `readLoop` is the loop over the reads of the
body, for the reads that have settled so far : behind them it still awaits, has thrown, or has
come to the end of the stream.

How a body is cut into chunks does not matter (`readLoop_chunks`), because decoding goes on
where the chunk before has ended.
-/

set_option autoImplicit false

namespace QrlBackend

open TextDecoder

structure BoundedJsonError where
  failure : BoundedJsonFailure
  message : String
  deriving DecidableEq

def BoundedJsonFailure.message : BoundedJsonFailure → String
  | .tooLarge => "response body too large"
  | .empty => "response body is empty"
  | .nonBinary => "response stream yielded a non-binary chunk"
  | .invalidUtf8 => "response body is not valid UTF-8"
  | .invalidJson => "response body is not valid JSON"
  | .streamError => "response stream failed"

def BoundedJsonFailure.error (failure : BoundedJsonFailure) : BoundedJsonError :=
  ⟨failure, failure.message⟩

/-- `/^\d+$/`. -/
def isNumeral (value : String) : Bool :=
  !value.toList.isEmpty && value.toList.all Char.isDigit

/-- A length that is no numeral does not count. -/
def declaredBodyIsOversize (value : Option String) (maxBytes : ℕ) : Bool :=
  match value with
  | none => false
  | some value => isNumeral value && maxBytes < decimalValue value

/-- What a read of a body comes to. -/
inductive BodyRead where
  | chunk (value : List UInt8)
  | nonBinary
  | done
  | rejected
  deriving DecidableEq

/-- What is kept between chunks. -/
structure BodyState where
  decoder : Decoder
  received : ℕ
  body : List Char

def BodyState.start : BodyState := ⟨.start, 0, []⟩

/-- How the loop over the chunks ends. -/
inductive LoopEnd where
  | awaits (st : BodyState)
  | throws (st : BodyState) (failure : BoundedJsonFailure)
  | reachedEof (st : BodyState)

/-- What the loop has kept. -/
def LoopEnd.state : LoopEnd → BodyState
  | .awaits st => st
  | .throws st _ => st
  | .reachedEof st => st

/-- The loop, and the end of decoding behind it. -/
def readLoop (maxBytes : ℕ) (st : BodyState) : List BodyRead → LoopEnd
  | [] => .awaits st
  | .rejected :: _ => .throws st .streamError
  | .nonBinary :: _ => .throws st .nonBinary
  | .done :: _ =>
    match st.decoder.flush with
    | none => .throws st .invalidUtf8
    | some text => .reachedEof { st with body := st.body ++ text }
  | .chunk value :: reads =>
    if maxBytes < st.received + value.length then .throws st .tooLarge
    else
      let st := { st with received := st.received + value.length }
      match st.decoder.decode value with
      | none => .throws st .invalidUtf8
      | some (decoder, text) => readLoop maxBytes { st with decoder, body := st.body ++ text } reads

/-- What has come of a call : its result, if it has settled, the bytes of the accepted chunks,
whether the controller is aborted, and whether the body is cancelled. -/
structure BodyOutcome (V : Type) where
  result : Option (Except BoundedJsonError V)
  received : ℕ
  aborted : Bool
  cancelled : Bool

variable {V : Type} (parseJson : String → Option V) (maxBytes : ℕ)

/-- The end of `readBoundedJsonResponse`, for a body that has been read. -/
def parseBody (st : BodyState) : Except BoundedJsonError V :=
  if st.received = 0 then .error BoundedJsonFailure.empty.error
  else
    match parseJson (String.ofList st.body) with
    | some parsed => .ok parsed
    | none => .error BoundedJsonFailure.invalidJson.error

/-- `parseJson` is `JSON.parse`. -/
def readBoundedJsonResponse (contentLength : Option String) (body : Option (List BodyRead)) :
    BodyOutcome V :=
  if declaredBodyIsOversize contentLength maxBytes then
    ⟨some (.error BoundedJsonFailure.tooLarge.error), 0, true, false⟩
  else
    match body with
    | none => ⟨some (.error BoundedJsonFailure.empty.error), 0, false, false⟩
    | some reads =>
      match readLoop maxBytes .start reads with
      | .awaits st => ⟨none, st.received, false, false⟩
      | .throws st failure => ⟨some (.error failure.error), st.received, true, true⟩
      | .reachedEof st => ⟨some (parseBody parseJson st), st.received, false, false⟩

/-! ## Chunks -/

variable {maxBytes}

/-- The reads of a stream that ends behind these chunks. -/
def streamOf (chunks : List (List UInt8)) : List BodyRead := chunks.map .chunk ++ [.done]

section

variable {st : BodyState} {value : List UInt8} {reads : List BodyRead}

/-- A chunk too many ends the loop. -/
theorem readLoop_of_large (h : maxBytes < st.received + value.length) :
    readLoop maxBytes st (.chunk value :: reads) = .throws st .tooLarge := by
  rw [readLoop, if_pos h]

/-- So does one that is no UTF-8. -/
theorem readLoop_of_invalid (h : ¬ maxBytes < st.received + value.length)
    (hdecode : st.decoder.decode value = none) :
    readLoop maxBytes st (.chunk value :: reads) =
      .throws { st with received := st.received + value.length } .invalidUtf8 := by
  rw [readLoop, if_neg h]
  simp only [hdecode]

/-- Any other chunk is decoded. -/
theorem readLoop_of_decode {decoder : Decoder} {text : List Char}
    (h : ¬ maxBytes < st.received + value.length)
    (hdecode : st.decoder.decode value = some (decoder, text)) :
    readLoop maxBytes st (.chunk value :: reads) =
      readLoop maxBytes ⟨decoder, st.received + value.length, st.body ++ text⟩ reads := by
  rw [readLoop, if_neg h]
  simp only [hdecode]

end

/-- The bytes are within the limit, and are decoded to the text up to their end. -/
structure Accepts (maxBytes : ℕ) (st : BodyState) (bytes : List UInt8) (decoder : Decoder)
    (text : List Char) : Prop where
  length : st.received + bytes.length ≤ maxBytes
  decode : st.decoder.decode bytes = some (decoder, text)
  flush : decoder.flush = some []

/-- Bytes are accepted chunk by chunk. -/
theorem accepts_append_iff {st : BodyState} {value bytes : List UInt8}
    {decoder₁ decoder : Decoder} {text₁ text : List Char}
    (hvalue : st.decoder.decode value = some (decoder₁, text₁)) :
    Accepts maxBytes st (value ++ bytes) decoder text ↔ ∃ text₂, text = text₁ ++ text₂ ∧
      Accepts maxBytes ⟨decoder₁, st.received + value.length, st.body ++ text₁⟩ bytes decoder
        text₂ := by
  have hdecode : st.decoder.decode (value ++ bytes) = some (decoder, text) ↔
      ∃ text₂, text = text₁ ++ text₂ ∧ decoder₁.decode bytes = some (decoder, text₂) := by
    rw [Decoder.decode_append, hvalue, Option.bind_some, Option.map_eq_some_iff]
    constructor
    · rintro ⟨⟨decoder', text₂⟩, hbytes, heq⟩
      cases heq
      exact ⟨text₂, rfl, hbytes⟩
    · rintro ⟨text₂, rfl, hbytes⟩
      exact ⟨(decoder, text₂), hbytes, rfl⟩
  have hlength : st.received + (value ++ bytes).length =
      st.received + value.length + bytes.length := by
    rw [List.length_append, Nat.add_assoc]
  constructor
  · intro h
    obtain ⟨text₂, heq, hbytes⟩ := hdecode.1 h.decode
    exact ⟨text₂, heq, hlength ▸ h.length, hbytes, h.flush⟩
  · rintro ⟨text₂, heq, h⟩
    exact ⟨hlength ▸ h.length, hdecode.2 ⟨text₂, heq, h.decode⟩, h.flush⟩

/-- The loop over the chunks of a stream comes to what their bytes come to in one piece. -/
theorem readLoop_chunks {st : BodyState} (hst : st.received ≤ maxBytes)
    (chunks : List (List UInt8)) :
    (∃ decoder text, Accepts maxBytes st chunks.flatten decoder text ∧
      readLoop maxBytes st (streamOf chunks) =
        .reachedEof ⟨decoder, st.received + chunks.flatten.length, st.body ++ text⟩) ∨
    (∀ decoder text, ¬ Accepts maxBytes st chunks.flatten decoder text) ∧
      ∃ st' failure, readLoop maxBytes st (streamOf chunks) = .throws st' failure := by
  induction chunks generalizing st with
  | nil =>
    rw [streamOf, List.map_nil, List.nil_append, List.flatten_nil, readLoop]
    rcases st.decoder.flush_cases with hflush | hflush
    · rw [hflush]
      exact .inl ⟨st.decoder, [], ⟨hst, st.decoder.decode_nil, hflush⟩, rfl⟩
    · rw [hflush]
      refine .inr ⟨fun decoder text haccepts => ?_, st, .invalidUtf8, rfl⟩
      have hdecode := haccepts.decode
      rw [st.decoder.decode_nil] at hdecode
      cases hdecode
      rw [haccepts.flush] at hflush
      cases hflush
  | cons value chunks ih =>
    have hcons : streamOf (value :: chunks) = .chunk value :: streamOf chunks := rfl
    rw [hcons, List.flatten_cons]
    by_cases hlarge : maxBytes < st.received + value.length
    · refine .inr ⟨fun decoder text haccepts => ?_, st, .tooLarge, readLoop_of_large hlarge⟩
      have hlength := haccepts.length
      rw [List.length_append] at hlength
      omega
    · cases hvalue : st.decoder.decode value with
      | none =>
        refine .inr ⟨fun decoder text haccepts => ?_, _, _, readLoop_of_invalid hlarge hvalue⟩
        have hdecode := haccepts.decode
        rw [Decoder.decode_append, hvalue] at hdecode
        cases hdecode
      | some decoded =>
        obtain ⟨decoder₁, text₁⟩ := decoded
        rw [readLoop_of_decode hlarge hvalue]
        set next : BodyState := ⟨decoder₁, st.received + value.length, st.body ++ text₁⟩
        have hnext : next.received ≤ maxBytes := Nat.le_of_not_lt hlarge
        obtain ⟨decoder, text, haccepts, heof⟩ | ⟨hnone, hthrows⟩ := ih hnext
        · refine .inl ⟨decoder, text₁ ++ text,
            (accepts_append_iff hvalue).2 ⟨text, rfl, haccepts⟩, ?_⟩
          rw [heof, List.length_append, Nat.add_assoc, List.append_assoc]
        · refine .inr ⟨fun decoder text haccepts => ?_, hthrows⟩
          obtain ⟨text₂, -, hrest⟩ := (accepts_append_iff hvalue).1 haccepts
          exact hnone decoder text₂ hrest

/-- More reads do not change what the loop has thrown. -/
theorem readLoop_append {st st' : BodyState} {failure : BoundedJsonFailure}
    {reads : List BodyRead} (h : readLoop maxBytes st reads = .throws st' failure)
    (later : List BodyRead) : readLoop maxBytes st (reads ++ later) = .throws st' failure := by
  induction reads generalizing st with
  | nil => cases h
  | cons read reads ih =>
    rw [List.cons_append]
    cases read with
    | rejected | nonBinary | done => exact h
    | chunk value =>
      by_cases hlarge : maxBytes < st.received + value.length
      · rwa [readLoop_of_large hlarge] at h ⊢
      · cases hvalue : st.decoder.decode value with
        | none => rwa [readLoop_of_invalid hlarge hvalue] at h ⊢
        | some decoded =>
          rw [readLoop_of_decode hlarge hvalue] at h ⊢
          exact ih h

/-- The loop does not end before the stream does. -/
theorem readLoop_ne_reachedEof {st : BodyState} {reads : List BodyRead}
    (h : ∀ read ∈ reads, read ≠ .done) (st' : BodyState) :
    readLoop maxBytes st reads ≠ .reachedEof st' := by
  induction reads generalizing st with
  | nil => exact nofun
  | cons read reads ih =>
    obtain ⟨hread, hreads⟩ := List.forall_mem_cons.1 h
    cases read with
    | rejected | nonBinary => exact nofun
    | done => exact absurd rfl hread
    | chunk value =>
      by_cases hlarge : maxBytes < st.received + value.length
      · rw [readLoop_of_large hlarge]
        exact nofun
      · cases hvalue : st.decoder.decode value with
        | none =>
          rw [readLoop_of_invalid hlarge hvalue]
          exact nofun
        | some decoded =>
          rw [readLoop_of_decode hlarge hvalue]
          exact ih hreads

/-- No more bytes are accepted than the limit. -/
theorem received_readLoop {st : BodyState} (hst : st.received ≤ maxBytes) (reads : List BodyRead) :
    (readLoop maxBytes st reads).state.received ≤ maxBytes := by
  induction reads generalizing st with
  | nil => exact hst
  | cons read reads ih =>
    cases read with
    | rejected | nonBinary => exact hst
    | done =>
      rw [readLoop]
      split
      · exact hst
      · exact hst
    | chunk value =>
      by_cases hlarge : maxBytes < st.received + value.length
      · rw [readLoop_of_large hlarge]
        exact hst
      · have hnext : st.received + value.length ≤ maxBytes := Nat.le_of_not_lt hlarge
        cases hvalue : st.decoder.decode value with
        | none =>
          rw [readLoop_of_invalid hlarge hvalue]
          exact hnext
        | some decoded =>
          rw [readLoop_of_decode hlarge hvalue]
          exact ih hnext

/-! ## Responses -/

/-- What a body of these bytes is read as. -/
def ReadsAs (parseJson : String → Option V) (maxBytes : ℕ) (bytes : List UInt8) (v : V) : Prop :=
  1 ≤ bytes.length ∧ bytes.length ≤ maxBytes ∧
    ∃ text : List Char, bytes = text.flatMap String.utf8EncodeChar ∧
      parseJson (String.ofList (withoutMark text)) = some v

variable {parseJson}

/-- A body that is not empty is parsed as a whole. -/
theorem parseBody_eq_ok_iff {st : BodyState} {v : V} :
    parseBody parseJson st = .ok v ↔
      1 ≤ st.received ∧ parseJson (String.ofList st.body) = some v := by
  unfold parseBody
  split
  next hempty => simp [hempty]
  next hempty =>
    have hpos : 1 ≤ st.received := Nat.one_le_iff_ne_zero.2 hempty
    cases parseJson (String.ofList st.body) <;> simp [hpos]

theorem parseBody_error {st : BodyState} {err : BoundedJsonError}
    (h : parseBody parseJson st = .error err) :
    ∃ failure, err = BoundedJsonFailure.error failure := by
  unfold parseBody at h
  split at h
  · exact ⟨.empty, (Except.error.inj h).symm⟩
  · split at h
    · cases h
    · exact ⟨.invalidJson, (Except.error.inj h).symm⟩

/-- How a body is read does not depend on its chunks. -/
theorem readsAs_iff {bytes : List UInt8} {v : V} :
    ReadsAs parseJson maxBytes bytes v ↔ ∃ decoder text,
      Accepts maxBytes .start bytes decoder text ∧ 1 ≤ bytes.length ∧
        parseJson (String.ofList text) = some v := by
  constructor
  · rintro ⟨hpos, hlength, encoded, hencoded, hparse⟩
    obtain ⟨decoder, hdecode, hflush⟩ := Decoder.decode_start_iff.2 ⟨encoded, hencoded, rfl⟩
    exact ⟨decoder, _, ⟨(Nat.zero_add _).symm ▸ hlength, hdecode, hflush⟩, hpos, hparse⟩
  · rintro ⟨decoder, text, haccepts, hpos, hparse⟩
    obtain ⟨encoded, hencoded, rfl⟩ :=
      Decoder.decode_start_iff.1 ⟨decoder, haccepts.decode, haccepts.flush⟩
    exact ⟨hpos, Nat.zero_add bytes.length ▸ haccepts.length, encoded, hencoded, hparse⟩

variable {contentLength : Option String}

theorem declaredBodyIsOversize_eq_false
    (h : ∀ value ∈ contentLength, isNumeral value = true → decimalValue value ≤ maxBytes) :
    declaredBodyIsOversize contentLength maxBytes = false := by
  unfold declaredBodyIsOversize
  cases contentLength with
  | none => rfl
  | some value =>
    dsimp only
    cases hnumeral : isNumeral value with
    | false => rfl
    | true =>
      rw [Bool.true_and, decide_eq_false_iff_not]
      exact Nat.not_lt.2 (h value rfl hnumeral)

/-- What is declared too large is not read at all. -/
theorem readBoundedJsonResponse_of_oversize
    (hdeclared : declaredBodyIsOversize contentLength maxBytes = true)
    (body : Option (List BodyRead)) :
    readBoundedJsonResponse parseJson maxBytes contentLength body =
      ⟨some (.error BoundedJsonFailure.tooLarge.error), 0, true, false⟩ := by
  unfold readBoundedJsonResponse
  rw [if_pos hdeclared]

section

variable {reads : List BodyRead} {st : BodyState}
  (hdeclared : declaredBodyIsOversize contentLength maxBytes = false)

include hdeclared

theorem readBoundedJsonResponse_of_awaits (h : readLoop maxBytes .start reads = .awaits st) :
    readBoundedJsonResponse parseJson maxBytes contentLength (some reads) =
      ⟨none, st.received, false, false⟩ := by
  rw [readBoundedJsonResponse, if_neg (Bool.eq_false_iff.1 hdeclared)]
  simp only [h]

theorem readBoundedJsonResponse_of_throws {failure : BoundedJsonFailure}
    (h : readLoop maxBytes .start reads = .throws st failure) :
    readBoundedJsonResponse parseJson maxBytes contentLength (some reads) =
      ⟨some (.error failure.error), st.received, true, true⟩ := by
  rw [readBoundedJsonResponse, if_neg (Bool.eq_false_iff.1 hdeclared)]
  simp only [h]

theorem readBoundedJsonResponse_of_reachedEof
    (h : readLoop maxBytes .start reads = .reachedEof st) :
    readBoundedJsonResponse parseJson maxBytes contentLength (some reads) =
      ⟨some (parseBody parseJson st), st.received, false, false⟩ := by
  rw [readBoundedJsonResponse, if_neg (Bool.eq_false_iff.1 hdeclared)]
  simp only [h]

end

/-- A stream that ends is read as its bytes in one piece, or rejected. -/
theorem result_streamOf (hdeclared : declaredBodyIsOversize contentLength maxBytes = false)
    (chunks : List (List UInt8)) :
    (∀ v, (readBoundedJsonResponse parseJson maxBytes contentLength
        (some (streamOf chunks))).result = some (.ok v) ↔
      ReadsAs parseJson maxBytes chunks.flatten v) ∧
    ((∀ v, ¬ ReadsAs parseJson maxBytes chunks.flatten v) →
      ∃ failure, (readBoundedJsonResponse parseJson maxBytes contentLength
        (some (streamOf chunks))).result = some (.error (BoundedJsonFailure.error failure))) := by
  have hstart : BodyState.start.received ≤ maxBytes := Nat.zero_le _
  obtain ⟨decoder, text, haccepts, heof⟩ | ⟨hnone, st', failure, hthrows⟩ :=
    readLoop_chunks hstart chunks
  · have hreads : ∀ v, ReadsAs parseJson maxBytes chunks.flatten v ↔
        1 ≤ chunks.flatten.length ∧ parseJson (String.ofList text) = some v := by
      intro v
      rw [readsAs_iff]
      constructor
      · rintro ⟨decoder', text', haccepts', hv⟩
        cases haccepts.decode.symm.trans haccepts'.decode
        exact hv
      · exact fun hv => ⟨decoder, text, haccepts, hv⟩
    rw [readBoundedJsonResponse_of_reachedEof hdeclared heof]
    generalize hparsed : parseBody parseJson _ = parsed
    have hok : ∀ v, parsed = .ok v ↔ ReadsAs parseJson maxBytes chunks.flatten v := by
      intro v
      have hlength : BodyState.start.received + chunks.flatten.length = chunks.flatten.length :=
        Nat.zero_add _
      rw [← hparsed, parseBody_eq_ok_iff, hreads, hlength]
      rfl
    refine ⟨fun v => ?_, fun hnone => ?_⟩
    · rw [← hok, Option.some.injEq]
    · cases parsed with
      | ok v => exact absurd ((hok v).1 rfl) (hnone v)
      | error err =>
        obtain ⟨failure, rfl⟩ := parseBody_error hparsed
        exact ⟨failure, rfl⟩
  · rw [readBoundedJsonResponse_of_throws hdeclared hthrows]
    refine ⟨fun v => iff_of_false nofun fun hreads => ?_, fun _ => ⟨failure, rfl⟩⟩
    obtain ⟨decoder, text, haccepts, -⟩ := readsAs_iff.1 hreads
    exact hnone decoder text haccepts

/-- No more than the limit is taken in. -/
theorem received_le (body : Option (List BodyRead)) :
    (readBoundedJsonResponse parseJson maxBytes contentLength body).received ≤ maxBytes := by
  cases hdeclared : declaredBodyIsOversize contentLength maxBytes with
  | true =>
    rw [readBoundedJsonResponse_of_oversize hdeclared]
    exact Nat.zero_le _
  | false =>
    cases body with
    | none =>
      rw [readBoundedJsonResponse, if_neg (Bool.eq_false_iff.1 hdeclared)]
      exact Nat.zero_le _
    | some reads =>
      have hstart : BodyState.start.received ≤ maxBytes := Nat.zero_le _
      have hreceived := received_readLoop hstart reads
      cases hloop : readLoop maxBytes .start reads with
      | awaits st =>
        rw [hloop] at hreceived
        rw [readBoundedJsonResponse_of_awaits hdeclared hloop]
        exact hreceived
      | throws st failure =>
        rw [hloop] at hreceived
        rw [readBoundedJsonResponse_of_throws hdeclared hloop]
        exact hreceived
      | reachedEof st =>
        rw [hloop] at hreceived
        rw [readBoundedJsonResponse_of_reachedEof hdeclared hloop]
        exact hreceived

/-- A rejection before the end of the stream aborts, whatever the stream goes on with. -/
theorem aborted_of_error {reads : List BodyRead} {err : BoundedJsonError}
    (h : (readBoundedJsonResponse parseJson maxBytes contentLength
      (some (reads.takeWhile (· ≠ .done)))).result = some (.error err)) :
    (readBoundedJsonResponse parseJson maxBytes contentLength (some reads)).aborted = true := by
  cases hdeclared : declaredBodyIsOversize contentLength maxBytes with
  | true => rw [readBoundedJsonResponse_of_oversize hdeclared]
  | false =>
    cases hloop : readLoop maxBytes .start (reads.takeWhile (· ≠ .done)) with
    | awaits st =>
      rw [readBoundedJsonResponse_of_awaits hdeclared hloop] at h
      cases h
    | throws st failure =>
      have hreads := readLoop_append hloop (reads.dropWhile (· ≠ .done))
      rw [List.takeWhile_append_dropWhile] at hreads
      rw [readBoundedJsonResponse_of_throws hdeclared hreads]
    | reachedEof st =>
      refine absurd hloop (readLoop_ne_reachedEof (fun read hread => ?_) st)
      simpa using List.mem_takeWhile_imp hread

/-- A body that was read is not aborted. -/
theorem aborted_of_ok {reads : List BodyRead} {v : V}
    (h : (readBoundedJsonResponse parseJson maxBytes contentLength (some reads)).result =
      some (.ok v)) :
    (readBoundedJsonResponse parseJson maxBytes contentLength (some reads)).aborted = false := by
  cases hdeclared : declaredBodyIsOversize contentLength maxBytes with
  | true =>
    rw [readBoundedJsonResponse_of_oversize hdeclared] at h
    cases h
  | false =>
    cases hloop : readLoop maxBytes .start reads with
    | awaits st => rw [readBoundedJsonResponse_of_awaits hdeclared hloop]
    | throws st failure =>
      rw [readBoundedJsonResponse_of_throws hdeclared hloop] at h
      cases h
    | reachedEof st => rw [readBoundedJsonResponse_of_reachedEof hdeclared hloop]

/-- Whatever the chunks of a body, it is read as the text that its bytes encode if they are
within the limit, and rejected otherwise. No more bytes are accepted than the limit, and the
controller is aborted by a rejection before the end of the stream and not by a value. -/
theorem bounded_json {V : Type} (parseJson : String → Option V) (maxBytes : ℕ)
    (contentLength : Option String) :
    ((∀ value ∈ contentLength, isNumeral value = true → decimalValue value ≤ maxBytes) →
      ∀ chunks : List (List UInt8),
        (∀ v, (readBoundedJsonResponse parseJson maxBytes contentLength
            (some (streamOf chunks))).result = some (.ok v) ↔
          ReadsAs parseJson maxBytes chunks.flatten v) ∧
        ((∀ v, ¬ ReadsAs parseJson maxBytes chunks.flatten v) →
          ∃ failure, (readBoundedJsonResponse parseJson maxBytes contentLength
            (some (streamOf chunks))).result = some (.error (BoundedJsonFailure.error failure)))) ∧
    (∀ body, (readBoundedJsonResponse parseJson maxBytes contentLength body).received ≤
      maxBytes) ∧
    ∀ reads : List BodyRead,
      (∀ err, (readBoundedJsonResponse parseJson maxBytes contentLength
          (some (reads.takeWhile (· ≠ .done)))).result = some (.error err) →
        (readBoundedJsonResponse parseJson maxBytes contentLength (some reads)).aborted = true) ∧
      ∀ v, (readBoundedJsonResponse parseJson maxBytes contentLength (some reads)).result =
          some (.ok v) →
        (readBoundedJsonResponse parseJson maxBytes contentLength (some reads)).aborted = false :=
  ⟨fun hdeclared => result_streamOf (declaredBodyIsOversize_eq_false hdeclared), received_le,
    fun _ => ⟨fun _ => aborted_of_error, fun _ => aborted_of_ok⟩⟩

/-- `JSON.parse`, for numbers without a sign, a fraction and an exponent. -/
def parseNumber (text : String) : Option ℕ :=
  if isNumeral text then some (decimalValue text) else none

/-- A number behind a mark that is cut in two, with an empty chunk in between. -/
def markedNumber : List (List UInt8) := [[0xEF, 0xBB], [], [0xBF, 0x37, 0x37]]

theorem bounded_json_markedNumber :
    (readBoundedJsonResponse parseNumber 8 (some "5") (some (streamOf markedNumber))).result =
        some (.ok 77) ∧
      (readBoundedJsonResponse parseNumber 8 (some "5") (some (streamOf markedNumber))).aborted =
        false ∧
      (readBoundedJsonResponse parseNumber 4 none (some (streamOf markedNumber))).aborted =
        true := by
  obtain ⟨hstream, -, haborts⟩ := bounded_json parseNumber 8 (some "5")
  have hok := ((hstream (by decide) markedNumber).1 77).2
    ⟨by decide, by decide, [byteOrderMark, '7', '7'], by decide, by decide⟩
  refine ⟨hok, (haborts _).2 77 hok, ?_⟩
  exact ((bounded_json parseNumber 4 none).2.2 _).1 _ rfl

end QrlBackend
