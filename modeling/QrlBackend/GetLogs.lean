import QrlBackend.RpcSecurity

/-!
# Queries of logs

What a `qrl_getLogs` request is after `rpcParamsValidator`. `LogFilter` says which filters
are bounded and canonical, field by field : the blocks that are scanned (`BlockChoice`), the
addresses and the topics. `marks` are the characters that may follow the `0` of a block
number or of a topic word.

The checks refuse a filter only through its fields that are neither absent nor null
(`filterRefusal_eq_none`), and the canonical filter has just these (`lookup_canonicalFilter`).
So a filter that is let through is forwarded as a `LogFilter` (`logFilter_canonicalFilter`),
and a `LogFilter` is let through (`LogFilter.accepted`).

The patterns of block numbers and topics have the `i` flag, which is there for the digits and
lets the mark `X` through as well. `WritesUpperMark` says which filters have one, and these are
the only ones that are forwarded in no canonical form (`getLogs_canonical_iff`).
-/

set_option autoImplicit false

namespace QrlBackend

/-! ## The filters -/

/-- A text of so many bytes in hex, after `0` and one of the marks. -/
def HexWord (marks : List Char) (bytes : ℕ) (s : String) : Prop :=
  ∃ x ∈ marks, ∃ digits, s.toList = '0' :: x :: digits ∧
    (∀ c ∈ digits, Hex.isDigit c = true) ∧ digits.length = 2 * bytes

/-- The text is a block number of 1 to 64 hex digits. -/
def BlockNumeral (marks : List Char) (s : String) (n : ℕ) : Prop :=
  ∃ x ∈ marks, ∃ digits, s.toList = '0' :: x :: digits ∧
    (∀ c ∈ digits, Hex.isDigit c = true) ∧ 1 ≤ digits.length ∧ digits.length ≤ 64 ∧
    n = hexBigInt digits

/-- One block, a range of at most 5000 blocks after the first, or the newest blocks. -/
inductive BlockChoice (marks : List Char) (blockHash fromBlock toBlock : Option Json) : Prop
  | single {hash : String} (hblockHash : blockHash = some (.string hash))
      (hhash : HexWord ['x'] 32 hash) (hfrom : fromBlock = none) (hto : toBlock = none)
  | range {s t : String} {a b : ℕ} (hblockHash : blockHash = none)
      (hfrom : fromBlock = some (.string s)) (hto : toBlock = some (.string t))
      (ha : BlockNumeral marks s a) (hb : BlockNumeral marks t b) (hpos : 0 < a) (hle : a ≤ b)
      (hcap : b ≤ a + 5000)
  | newest (hblockHash : blockHash = none)
      (hfrom : fromBlock = none ∨ fromBlock = some (.string "latest") ∨
        fromBlock = some (.string "pending"))
      (hto : toBlock = none ∨ toBlock = some (.string "latest") ∨
        toBlock = some (.string "pending") ∨ toBlock = some (.string "earliest") ∨
        ∃ t b, toBlock = some (.string t) ∧ BlockNumeral marks t b)

/-- An address or at most ten. -/
inductive Addresses (shake256 : String → ℕ → List UInt8) : Json → Prop
  | one {a : String} (ha : QrlAddress shake256 a) : Addresses shake256 (.string a)
  | many {items : List Json} (hlength : items.length ≤ 10)
      (hitems : ∀ item ∈ items, ∃ a, item = .string a ∧ QrlAddress shake256 a) :
      Addresses shake256 (.array items)

/-- A 64-byte word, or null for any word. -/
inductive TopicWord (marks : List Char) : Json → Prop
  | any : TopicWord marks .null
  | word {s : String} (hs : HexWord marks 64 s) : TopicWord marks (.string s)

/-- A word, or a choice of words. -/
inductive Topic (marks : List Char) : Json → Prop
  | one {topic : Json} (htopic : TopicWord marks topic) : Topic marks topic
  | choice {choices : List Json} (hchoices : ∀ topic ∈ choices, TopicWord marks topic) :
      Topic marks (.array choices)

structure LogFilter (shake256 : String → ℕ → List UInt8) (marks : List Char)
    (fields : List (String × Json)) : Prop where
  keys : ∀ field ∈ fields, field.1 ∈ ["fromBlock", "toBlock", "blockHash", "address", "topics"]
  nodup : (fields.map Prod.fst).Nodup
  nonNull : ∀ field ∈ fields, field.2.isNull = false
  blocks : BlockChoice marks (fields.lookup "blockHash") (fields.lookup "fromBlock")
    (fields.lookup "toBlock")
  addresses : ∀ value, fields.lookup "address" = some value → Addresses shake256 value
  topics : ∀ value, fields.lookup "topics" = some value →
    ∃ topics, value = .array topics ∧ topics.length ≤ 4 ∧ ∀ topic ∈ topics, Topic marks topic

/-- A client's filter : like a `LogFilter`, but nulls may stand for fields that are not there. A
block hash stands alone. -/
@[mk_iff]
structure ClientFilter (shake256 : String → ℕ → List UInt8) (marks : List Char)
    (client : List (String × Json)) : Prop where
  keys : ∀ field ∈ client, field.1 ∈ ["fromBlock", "toBlock", "blockHash", "address", "topics"]
  blocks : BlockChoice marks (nonNull? client "blockHash") (nonNull? client "fromBlock")
    (nonNull? client "toBlock")
  alone : ∀ value, nonNull? client "blockHash" = some value →
    client.lookup "fromBlock" = none ∧ client.lookup "toBlock" = none
  addresses : ∀ value, nonNull? client "address" = some value → Addresses shake256 value
  topics : ∀ value, nonNull? client "topics" = some value →
    ∃ topics, value = .array topics ∧ topics.length ≤ 4 ∧ ∀ topic ∈ topics, Topic marks topic

/-- The text stands for a block, or for a topic word. -/
inductive Written (fields : List (String × Json)) (s : String) : Prop
  | fromBlock (hvalue : fields.lookup "fromBlock" = some (.string s))
  | toBlock (hvalue : fields.lookup "toBlock" = some (.string s))
  | topic {topics : List Json} (hvalue : fields.lookup "topics" = some (.array topics))
      (htopic : .string s ∈ topics)
  | choice {topics choices : List Json} (hvalue : fields.lookup "topics" = some (.array topics))
      (htopic : .array choices ∈ topics) (hchoice : .string s ∈ choices)

/-- A block number or a topic word begins with `0X`. -/
def WritesUpperMark (fields : List (String × Json)) : Prop :=
  ∃ s, Written fields s ∧ s.toList.take 2 = ['0', 'X']

/-- A body that is forwarded for a client's : one bounded filter of the client's fields, and
validating it again changes nothing. -/
structure Forwarded (shake256 : String → ℕ → List UInt8) (marks : List Char)
    (body forwarded : Json) : Prop where
  filter : ∃ client fields, body.field? "params" = some (.array [.object client]) ∧
    forwarded.field? "params" = some (.array [.object fields]) ∧
    LogFilter shake256 marks fields ∧
    ∀ key, fields.lookup key = (client.lookup key).filter (!·.isNull)
  others : ∀ key, key ≠ "params" → forwarded.field? key = body.field? key
  again : rpcParamsValidator shake256 forwarded = .ok forwarded

/-! ## Texts in hex -/

/-- The digits behind the mark. -/
theorem hexDigits?_eq_some {marks : List Char} {s : String} {digits : List Char} :
    hexDigits? marks s = some digits ↔
      ∃ x ∈ marks, s.toList = '0' :: x :: digits ∧ ∀ c ∈ digits, Hex.isDigit c = true := by
  unfold hexDigits?
  split
  next x rest hs =>
    rw [hs]
    constructor
    · intro h
      split at h
      next hx =>
        cases h
        exact ⟨x, hx.1, rfl, List.all_eq_true.1 hx.2⟩
      next => cases h
    · rintro ⟨y, hy, hrest, hdigits⟩
      cases hrest
      exact if_pos ⟨hy, List.all_eq_true.2 hdigits⟩
  next hs =>
    constructor
    · intro h
      cases h
    · rintro ⟨x, -, hx, -⟩
      exact absurd hx (hs x digits)

/-- A hash is a word of 32 bytes. -/
theorem isHash_iff (s : String) : isHash s = true ↔ HexWord ['x'] 32 s := by
  unfold isHash HexWord
  split
  next digits hs =>
    rw [Bool.and_eq_true, List.all_eq_true, decide_eq_true_eq, hs]
    constructor
    · exact fun h => ⟨'x', List.mem_singleton_self _, digits, rfl, h⟩
    · rintro ⟨x, -, digits', h, hdigits⟩
      cases h
      exact hdigits
  next hs =>
    constructor
    · intro h
      cases h
    · rintro ⟨x, hx, digits, h, -⟩
      cases List.mem_singleton.1 hx
      exact absurd h (hs digits)

/-- A word of a topic has 64 bytes, and either mark. -/
theorem isLogWord_iff (s : String) : isLogWord s = true ↔ HexWord hexMarks 64 s := by
  simp only [isLogWord, Option.any_eq_true, decide_eq_true_eq, hexDigits?_eq_some, HexWord]
  constructor
  · rintro ⟨digits, ⟨x, hx, hs, hdigits⟩, hlength⟩
    exact ⟨x, hx, digits, hs, hdigits, hlength⟩
  · rintro ⟨x, hx, digits, hs, hdigits, hlength⟩
    exact ⟨digits, ⟨x, hx, hs, hdigits⟩, hlength⟩

/-! ## Block tags -/

theorem isNamedBlockTag_iff (value : Option Json) :
    isNamedBlockTag value = true ↔ value = some (.string "latest") ∨
      value = some (.string "pending") ∨ value = some (.string "earliest") := by
  unfold isNamedBlockTag
  split
  next v =>
    rw [Bool.or_eq_true, Bool.or_eq_true, decide_eq_true_eq, decide_eq_true_eq,
      decide_eq_true_eq, or_assoc]
    simp only [Option.some.injEq, Json.string.injEq]
  next hv =>
    constructor
    · intro h
      cases h
    · rintro (rfl | rfl | rfl) <;> exact absurd rfl (hv _)

/-- No name is a number. -/
theorem not_named_of_blockNumeral {marks : List Char} {s : String} {n : ℕ}
    (h : BlockNumeral marks s n) : isNamedBlockTag (some (.string s)) = false := by
  obtain ⟨x, -, digits, hs, -⟩ := h
  have hhead : s.toList.head? = some '0' := by rw [hs, List.head?_cons]
  refine Bool.eq_false_iff.2 fun hnamed => ?_
  rcases (isNamedBlockTag_iff _).1 hnamed with hv | hv | hv <;> cases hv <;>
    exact absurd hhead (by decide)

/-- A tag that parses is a numeral, with either mark. -/
theorem parseBlockTag_eq_some {value : Option Json} {n : ℕ} :
    parseBlockTag value = some n ↔
      ∃ s, value = some (.string s) ∧ BlockNumeral hexMarks s n := by
  constructor
  · intro h
    unfold parseBlockTag at h
    split at h
    next v =>
      split at h
      next => cases h
      next =>
        split at h
        next digits hdigits =>
          split at h
          next hlength =>
            cases h
            obtain ⟨x, hx, hv, hall⟩ := hexDigits?_eq_some.1 hdigits
            exact ⟨v, rfl, x, hx, digits, hv, hall, hlength.1, hlength.2, rfl⟩
          next => cases h
        next => cases h
    next => cases h
  · rintro ⟨s, rfl, hnumeral⟩
    have hnamed := not_named_of_blockNumeral hnumeral
    obtain ⟨x, hx, digits, hs, hall, hpos, hle, rfl⟩ := hnumeral
    have hdigits := hexDigits?_eq_some.2 ⟨x, hx, hs, hall⟩
    simp only [parseBlockTag, hnamed, Bool.false_eq_true, if_false, hdigits]
    exact if_pos ⟨hpos, hle⟩

/-- A named tag is no numeral. -/
theorem parseBlockTag_of_named {value : Option Json} (h : isNamedBlockTag value = true) :
    parseBlockTag value = none := by
  refine Option.eq_none_iff_forall_ne_some.2 fun n hn => ?_
  obtain ⟨s, rfl, hnumeral⟩ := parseBlockTag_eq_some.1 hn
  rw [not_named_of_blockNumeral hnumeral] at h
  cases h

/-! ## The checks -/

/-- A chain of checks lets through what they all let through. -/
theorem refusal_eq_none {c : Prop} [Decidable c] {message : String} {rest : Option String} :
    (if c then some message else rest) = none ↔ ¬c ∧ rest = none := by
  by_cases h : c <;> simp [h]

section

variable (shake256 : String → ℕ → List UInt8) (filter : List (String × Json))

theorem nonNull?_eq_some {key : String} {value : Json} :
    nonNull? filter key = some value ↔ filter.lookup key = some value ∧ value.isNull = false := by
  rw [nonNull?, Option.filter_eq_some_iff, Bool.not_eq_true']

/-- A null is read like a field that is not there. -/
theorem nonNull?_eq_none {key : String} :
    nonNull? filter key = none ↔ filter.lookup key = none ∨ filter.lookup key = some .null := by
  rw [nonNull?]
  cases hvalue : filter.lookup key with
  | none => exact ⟨fun _ => .inl rfl, fun _ => rfl⟩
  | some value => cases value <;> simp [Json.isNull]

theorem parseBlockTag_nonNull? (key : String) :
    parseBlockTag (nonNull? filter key) = parseBlockTag (filter.lookup key) := by
  rw [nonNull?]
  cases hvalue : filter.lookup key with
  | none => rfl
  | some value => cases value <;> rfl

theorem isNamedBlockTag_nonNull? (key : String) :
    isNamedBlockTag (nonNull? filter key) = isNamedBlockTag (filter.lookup key) := by
  rw [nonNull?]
  cases hvalue : filter.lookup key with
  | none => rfl
  | some value => cases value <;> rfl

theorem filterIs_iff (key value : String) :
    filterIs filter key value = true ↔ nonNull? filter key = some (.string value) := by
  unfold filterIs
  rw [nonNull?_eq_some]
  split
  next s hs => simp [hs, Json.isNull]
  next hs =>
    constructor
    · intro h
      cases h
    · exact fun h => absurd h.1 (hs value)

/-- The check of the keys. -/
theorem keysRefusal_eq_none :
    keysRefusal filter = none ↔ ∀ field ∈ filter, field.1 ∈ getLogsFilterKeys := by
  simp [keysRefusal]

/-- A tag that is absent, a number or a name. -/
def ValidTag (tag : Option Json) : Prop :=
  tag = none ∨ (∃ n, parseBlockTag tag = some n) ∨ isNamedBlockTag tag = true

theorem isInvalidBlockTag_eq_false (key : String) :
    isInvalidBlockTag filter key = false ↔ ValidTag (nonNull? filter key) := by
  rw [isInvalidBlockTag, ValidTag, ← parseBlockTag_nonNull?, ← isNamedBlockTag_nonNull?,
    ← Option.isSome_iff_exists, ← Option.isNone_iff_eq_none]
  cases (nonNull? filter key) <;> cases (parseBlockTag _) <;> cases (isNamedBlockTag _) <;> simp

/-- What the range checks ask of the two ends. -/
@[mk_iff]
structure RangeChecks (fromBlock toBlock : Option Json) : Prop where
  validFrom : ValidTag fromBlock
  validTo : ValidTag toBlock
  notEarliest : fromBlock ≠ some (.string "earliest")
  numeric : ∀ a, parseBlockTag fromBlock = some a → 0 < a ∧
    (∀ b, parseBlockTag toBlock = some b → a ≤ b ∧ b ≤ a + 5000) ∧
    toBlock ≠ none ∧ isNamedBlockTag toBlock = false

/-- The checks of a single block. -/
theorem blockHashRefusal_eq_none (blockHash : Json) :
    blockHashRefusal filter blockHash = none ↔
      (∃ hash, blockHash = .string hash ∧ HexWord ['x'] 32 hash) ∧
        filter.lookup "fromBlock" = none ∧ filter.lookup "toBlock" = none := by
  simp only [blockHashRefusal, refusal_eq_none, and_true, Bool.or_eq_true, Bool.not_eq_true',
    not_or, Bool.not_eq_false, Option.not_isSome_iff_eq_none, and_assoc]
  refine and_congr_left fun _ => ?_
  cases blockHash <;> simp [isHash_iff]

/-- The checks of a range. -/
theorem rangeRefusal_eq_none :
    rangeRefusal filter = none ↔
      RangeChecks (nonNull? filter "fromBlock") (nonNull? filter "toBlock") := by
  rw [rangeChecks_iff, ← isInvalidBlockTag_eq_false, ← isInvalidBlockTag_eq_false]
  simp only [rangeRefusal, ← parseBlockTag_nonNull?, ← isNamedBlockTag_nonNull?, refusal_eq_none,
    and_true, Bool.or_eq_true, not_or, filterIs_iff, Bool.not_eq_true, and_assoc,
    decide_eq_true_eq, Bool.and_eq_true, Option.isNone_iff_eq_none]
  refine and_congr_right fun _ => and_congr_right fun _ => and_congr_right fun _ => ?_
  cases hfrom : parseBlockTag (nonNull? filter "fromBlock") with
  | none => simp
  | some a =>
    cases hto : parseBlockTag (nonNull? filter "toBlock") with
    | none => simp [Nat.pos_iff_ne_zero]
    | some b =>
      have hcap : (((b : ℤ) - a < 0 || (maxGetLogsBlockRange : ℤ) < (b : ℤ) - a) = false) ↔
          a ≤ b ∧ b ≤ a + 5000 := by
        rw [maxGetLogsBlockRange, Bool.or_eq_false_iff, decide_eq_false_iff_not,
          decide_eq_false_iff_not]
        omega
      simp only [Option.bind_some, Option.map_some, Option.any_some, hcap, Option.some.injEq,
        Option.isSome_some, true_and, forall_eq', Nat.pos_iff_ne_zero, ne_eq, not_or,
        Bool.not_eq_true]

section

variable {fromBlock toBlock : Option Json}

/-- A range that passes them is one of the forms of a range. -/
theorem RangeChecks.blockChoice (h : RangeChecks fromBlock toBlock) :
    BlockChoice hexMarks none fromBlock toBlock := by
  obtain ⟨hfrom, hto, hearliest, hnumeric⟩ := h
  by_cases hnumber : ∃ a, parseBlockTag fromBlock = some a
  · obtain ⟨a, ha⟩ := hnumber
    obtain ⟨hpos, hcap, hnone, hnamed⟩ := hnumeric a ha
    obtain ⟨b, hb⟩ : ∃ b, parseBlockTag toBlock = some b := by
      rcases hto with h | h | h
      · exact absurd h hnone
      · exact h
      · rw [h] at hnamed
        cases hnamed
    obtain ⟨s, hs, hsa⟩ := parseBlockTag_eq_some.1 ha
    obtain ⟨t, ht, htb⟩ := parseBlockTag_eq_some.1 hb
    exact .range rfl hs ht hsa htb hpos (hcap b hb).1 (hcap b hb).2
  · refine .newest rfl ?_ ?_
    · rcases hfrom with h | h | h
      · exact .inl h
      · exact absurd h hnumber
      · rcases (isNamedBlockTag_iff _).1 h with h | h | h
        · exact .inr (.inl h)
        · exact .inr (.inr h)
        · exact absurd h hearliest
    · rcases hto with h | ⟨b, hb⟩ | h
      · exact .inl h
      · obtain ⟨t, ht, htb⟩ := parseBlockTag_eq_some.1 hb
        exact .inr (.inr (.inr (.inr ⟨t, b, ht, htb⟩)))
      · rcases (isNamedBlockTag_iff _).1 h with h | h | h
        · exact .inr (.inl h)
        · exact .inr (.inr (.inl h))
        · exact .inr (.inr (.inr (.inl h)))

theorem validTag_of_named {tag : Option Json}
    (h : isNamedBlockTag tag = true) : ValidTag tag := .inr (.inr h)

/-- A numeric range is checked as one. -/
theorem rangeChecks_range {s t : String} {a b : ℕ} (ha : BlockNumeral hexMarks s a)
    (hb : BlockNumeral hexMarks t b) (hpos : 0 < a) (hle : a ≤ b) (hcap : b ≤ a + 5000) :
    RangeChecks (some (.string s)) (some (.string t)) where
  validFrom := .inr (.inl ⟨a, parseBlockTag_eq_some.2 ⟨s, rfl, ha⟩⟩)
  validTo := .inr (.inl ⟨b, parseBlockTag_eq_some.2 ⟨t, rfl, hb⟩⟩)
  notEarliest h := by
    cases h
    exact absurd (not_named_of_blockNumeral ha) (by decide)
  numeric a' ha' := by
    cases (parseBlockTag_eq_some.2 ⟨s, rfl, ha⟩).symm.trans ha'
    refine ⟨hpos, fun b' hb' => ?_, Option.some_ne_none _, not_named_of_blockNumeral hb⟩
    cases (parseBlockTag_eq_some.2 ⟨t, rfl, hb⟩).symm.trans hb'
    exact ⟨hle, hcap⟩

/-- So are the newest blocks. -/
theorem rangeChecks_newest
    (hfrom : fromBlock = none ∨ fromBlock = some (.string "latest") ∨
      fromBlock = some (.string "pending"))
    (hto : toBlock = none ∨ toBlock = some (.string "latest") ∨
      toBlock = some (.string "pending") ∨ toBlock = some (.string "earliest") ∨
      ∃ t b, toBlock = some (.string t) ∧ BlockNumeral hexMarks t b) :
    RangeChecks fromBlock toBlock where
  validFrom := by
    rcases hfrom with rfl | rfl | rfl
    · exact .inl rfl
    · exact validTag_of_named (by decide)
    · exact validTag_of_named (by decide)
  validTo := by
    rcases hto with rfl | rfl | rfl | rfl | ⟨t, b, rfl, hb⟩
    · exact .inl rfl
    · exact validTag_of_named (by decide)
    · exact validTag_of_named (by decide)
    · exact validTag_of_named (by decide)
    · exact .inr (.inl ⟨b, parseBlockTag_eq_some.2 ⟨t, rfl, hb⟩⟩)
  notEarliest := by
    rcases hfrom with rfl | rfl | rfl <;> simp
  numeric a ha := by
    rcases hfrom with rfl | rfl | rfl
    · cases ha
    · rw [parseBlockTag_of_named (by decide)] at ha
      cases ha
    · rw [parseBlockTag_of_named (by decide)] at ha
      cases ha

end

/-- The fields that the block checks see. -/
theorem blocksRefusal_eq_none :
    blocksRefusal filter = none ↔
      BlockChoice hexMarks (nonNull? filter "blockHash") (nonNull? filter "fromBlock")
        (nonNull? filter "toBlock") ∧
      ∀ value, nonNull? filter "blockHash" = some value →
        filter.lookup "fromBlock" = none ∧ filter.lookup "toBlock" = none := by
  unfold blocksRefusal
  cases hhash : nonNull? filter "blockHash" with
  | some value =>
    rw [blockHashRefusal_eq_none]
    constructor
    · rintro ⟨⟨hash, rfl, hword⟩, hfrom, hto⟩
      refine ⟨.single rfl hword ?_ ?_, fun _ _ => ⟨hfrom, hto⟩⟩
      · exact (nonNull?_eq_none filter).2 (.inl hfrom)
      · exact (nonNull?_eq_none filter).2 (.inl hto)
    · rintro ⟨hchoice, hfields⟩
      refine ⟨?_, hfields value rfl⟩
      cases hchoice with
      | single hblockHash hhash => exact ⟨_, Option.some.inj hblockHash, hhash⟩
      | range hblockHash => cases hblockHash
      | newest hblockHash => cases hblockHash
  | none =>
    rw [rangeRefusal_eq_none]
    constructor
    · intro hchecks
      refine ⟨hchecks.blockChoice, fun _ h => ?_⟩
      cases h
    · rintro ⟨hchoice, -⟩
      cases hchoice with
      | single hblockHash => cases hblockHash
      | range _ hfrom hto ha hb hpos hle hcap =>
        rw [hfrom, hto]
        exact rangeChecks_range ha hb hpos hle hcap
      | newest _ hfrom hto => exact rangeChecks_newest hfrom hto

theorem isAddressValue_iff (value : Json) :
    isAddressValue shake256 value = true ↔ ∃ a, value = .string a ∧ QrlAddress shake256 a := by
  cases value <;> simp [isAddressValue, isQrlAddress_iff]

theorem addresses_iff (value : Json) :
    Addresses shake256 value ↔ (addressList value).length ≤ 10 ∧
      ∀ item ∈ addressList value, ∃ a, item = .string a ∧ QrlAddress shake256 a := by
  constructor
  · rintro (ha | ⟨hlength, hitems⟩)
    · refine ⟨by simp [addressList], fun item hitem => ?_⟩
      exact ⟨_, List.mem_singleton.1 hitem, ha⟩
    · exact ⟨hlength, hitems⟩
  · rintro ⟨hlength, hitems⟩
    unfold addressList at hlength hitems
    split at hitems
    next => exact .many hlength hitems
    next =>
      obtain ⟨a, rfl, ha⟩ := hitems _ (List.mem_singleton_self _)
      exact .one ha

/-- The check of the addresses. -/
theorem addressesRefusal_eq_none :
    addressesRefusal shake256 filter = none ↔
      ∀ value, nonNull? filter "address" = some value → Addresses shake256 value := by
  unfold addressesRefusal
  cases nonNull? filter "address" with
  | none => exact iff_of_true rfl fun _ h => nomatch h
  | some value =>
    simp only [refusal_eq_none, and_true, Option.some.injEq, forall_eq', addresses_iff, Nat.not_lt,
      maxGetLogsAddresses, Bool.not_eq_true', Bool.not_eq_false, List.all_eq_true,
      isAddressValue_iff]

theorem isNullOrLogWord_iff (value : Json) :
    isNullOrLogWord value = true ↔ TopicWord hexMarks value := by
  constructor
  · intro h
    unfold isNullOrLogWord at h
    split at h
    next => exact .any
    next s => exact .word ((isLogWord_iff s).1 h)
    next => cases h
  · rintro (_ | hs)
    · rfl
    · exact (isLogWord_iff _).2 hs

/-- The check of a topic. -/
theorem isQrlLogTopic_iff (value : Json) :
    isQrlLogTopic value = true ↔ Topic hexMarks value := by
  constructor
  · intro h
    unfold isQrlLogTopic at h
    split at h
    next choices =>
      rw [List.all_eq_true] at h
      exact .choice fun topic htopic => (isNullOrLogWord_iff topic).1 (h topic htopic)
    next => exact .one ((isNullOrLogWord_iff value).1 h)
  · rintro (htopic | hchoices)
    · have h := (isNullOrLogWord_iff _).2 htopic
      cases htopic <;> exact h
    · exact List.all_eq_true.2 fun topic htopic =>
        (isNullOrLogWord_iff topic).2 (hchoices topic htopic)

/-- The check of the topics. -/
theorem topicsRefusal_eq_none :
    topicsRefusal filter = none ↔
      ∀ value, nonNull? filter "topics" = some value →
        ∃ topics, value = .array topics ∧ topics.length ≤ 4 ∧
          ∀ topic ∈ topics, Topic hexMarks topic := by
  unfold topicsRefusal
  cases nonNull? filter "topics" with
  | none => exact iff_of_true rfl fun _ h => nomatch h
  | some value =>
    simp only [refusal_eq_none, and_true, Bool.not_eq_true', Bool.not_eq_false, Option.some.injEq,
      forall_eq']
    cases value <;> simp [isQrlLogTopic_iff]

/-! ## The canonical filter -/

theorem lookup_cons_ite (field : String × Json) (fields : List (String × Json)) (key : String) :
    (field :: fields).lookup key = if key = field.1 then some field.2 else fields.lookup key := by
  rw [List.lookup_cons]
  by_cases hkey : key = field.1
  · rw [if_pos hkey, beq_iff_eq.2 hkey]
  · rw [if_neg hkey, beq_eq_false_iff_ne.2 hkey]

theorem lookup_filterMap {values : String → Option Json} (keys : List String) (key : String) :
    (keys.filterMap fun key => (values key).map fun value => (key, value)).lookup key =
      if key ∈ keys then values key else none := by
  induction keys with
  | nil => rfl
  | cons head keys ih =>
    by_cases hkey : key = head
    · subst hkey
      cases hvalue : values key <;> simp [ih, hvalue]
    · cases hvalue : values head <;> simp [ih, lookup_cons_ite, hvalue, hkey]

theorem lookup_eq_none_of_keys {key : String}
    (hkeys : ∀ field ∈ filter, field.1 ∈ getLogsFilterKeys)
    (hkey : key ∉ getLogsFilterKeys) : filter.lookup key = none := by
  rw [List.lookup_eq_none_iff]
  intro field hfield
  rw [bne_iff_ne]
  rintro rfl
  exact hkey (hkeys field hfield)

/-- The canonical filter has the fields of the filter that are not null. -/
theorem lookup_canonicalFilter (hkeys : ∀ field ∈ filter, field.1 ∈ getLogsFilterKeys)
    (key : String) : (canonicalFilter filter).lookup key = nonNull? filter key := by
  rw [canonicalFilter, lookup_filterMap]
  split
  next => rfl
  next hkey =>
    exact ((nonNull?_eq_none filter).2 (.inl (lookup_eq_none_of_keys filter hkeys hkey))).symm

/-- A canonical filter has canonical keys, and no null. -/
theorem mem_canonicalFilter {field : String × Json} (hfield : field ∈ canonicalFilter filter) :
    field.1 ∈ getLogsFilterKeys ∧ field.2.isNull = false := by
  obtain ⟨key, hkey, hsome⟩ := List.mem_filterMap.1 hfield
  obtain ⟨value, hvalue, rfl⟩ := Option.map_eq_some_iff.1 hsome
  exact ⟨hkey, ((nonNull?_eq_some filter).1 hvalue).2⟩

theorem keys_canonicalFilter :
    (canonicalFilter filter).map Prod.fst =
      getLogsFilterKeys.filter fun key => (nonNull? filter key).isSome := by
  rw [canonicalFilter, List.map_filterMap, ← List.filterMap_eq_filter]
  refine List.filterMap_congr fun key _ => ?_
  cases hvalue : nonNull? filter key <;> simp [Option.guard, hvalue]

/-- Fields that are not null are not dropped. -/
theorem nonNull?_of_nonNull (hnull : ∀ field ∈ filter, field.2.isNull = false) (key : String) :
    nonNull? filter key = filter.lookup key := by
  cases hvalue : filter.lookup key with
  | none => exact (nonNull?_eq_none filter).2 (.inl hvalue)
  | some value =>
    obtain ⟨before, rest, hfilter, -⟩ := List.lookup_eq_some_iff.1 hvalue
    have hmem : (key, value) ∈ filter := by
      rw [hfilter]
      exact List.mem_append_right _ List.mem_cons_self
    exact (nonNull?_eq_some filter).2 ⟨hvalue, hnull _ hmem⟩

/-- The four checks together. -/
theorem filterRefusal_eq_none :
    filterRefusal shake256 filter = none ↔ ClientFilter shake256 hexMarks filter := by
  simp only [filterRefusal, Option.or_eq_none_iff, keysRefusal_eq_none, blocksRefusal_eq_none,
    addressesRefusal_eq_none, topicsRefusal_eq_none, clientFilter_iff, and_assoc, getLogsFilterKeys]

/-- What is let through is forwarded as a bounded filter. -/
theorem logFilter_canonicalFilter (h : filterRefusal shake256 filter = none) :
    LogFilter shake256 hexMarks (canonicalFilter filter) := by
  obtain ⟨hkeys, hblocks, -, haddresses, htopics⟩ := (filterRefusal_eq_none _ _).1 h
  have hlookup := lookup_canonicalFilter filter hkeys
  refine ⟨fun field hfield => (mem_canonicalFilter filter hfield).1,
    keys_canonicalFilter filter ▸ List.Nodup.filter _ (by decide),
    fun field hfield => (mem_canonicalFilter filter hfield).2, ?_, ?_, ?_⟩
  · rw [hlookup, hlookup, hlookup]
    exact hblocks
  · rw [hlookup]
    exact haddresses
  · rw [hlookup]
    exact htopics

/-- A bounded filter is let through. -/
theorem LogFilter.accepted {filter : List (String × Json)}
    (h : LogFilter shake256 hexMarks filter) : filterRefusal shake256 filter = none := by
  have hlookup := nonNull?_of_nonNull filter h.nonNull
  rw [filterRefusal_eq_none, clientFilter_iff]
  simp only [hlookup]
  refine ⟨h.keys, h.blocks, fun value hvalue => ?_, h.addresses, h.topics⟩
  cases h.blocks with
  | single _ _ hfrom hto => exact ⟨hfrom, hto⟩
  | range hblockHash =>
    rw [hblockHash] at hvalue
    cases hvalue
  | newest hblockHash =>
    rw [hblockHash] at hvalue
    cases hvalue

/-- The canonical filter has the texts of the filter. -/
theorem written_canonicalFilter (hkeys : ∀ field ∈ filter, field.1 ∈ getLogsFilterKeys)
    {s : String} (h : Written filter s) : Written (canonicalFilter filter) s := by
  have hlookup (key : String) (value : Json) (hvalue : filter.lookup key = some value)
      (hnull : value.isNull = false) : (canonicalFilter filter).lookup key = some value := by
    rw [lookup_canonicalFilter filter hkeys]
    exact (nonNull?_eq_some filter).2 ⟨hvalue, hnull⟩
  cases h with
  | fromBlock hvalue => exact .fromBlock (hlookup _ _ hvalue rfl)
  | toBlock hvalue => exact .toBlock (hlookup _ _ hvalue rfl)
  | topic hvalue htopic => exact .topic (hlookup _ _ hvalue rfl) htopic
  | choice hvalue htopic hchoice => exact .choice (hlookup _ _ hvalue rfl) htopic hchoice

/-- What a canonical filter writes, its client wrote. -/
theorem written_of_canonicalFilter (hkeys : ∀ field ∈ filter, field.1 ∈ getLogsFilterKeys)
    {s : String} (h : Written (canonicalFilter filter) s) : Written filter s := by
  have hlookup (key : String) (value : Json)
      (hvalue : (canonicalFilter filter).lookup key = some value) :
      filter.lookup key = some value := by
    rw [lookup_canonicalFilter filter hkeys] at hvalue
    exact ((nonNull?_eq_some filter).1 hvalue).1
  cases h with
  | fromBlock hvalue => exact .fromBlock (hlookup _ _ hvalue)
  | toBlock hvalue => exact .toBlock (hlookup _ _ hvalue)
  | topic hvalue htopic => exact .topic (hlookup _ _ hvalue) htopic
  | choice hvalue htopic hchoice => exact .choice (hlookup _ _ hvalue) htopic hchoice

/-- A canonical filter is its own. -/
theorem canonicalFilter_canonicalFilter (hkeys : ∀ field ∈ filter, field.1 ∈ getLogsFilterKeys) :
    canonicalFilter (canonicalFilter filter) = canonicalFilter filter := by
  have hvalues (key : String) : nonNull? (canonicalFilter filter) key = nonNull? filter key := by
    rw [nonNull?_of_nonNull _ fun field hfield => (mem_canonicalFilter filter hfield).2,
      lookup_canonicalFilter filter hkeys]
  simp only [canonicalFilter] at hvalues ⊢
  simp only [hvalues]

end

/-! ## Marks

A filter stays in form under other marks if these are the marks of its texts. -/

section

variable {marks marks' : List Char} {s : String}

theorem take_two {x : Char} {digits : List Char} (hs : s.toList = '0' :: x :: digits) :
    s.toList.take 2 = ['0', x] := by
  rw [hs]
  rfl

theorem HexWord.imp {bytes : ℕ} (h : HexWord marks bytes s)
    (hmarks : ∀ x ∈ marks, s.toList.take 2 = ['0', x] → x ∈ marks') : HexWord marks' bytes s := by
  obtain ⟨x, hx, digits, hs, hdigits⟩ := h
  exact ⟨x, hmarks x hx (take_two hs), digits, hs, hdigits⟩

theorem BlockNumeral.imp {n : ℕ} (h : BlockNumeral marks s n)
    (hmarks : ∀ x ∈ marks, s.toList.take 2 = ['0', x] → x ∈ marks') : BlockNumeral marks' s n := by
  obtain ⟨x, hx, digits, hs, hdigits⟩ := h
  exact ⟨x, hmarks x hx (take_two hs), digits, hs, hdigits⟩

theorem Topic.imp {topic : Json} (h : Topic marks topic)
    (hone : ∀ s, topic = .string s → ∀ x ∈ marks, s.toList.take 2 = ['0', x] → x ∈ marks')
    (hchoice : ∀ choices s, topic = .array choices → .string s ∈ choices → ∀ x ∈ marks,
      s.toList.take 2 = ['0', x] → x ∈ marks') : Topic marks' topic := by
  cases h with
  | one htopic =>
    cases htopic with
    | any => exact .one .any
    | word hs => exact .one (.word (hs.imp (hone _ rfl)))
  | @choice choices hchoices =>
    refine .choice fun word hword => ?_
    cases hchoices word hword with
    | any => exact .any
    | word hs => exact .word (hs.imp (hchoice choices _ rfl hword))

/-- A filter has the form for other marks if what it writes does. -/
theorem LogFilter.imp {shake256 : String → ℕ → List UInt8} {fields : List (String × Json)}
    (h : LogFilter shake256 marks fields)
    (hmarks : ∀ s, Written fields s → ∀ x ∈ marks, s.toList.take 2 = ['0', x] → x ∈ marks') :
    LogFilter shake256 marks' fields := by
  refine ⟨h.keys, h.nodup, h.nonNull, ?_, h.addresses, fun value hvalue => ?_⟩
  · cases h.blocks with
    | single hblockHash hhash hfrom hto => exact .single hblockHash hhash hfrom hto
    | range hblockHash hfrom hto ha hb hpos hle hcap =>
      exact .range hblockHash hfrom hto (ha.imp (hmarks _ (.fromBlock hfrom)))
        (hb.imp (hmarks _ (.toBlock hto))) hpos hle hcap
    | newest hblockHash hfrom hto =>
      refine .newest hblockHash hfrom ?_
      rcases hto with hto | hto | hto | hto | ⟨t, b, hto, hb⟩
      · exact .inl hto
      · exact .inr (.inl hto)
      · exact .inr (.inr (.inl hto))
      · exact .inr (.inr (.inr (.inl hto)))
      · exact .inr (.inr (.inr (.inr ⟨t, b, hto, hb.imp (hmarks _ (.toBlock hto))⟩)))
  · obtain ⟨topics, rfl, hlength, htopics⟩ := h.topics value hvalue
    refine ⟨topics, rfl, hlength, fun topic htopic => (htopics topic htopic).imp ?_ ?_⟩
    · rintro s rfl
      exact hmarks s (.topic hvalue htopic)
    · rintro choices s rfl hchoice
      exact hmarks s (.choice hvalue htopic hchoice)

/-- The two marks of the code are those of the claimed form and `X`. -/
theorem LogFilter.lower {shake256 : String → ℕ → List UInt8} {fields : List (String × Json)}
    (h : LogFilter shake256 hexMarks fields) (hupper : ¬WritesUpperMark fields) :
    LogFilter shake256 ['x'] fields := by
  refine h.imp fun s hs x hx htake => ?_
  rcases List.mem_pair.1 hx with rfl | rfl
  · exact List.mem_singleton_self _
  · exact absurd ⟨s, hs, htake⟩ hupper

/-- A word with a lower-case mark begins with no other. -/
theorem HexWord.not_upper {bytes : ℕ} (h : HexWord ['x'] bytes s) :
    s.toList.take 2 ≠ ['0', 'X'] := by
  obtain ⟨x, hx, digits, hs, -⟩ := h
  rw [take_two hs, List.mem_singleton.1 hx]
  decide

theorem BlockNumeral.not_upper {n : ℕ} (h : BlockNumeral ['x'] s n) :
    s.toList.take 2 ≠ ['0', 'X'] := by
  obtain ⟨x, hx, digits, hs, -⟩ := h
  rw [take_two hs, List.mem_singleton.1 hx]
  decide

theorem BlockChoice.not_upper {blockHash fromBlock toBlock : Option Json}
    (h : BlockChoice ['x'] blockHash fromBlock toBlock)
    (hs : fromBlock = some (.string s) ∨ toBlock = some (.string s)) :
    s.toList.take 2 ≠ ['0', 'X'] := by
  cases h with
  | single _ _ hfrom hto =>
    rw [hfrom, hto] at hs
    rcases hs with hs | hs <;> cases hs
  | range _ hfrom hto ha hb =>
    rw [hfrom, hto] at hs
    rcases hs with hs | hs
    · cases hs
      exact ha.not_upper
    · cases hs
      exact hb.not_upper
  | newest _ hfrom hto =>
    rcases hs with rfl | rfl
    · rcases hfrom with hfrom | hfrom | hfrom <;> cases hfrom <;> decide
    · rcases hto with hto | hto | hto | hto | ⟨t, b, hto, hb⟩
      · cases hto
      · cases hto
        decide
      · cases hto
        decide
      · cases hto
        decide
      · cases hto
        exact hb.not_upper

/-- A filter in the claimed form has no upper mark. -/
theorem LogFilter.not_writesUpperMark {shake256 : String → ℕ → List UInt8}
    {fields : List (String × Json)} (h : LogFilter shake256 ['x'] fields) :
    ¬WritesUpperMark fields := by
  rintro ⟨s, hs, hupper⟩
  cases hs with
  | fromBlock hvalue => exact h.blocks.not_upper (.inl hvalue) hupper
  | toBlock hvalue => exact h.blocks.not_upper (.inr hvalue) hupper
  | topic hvalue htopic =>
    obtain ⟨topics, htopics, -, hform⟩ := h.topics _ hvalue
    cases htopics
    cases hform _ htopic with
    | one hword =>
      cases hword with
      | word hword => exact hword.not_upper hupper
  | choice hvalue htopic hchoice =>
    obtain ⟨topics, htopics, -, hform⟩ := h.topics _ hvalue
    cases htopics
    cases hform _ htopic with
    | one hword => cases hword
    | choice hchoices =>
      cases hchoices _ hchoice with
      | word hword => exact hword.not_upper hupper

end

/-! ## The forwarded body -/

/-- A field that is put in place is the only one that changes. -/
theorem lookup_withField (key : String) (value : Json) (fields : List (String × Json))
    (key' : String) :
    (withField key value fields).lookup key' =
      if key' = key then some value else fields.lookup key' := by
  induction fields with
  | nil => simp [withField, lookup_cons_ite]
  | cons field fields ih =>
    unfold withField
    split
    next hfield =>
      subst hfield
      by_cases hkey : key' = field.1 <;> simp [lookup_cons_ite, hkey]
    next hfield =>
      by_cases hkey : key' = field.1
      · subst hkey
        simp [lookup_cons_ite, hfield]
      · simp [lookup_cons_ite, hkey, ih]

theorem params_withField (value : Json) (fields : List (String × Json)) :
    Json.field? "params" (.object (withField "params" value fields)) = some value := by
  rw [Json.field?, lookup_withField, if_pos rfl]

/-- Setting a property to what it is changes nothing. -/
theorem withField_self {key : String} {value : Json} {fields : List (String × Json)}
    (h : fields.lookup key = some value) : withField key value fields = fields := by
  induction fields with
  | nil => cases h
  | cons field fields ih =>
    unfold withField
    rw [lookup_cons_ite] at h
    split
    next hfield =>
      subst hfield
      rw [if_pos rfl] at h
      cases h
      rfl
    next hfield =>
      rw [if_neg (Ne.symm hfield)] at h
      rw [ih h]

/-- What is forwarded is the canonical filter of the only param. -/
theorem getLogsParams_eq_ok {shake256 : String → ℕ → List UInt8} {params : Option (List Json)}
    {forwarded : Json} :
    getLogsParams shake256 params = .ok forwarded ↔ ∃ filter, params = some [.object filter] ∧
      filterRefusal shake256 filter = none ∧
      forwarded = .array [.object (canonicalFilter filter)] := by
  constructor
  · intro h
    unfold getLogsParams at h
    split at h
    next filter =>
      split at h
      next => cases h
      next hrefusal =>
        cases h
        exact ⟨filter, rfl, hrefusal, rfl⟩
    next => cases h
  · rintro ⟨filter, rfl, hrefusal, rfl⟩
    simp only [getLogsParams, hrefusal]

theorem paramsArray?_eq_some {value : Option Json} {items : List Json} :
    paramsArray? value = some (some items) ↔ value = some (.array items) := by
  constructor
  · intro h
    unfold paramsArray? at h
    split at h
    next => cases h
    next => cases h
    next =>
      cases h
      rfl
    next => cases h
  · rintro rfl
    rfl

/-- The validator, for a body of this method. -/
theorem rpcParamsValidator_getLogs {shake256 : String → ℕ → List UInt8} {body forwarded : Json}
    (hmethod : body.field? "method" = some (.string "qrl_getLogs")) :
    rpcParamsValidator shake256 body = .ok forwarded ↔ ∃ filter,
      body.field? "params" = some (.array [.object filter]) ∧
      filterRefusal shake256 filter = none ∧
      forwarded = .object (withField "params" (.array [.object (canonicalFilter filter)])
        (readBodyRecord body)) := by
  cases body with
  | object fields =>
    simp only [rpcParamsValidator, readRpcBody, Json.isRecord, hmethod, Bool.not_true,
      Bool.false_eq_true, if_false, if_true]
    constructor
    · intro h
      split at h
      next => cases h
      next params hparams =>
        split at h
        next => cases h
        next hforwarded =>
          cases h
          obtain ⟨filter, rfl, hrefusal, rfl⟩ := getLogsParams_eq_ok.1 hforwarded
          exact ⟨filter, paramsArray?_eq_some.1 hparams, hrefusal, rfl⟩
    · rintro ⟨filter, hparams, hrefusal, rfl⟩
      simp only [paramsArray?_eq_some.2 hparams, getLogsParams_eq_ok.2 ⟨filter, rfl, hrefusal, rfl⟩]
  | null | bool | number | infinite | string | array => cases hmethod

/-- What is let through has the form, up to the marks. -/
theorem Forwarded.of_accepted {shake256 : String → ℕ → List UInt8} {body forwarded : Json}
    (hmethod : body.field? "method" = some (.string "qrl_getLogs"))
    (h : rpcParamsValidator shake256 body = .ok forwarded) :
    Forwarded shake256 hexMarks body forwarded := by
  obtain ⟨filter, hparams, hrefusal, rfl⟩ := (rpcParamsValidator_getLogs hmethod).1 h
  have hkeys : ∀ field ∈ filter, field.1 ∈ getLogsFilterKeys := by
    rw [← keysRefusal_eq_none]
    exact (Option.or_eq_none_iff.1 hrefusal).1
  have hform := logFilter_canonicalFilter shake256 filter hrefusal
  have hothers (key : String) (hkey : key ≠ "params") :
      Json.field? key (.object (withField "params" (.array [.object (canonicalFilter filter)])
        (readBodyRecord body))) = body.field? key := by
    cases body with
    | object fields => rw [Json.field?, lookup_withField, if_neg hkey]; rfl
    | null => cases hmethod
    | bool => cases hmethod
    | number => cases hmethod
    | infinite => cases hmethod
    | string => cases hmethod
    | array => cases hmethod
  have hforwarded := params_withField (.array [.object (canonicalFilter filter)])
    (readBodyRecord body)
  refine ⟨⟨filter, _, hparams, hforwarded, hform, lookup_canonicalFilter filter hkeys⟩, hothers, ?_⟩
  have hmethod' := (hothers "method" (by decide)).trans hmethod
  refine (rpcParamsValidator_getLogs hmethod').2 ⟨_, hforwarded, hform.accepted, ?_⟩
  rw [canonicalFilter_canonicalFilter filter hkeys]
  exact congrArg Json.object (withField_self hforwarded).symm

/-- What is let through is forwarded bounded and canonical under both marks, and all that is
bounded and canonical under both is let through. -/
theorem getLogs_bounded (shake256 : String → ℕ → List UInt8) (body : Json)
    (hmethod : body.field? "method" = some (.string "qrl_getLogs")) :
    (∀ forwarded, rpcParamsValidator shake256 body = .ok forwarded →
      Forwarded shake256 ['x', 'X'] body forwarded) ∧
    ∀ fields, body.field? "params" = some (.array [.object fields]) →
      LogFilter shake256 ['x', 'X'] fields →
      ∃ forwarded, rpcParamsValidator shake256 body = .ok forwarded := by
  refine ⟨fun forwarded h => .of_accepted hmethod h, fun fields hparams hform => ?_⟩
  exact ⟨_, (rpcParamsValidator_getLogs hmethod).2 ⟨fields, hparams, hform.accepted, rfl⟩⟩

/-- A filter that is let through and writes no upper mark is forwarded in the claimed form. -/
theorem Forwarded.lower {shake256 : String → ℕ → List UInt8} {body forwarded : Json}
    (h : Forwarded shake256 hexMarks body forwarded)
    (hupper : ∀ fields, forwarded.field? "params" = some (.array [.object fields]) →
      ¬WritesUpperMark fields) : Forwarded shake256 ['x'] body forwarded := by
  obtain ⟨client, fields, hclient, hfields, hform, hlookup⟩ := h.filter
  exact ⟨⟨client, fields, hclient, hfields, hform.lower (hupper fields hfields), hlookup⟩,
    h.others, h.again⟩

/-- A body is handled as it should be, what is let through and what is not, just if its filter
does not come through with an upper mark. -/
theorem getLogs_canonical_iff (shake256 : String → ℕ → List UInt8) (body : Json)
    (hmethod : body.field? "method" = some (.string "qrl_getLogs")) :
    ((∀ forwarded, rpcParamsValidator shake256 body = .ok forwarded →
      Forwarded shake256 ['x'] body forwarded) ∧
    ∀ fields, body.field? "params" = some (.array [.object fields]) →
      LogFilter shake256 ['x'] fields →
      ∃ forwarded, rpcParamsValidator shake256 body = .ok forwarded) ↔
    ∀ client, body.field? "params" = some (.array [.object client]) →
      ClientFilter shake256 ['x', 'X'] client → ¬WritesUpperMark client := by
  constructor
  · rintro ⟨hforwarded, -⟩ client hparams hclient ⟨s, hs, hupper⟩
    have hok := (rpcParamsValidator_getLogs hmethod).2
      ⟨client, hparams, (filterRefusal_eq_none shake256 client).2 hclient, rfl⟩
    obtain ⟨-, fields, -, hfields, hform, -⟩ := (hforwarded _ hok).filter
    cases (params_withField _ _).symm.trans hfields
    exact hform.not_writesUpperMark ⟨s, written_canonicalFilter client hclient.keys hs, hupper⟩
  · intro hlower
    refine ⟨fun forwarded h => ?_, fun fields hparams hform => ?_⟩
    · obtain ⟨client, hparams, hrefusal, rfl⟩ := (rpcParamsValidator_getLogs hmethod).1 h
      have hclient := (filterRefusal_eq_none shake256 client).1 hrefusal
      refine (Forwarded.of_accepted hmethod h).lower fun fields hfields => ?_
      cases (params_withField _ _).symm.trans hfields
      rintro ⟨s, hs, hupper⟩
      exact hlower client hparams hclient
        ⟨s, written_of_canonicalFilter client hclient.keys hs, hupper⟩
    · refine (getLogs_bounded shake256 body hmethod).2 fields hparams (hform.imp ?_)
      intro s _ x hx _
      exact List.mem_cons.2 (.inl (List.mem_singleton.1 hx))

/-- A query of these fields. -/
def getLogsBody (filter : List (String × Json)) : Json :=
  .object [("method", .string "qrl_getLogs"), ("params", .array [.object filter])]

/-- A range is forwarded without the field that is null. -/
theorem getLogs_canonical_range :
    let body := getLogsBody [("toBlock", .string "0x1b"), ("fromBlock", .string "0x0a"),
      ("topics", .null)]
    Forwarded (fun _ _ => []) ['x'] body
      (getLogsBody [("fromBlock", .string "0x0a"), ("toBlock", .string "0x1b")]) := by
  refine ((getLogs_canonical_iff _ _ rfl).2 fun client hparams _ => ?_).1 _ rfl
  cases hparams
  rintro ⟨s, hs, hupper⟩
  cases hs with
  | fromBlock hvalue | toBlock hvalue =>
    cases hvalue
    exact absurd hupper (by decide)
  | topic hvalue | choice hvalue => cases hvalue

/-- Block numbers that begin with `0X` are let through. -/
theorem getLogs_upper_mark :
    let body := getLogsBody [("fromBlock", .string "0X1"), ("toBlock", .string "0X1")]
    rpcParamsValidator (fun _ _ => []) body = .ok body ∧
      ¬Forwarded (fun _ _ => []) ['x'] body body := by
  refine ⟨rfl, fun h => ?_⟩
  obtain ⟨-, fields, -, hparams, hform, -⟩ := h.filter
  cases hparams
  cases hform.blocks with
  | single hblockHash => cases hblockHash
  | range _ hfrom _ ha =>
    cases hfrom
    obtain ⟨x, hx, digits, hs, -⟩ := ha
    cases List.mem_singleton.1 hx
    exact absurd (congrArg (fun cs => cs[1]?) hs) (by simp)
  | newest _ hfrom =>
    rcases hfrom with hfrom | hfrom | hfrom
    · cases hfrom
    · exact absurd hfrom (by simp)
    · exact absurd hfrom (by simp)

end QrlBackend
