import QrlBackend.Evidence
import QrlBackend.Numerals
import QrlBackend.Separation

/-!
# Pinned identities are compared exactly

A pin is a decimal chain ID and a genesis hash in the environment, two lower-case hex texts
after `parseRpcIdentity`, and it is compared with texts of an upstream by three other
patterns. All of them agree on the number and the bytes behind the texts : the accepted chain
IDs are the decimal numerals below `2 ^ 256` (`isDecimalChainId_iff`), an upstream passes the
checks when its chain ID is the hex numeral of that number and its genesis hash spells
those bytes (`verifyIdentity_iff_onChain`), and two pins are equal when the numbers or the
bytes are (`chainId_eq_iff`, `genesisHash_eq_iff`).
-/

set_option autoImplicit false

namespace QrlBackend

open HealthMonitor

/-! ## Numbers -/

theorem exists_digitChar_of_isDigit {c : Char} (h : c.isDigit = true) :
    ∃ d < 10, c = Nat.digitChar d := by
  have hlt : c.toNat < 128 := by
    simp only [Char.isDigit, Bool.and_eq_true, decide_eq_true_eq] at h
    exact lt_of_le_of_lt h.2 (by decide)
  have hall : ∀ n < 128, (Char.ofNat n).isDigit = true →
      ∃ d < 10, Char.ofNat n = Nat.digitChar d := by decide
  rw [← Char.ofNat_toNat c] at h ⊢
  exact hall _ hlt h

theorem decimalValue_repr {n : ℕ} (hn : 0 < n) : decimalValue n.repr = n := by
  rw [decimalValue, Nat.toList_repr]
  exact Numerals.ofDigits_toDigits (by decide) hn (by decide)

theorem repr_decimalValue {s : String} (h : isDecimalChainId s = true) :
    0 < decimalValue s ∧ s = (decimalValue s).repr := by
  unfold isDecimalChainId at h
  split at h
  next c rest hs =>
    simp only [Bool.and_eq_true, decide_eq_true_eq, List.all_eq_true] at h
    obtain ⟨⟨hfirst, hrest⟩, -⟩ := h
    have hdigits : ∀ c' ∈ c :: rest, ∃ d < 10, c' = Nat.digitChar d := by
      intro c' hc'
      rcases List.mem_cons.1 hc' with rfl | hc'
      · refine exists_digitChar_of_isDigit ?_
        rw [Char.isDigit, Bool.and_eq_true, decide_eq_true_eq, decide_eq_true_eq]
        have hzero : '0'.val ≤ '1'.val := by decide
        exact ⟨UInt32.le_trans hzero hfirst.1, hfirst.2⟩
      · exact exists_digitChar_of_isDigit (hrest c' hc')
    have hhead : ∀ c' ∈ (c :: rest).head?, c' ≠ '0' := by
      rintro c' ⟨⟩ rfl
      exact absurd hfirst.1 (by decide)
    obtain ⟨hpos, hnumeral⟩ := @Numerals.toDigits_ofDigits 10 (fun c => c.toNat - '0'.toNat)
      (by decide) (by decide) (c :: rest) (List.cons_ne_nil c rest) hdigits hhead
    rw [decimalValue, hs]
    refine ⟨hpos, ?_⟩
    rw [← String.toList_inj, Nat.toList_repr, hnumeral, hs]
  next => cases h

theorem isDecimalChainId_repr {n : ℕ} (hn : 0 < n) (hlt : n < 2 ^ 256) :
    isDecimalChainId n.repr = true := by
  have hhead := Numerals.head_toDigits (b := 10) (by decide) (by decide) hn
  have hdigit : ∀ c ∈ Nat.toDigits 10 n, c.isDigit = true := fun c hc =>
    Nat.isDigit_of_mem_toDigits (by decide) (by decide) hc
  have hlength : (Nat.toDigits 10 n).length ≤ 78 :=
    (Nat.length_toDigits_le_iff (by decide) (by decide)).2 (hlt.trans (by norm_num))
  unfold isDecimalChainId
  rw [Nat.toList_repr]
  cases hl : Nat.toDigits 10 n with
  | nil => exact absurd hl Nat.toDigits_ne_nil
  | cons c rest =>
    rw [hl] at hhead hdigit hlength
    have hc := hdigit c List.mem_cons_self
    have hne := hhead c rfl
    rw [List.length_cons] at hlength
    simp only [Bool.and_eq_true, decide_eq_true_eq, List.all_eq_true]
    obtain ⟨d, hd, rfl⟩ := exists_digitChar_of_isDigit hc
    have hall : ∀ d < 10, Nat.digitChar d ≠ '0' →
        '1' ≤ Nat.digitChar d ∧ Nat.digitChar d ≤ '9' := by decide
    exact ⟨⟨hall d hd hne, fun c' hc' => hdigit c' (List.mem_cons_of_mem _ hc')⟩, by omega⟩

/-- The accepted chain IDs are the decimal numerals of the positive numbers below `2 ^ 256`. -/
theorem isDecimalChainId_iff (s : String) :
    isDecimalChainId s = true ∧ decimalValue s < 2 ^ 256 ↔
      ∃ n, 0 < n ∧ n < 2 ^ 256 ∧ s = n.repr := by
  constructor
  · rintro ⟨hs, hlt⟩
    obtain ⟨hpos, hrepr⟩ := repr_decimalValue hs
    exact ⟨decimalValue s, hpos, hlt, hrepr⟩
  · rintro ⟨n, hn, hlt, rfl⟩
    exact ⟨isDecimalChainId_repr hn hlt, by rwa [decimalValue_repr hn]⟩

/-- The numeral of the number in base 16, after `0x`, with digits in any letter case. -/
def SpellsNumber (n : ℕ) (s : String) : Prop :=
  ∃ l, s.toList = '0' :: 'x' :: l ∧ l.map Char.toLower = Nat.toDigits 16 n

theorem digits_eq_toDigits {n : ℕ} (hn : 0 < n) : Hex.digits n = Nat.toDigits 16 n :=
  (Numerals.toDigits_eq_digits (by decide) hn).symm

/-- The check of an upstream's chain ID accepts the spellings of the pinned number. -/
theorem isChainIdText_iff {n : ℕ} (hn : 0 < n) (hlt : n < 2 ^ 256) (s : String) :
    isChainIdText s = true ∧ s.toLower = String.ofList ('0' :: 'x' :: Hex.digits n) ↔
      SpellsNumber n s := by
  have hlower : ∀ l, s.toList = '0' :: 'x' :: l →
      (s.toLower = String.ofList ('0' :: 'x' :: Hex.digits n) ↔
        l.map Char.toLower = Nat.toDigits 16 n) := by
    intro l hl
    rw [← String.toList_inj, Hex.toList_toLower, hl, String.toList_ofList,
      digits_eq_toDigits hn]
    exact ⟨fun h => (List.cons.inj (List.cons.inj h).2).2, fun h => by rw [← h]; rfl⟩
  constructor
  · rintro ⟨htext, heq⟩
    unfold isChainIdText at htext
    split at htext
    next c rest hs => exact ⟨c :: rest, hs, (hlower _ hs).1 heq⟩
    next => cases htext
  · rintro ⟨l, hs, hl⟩
    refine ⟨?_, (hlower l hs).2 hl⟩
    have hdigit : ∀ c ∈ l, Hex.isDigit c = true := by
      intro c hc
      refine Hex.isDigit_of_toLower (List.all_eq_true.1 (Hex.all_digits n) _ ?_)
      rw [digits_eq_toDigits hn, ← hl]
      exact List.mem_map_of_mem hc
    have hlength : l.length ≤ 64 := by
      rw [← List.length_map (f := Char.toLower), hl]
      exact (Nat.length_toDigits_le_iff (by decide) (by decide)).2 (hlt.trans_le (by norm_num))
    have hhead := Numerals.head_toDigits (b := 16) (by decide) (by decide) hn
    unfold isChainIdText
    rw [hs]
    cases l with
    | nil => exact absurd hl.symm Nat.toDigits_ne_nil
    | cons c rest =>
      rw [← hl] at hhead
      rw [List.length_cons] at hlength
      have hc : c ≠ '0' := by
        rintro rfl
        exact hhead _ rfl (by decide)
      simp only [Bool.and_eq_true, decide_eq_true_eq, List.all_eq_true]
      exact ⟨⟨⟨hdigit c List.mem_cons_self, hc⟩,
        fun c' hc' => hdigit c' (List.mem_cons_of_mem _ hc')⟩, by omega⟩

/-! ## Hashes -/

/-- The bytes of hex digits, two to a byte. -/
def hexBytes : List Char → List UInt8
  | a :: b :: rest => UInt8.ofNat (16 * hexValue a + hexValue b) :: hexBytes rest
  | _ => []

/-- The bytes in hex after `0x`, with digits in any letter case. -/
def SpellsHash (g : List UInt8) (s : String) : Prop :=
  ∃ l, s.toList = '0' :: 'x' :: l ∧ (∀ c ∈ l, Hex.isDigit c = true) ∧ l.length = 64 ∧
    hexBytes l = g

theorem hexValue_lt {c : Char} (h : Hex.isDigit c = true) : hexValue c < 16 :=
  Hex.forall_digit (p := fun c => hexValue c < 16) (by decide) h

theorem digitChar_hexValue {c : Char} (h : Hex.isDigit c = true) :
    Nat.digitChar (hexValue c) = c.toLower :=
  Hex.forall_digit (p := fun c => Nat.digitChar (hexValue c) = c.toLower) (by decide) h

theorem hexValue_toLower {c : Char} (h : Hex.isDigit c = true) :
    hexValue c.toLower = hexValue c :=
  Hex.forall_digit (p := fun c => hexValue c.toLower = hexValue c) (by decide) h

/-- Digits have the same value when they are the same up to letter case. -/
theorem hexValue_eq_iff {c c' : Char} (h : Hex.isDigit c = true) (h' : Hex.isDigit c' = true) :
    hexValue c = hexValue c' ↔ c.toLower = c'.toLower := by
  constructor
  · intro heq
    rw [← digitChar_hexValue h, ← digitChar_hexValue h', heq]
  · intro heq
    rw [← hexValue_toLower h, ← hexValue_toLower h', heq]

theorem byte_eq_iff {a b a' b' : Char} (ha : Hex.isDigit a = true) (hb : Hex.isDigit b = true)
    (ha' : Hex.isDigit a' = true) (hb' : Hex.isDigit b' = true) :
    UInt8.ofNat (16 * hexValue a + hexValue b) = UInt8.ofNat (16 * hexValue a' + hexValue b') ↔
      a.toLower = a'.toLower ∧ b.toLower = b'.toLower := by
  have := hexValue_lt ha
  have := hexValue_lt hb
  have := hexValue_lt ha'
  have := hexValue_lt hb'
  rw [← hexValue_eq_iff ha ha', ← hexValue_eq_iff hb hb', ← UInt8.toNat_inj, UInt8.toNat_ofNat',
    UInt8.toNat_ofNat', Nat.mod_eq_of_lt (by omega), Nat.mod_eq_of_lt (by omega)]
  omega

/-- Hex digits have the same bytes when they are the same up to letter case. -/
theorem hexBytes_eq_iff {l l' : List Char} (h : ∀ c ∈ l, Hex.isDigit c = true)
    (h' : ∀ c ∈ l', Hex.isDigit c = true) (hlength : l.length = l'.length)
    (heven : l.length % 2 = 0) :
    hexBytes l = hexBytes l' ↔ l.map Char.toLower = l'.map Char.toLower := by
  induction l using List.twoStepInduction generalizing l' with
  | nil =>
    cases List.eq_nil_of_length_eq_zero hlength.symm
    simp
  | singleton a => cases heven
  | cons_cons a b l ih =>
    obtain ⟨a', l', rfl⟩ := List.exists_cons_of_length_eq_add_one hlength.symm
    rw [List.length_cons, List.length_cons, List.length_cons, Nat.add_right_cancel_iff] at hlength
    obtain ⟨b', l', rfl⟩ := List.exists_cons_of_length_eq_add_one hlength.symm
    rw [List.length_cons, Nat.add_right_cancel_iff] at hlength
    rw [List.length_cons, List.length_cons] at heven
    simp only [List.forall_mem_cons] at h h'
    have ih := ih h.2.2 h'.2.2 hlength (by omega)
    simp only [hexBytes, List.map_cons, List.cons.injEq]
    rw [byte_eq_iff h.1 h.2.1 h'.1 h'.2.1, ih, and_assoc]

theorem isHash_iff_spells (s : String) : isHash s = true ↔ ∃ g, SpellsHash g s := by
  unfold isHash
  constructor
  · intro h
    split at h
    next l hs =>
      rw [Bool.and_eq_true, List.all_eq_true, decide_eq_true_eq] at h
      exact ⟨hexBytes l, l, hs, h.1, h.2, rfl⟩
    next => cases h
  · rintro ⟨g, l, hs, hdigits, hlength, -⟩
    rw [hs]
    simp only [Bool.and_eq_true, List.all_eq_true, decide_eq_true_eq]
    exact ⟨hdigits, hlength⟩

/-- Two spellings have the same lower case when they spell the same bytes. -/
theorem toLower_eq_iff {g g' : List UInt8} {s s' : String} (h : SpellsHash g s)
    (h' : SpellsHash g' s') : s.toLower = s'.toLower ↔ g = g' := by
  obtain ⟨l, hs, hdigits, hlength, rfl⟩ := h
  obtain ⟨l', hs', hdigits', hlength', rfl⟩ := h'
  rw [hexBytes_eq_iff hdigits hdigits' (hlength.trans hlength'.symm) (by rw [hlength]),
    ← String.toList_inj, Hex.toList_toLower, Hex.toList_toLower, hs, hs', List.map_cons,
    List.map_cons, List.map_cons, List.map_cons, List.cons.injEq,
    List.cons.injEq]
  simp

/-! ## Accepted pins -/

/-- The pin of the number and the bytes. -/
structure Pins (n : ℕ) (g : List UInt8) (identity : RpcIdentity) : Prop where
  pos : 0 < n
  lt : n < 2 ^ 256
  chainId : identity.chainId = String.ofList ('0' :: 'x' :: Hex.digits n)
  genesisHash : ∃ s, SpellsHash g s ∧ identity.genesisHash = s.toLower

/-- What `parseRpcIdentity` makes of two texts. -/
theorem parseRpcIdentity_iff (chainId genesisHash : String) :
    (∃ identity, parseRpcIdentity (some chainId) (some genesisHash) = .ok (some identity)) ↔
      (∃ n, 0 < n ∧ n < 2 ^ 256 ∧ chainId = n.repr) ∧ ∃ g, SpellsHash g genesisHash := by
  rw [← isDecimalChainId_iff, ← isHash_iff_spells]
  simp only [parseRpcIdentity]
  split
  next h => exact ⟨fun _ => ⟨⟨h.1, h.2.2⟩, h.2.1⟩, fun _ => ⟨_, rfl⟩⟩
  next h =>
    constructor
    · rintro ⟨identity, heq⟩
      cases heq
    · rintro ⟨⟨hid, hlt⟩, hhash⟩
      exact absurd ⟨hid, hhash, hlt⟩ h

theorem pins_of_parse {n : ℕ} (hn : 0 < n) (hlt : n < 2 ^ 256) {g : List UInt8}
    {genesisHash : String} (hg : SpellsHash g genesisHash) {identity : RpcIdentity}
    (h : parseRpcIdentity (some n.repr) (some genesisHash) = .ok (some identity)) :
    Pins n g identity := by
  simp only [parseRpcIdentity] at h
  split at h
  next =>
    rw [← Option.some.inj (Except.ok.inj h)]
    refine ⟨hn, hlt, ?_, genesisHash, hg, rfl⟩
    dsimp only
    rw [decimalValue_repr hn]
  next => cases h

namespace Pins

variable {n n' : ℕ} {g g' : List UInt8} {identity identity' : RpcIdentity}

theorem chainId_eq_iff (h : Pins n g identity) (h' : Pins n' g' identity') :
    identity.chainId = identity'.chainId ↔ n = n' := by
  rw [h.chainId, h'.chainId, ← String.toList_inj, String.toList_ofList, String.toList_ofList,
    List.cons.injEq, List.cons.injEq]
  simp only [true_and]
  constructor
  · intro heq
    rw [digits_eq_toDigits h.pos, digits_eq_toDigits h'.pos] at heq
    have hvalue : ∀ d < 16, hexValue (Nat.digitChar d) = d := by decide
    rw [← Numerals.ofDigits_toDigits (b := 16) (by decide) h.pos hvalue,
      ← Numerals.ofDigits_toDigits (b := 16) (by decide) h'.pos hvalue, heq]
  · rintro rfl
    rfl

theorem genesisHash_eq_iff (h : Pins n g identity) (h' : Pins n' g' identity') :
    identity.genesisHash = identity'.genesisHash ↔ g = g' := by
  obtain ⟨s, hs, hlower⟩ := h.genesisHash
  obtain ⟨s', hs', hlower'⟩ := h'.genesisHash
  rw [hlower, hlower', toLower_eq_iff hs hs']

end Pins

/-- The answers of an upstream on the chain with this ID and this genesis hash. -/
structure OnChain (n : ℕ) (g : List UInt8) (answers : PollAnswers) : Prop where
  chainId : ∃ s, query "qrl_chainId" answers.chainId = .ok (.string s) ∧ SpellsNumber n s
  genesis : ∃ block s, query "qrl_getBlockByNumber" answers.genesis = .ok block ∧
    block.fieldIs "number" "0x0" = true ∧ block.field? "hash" = some (.string s) ∧ SpellsHash g s

namespace Pins

variable {n n' : ℕ} {g g' : List UInt8} {identity identity' : RpcIdentity}

/-- An upstream passes the checks of a pin when it is on the pinned chain. -/
theorem verifyIdentity_iff_onChain (h : Pins n g identity) (answers : PollAnswers) :
    verifyIdentity identity answers = .ok () ↔ OnChain n g answers := by
  obtain ⟨text, htext, hlower⟩ := h.genesisHash
  have hhash : ∀ s, isHash s = true ∧ s.toLower = identity.genesisHash ↔ SpellsHash g s := by
    intro s
    rw [isHash_iff_spells, hlower]
    constructor
    · rintro ⟨⟨g', hs⟩, heq⟩
      rwa [(toLower_eq_iff hs htext).1 heq] at hs
    · intro hs
      exact ⟨⟨g, hs⟩, (toLower_eq_iff hs htext).2 rfl⟩
  have hchain : ∀ s, isChainIdText s = true ∧ s.toLower = identity.chainId ↔ SpellsNumber n s := by
    intro s
    rw [h.chainId]
    exact isChainIdText_iff h.pos h.lt s
  simp only [verifyIdentity_iff, hhash, hchain]
  exact ⟨fun h => ⟨h.1, h.2⟩, fun h => ⟨h.chainId, h.genesis⟩⟩

/-- The pins of mainnet and testnet are reported when the numbers or the bytes are equal. -/
theorem mainnetSeparationProblem_iff (h : Pins n g identity) (h' : Pins n' g' identity')
    (runtime : Runtime) {networks : RpcNetworks}
    (hmainnet : networks.identities .mainnet = some identity)
    (htestnet : networks.identities .testnet = some identity')
    (hapart : ∀ endpoint ∈ networks.endpoints .mainnet, ∀ other ∈ networks.others,
      rpcEndpointKey runtime endpoint ≠ rpcEndpointKey runtime other) :
    networks.mainnetSeparationProblem runtime = none ↔ n ≠ n' ∧ g ≠ g' := by
  have hno : (networks.endpoints .mainnet).findIdx? (fun endpoint =>
      (networks.others.map (rpcEndpointKey runtime)).contains (rpcEndpointKey runtime endpoint)) =
      none := by
    rw [List.findIdx?_eq_none_iff]
    intro endpoint hmem
    rw [List.contains_eq_mem, decide_eq_false_iff_not, List.mem_map]
    rintro ⟨other, hother, heq⟩
    exact hapart endpoint hmem other hother heq.symm
  unfold RpcNetworks.mainnetSeparationProblem
  dsimp only
  rw [hmainnet, htestnet, hno, Option.isNone_some, Bool.and_false, if_neg Bool.false_ne_true]
  dsimp only
  split
  next heq =>
    rw [h.chainId_eq_iff h', h.genesisHash_eq_iff h'] at heq
    refine ⟨nofun, ?_⟩
    rintro ⟨hn, hg⟩
    exact absurd heq (by simp [hn, hg])
  next hne =>
    rw [h.chainId_eq_iff h', h.genesisHash_eq_iff h', not_or] at hne
    exact ⟨fun _ => hne, fun _ => rfl⟩

end Pins

/-- A poll that passed leaves a record that meets the readiness comparison with its pin. -/
theorem matchesIdentity_finish {cfg : RpcHealthConfig} {st : HealthMonitor} {network : NetworkName}
    {i : ℕ} {poll : Poll} (hpoll : st.polls network i = some poll) {answers : PollAnswers}
    {err : JsError} {head : Head} (houtcome : Poll.outcome poll answers err = .ok head)
    (endedAt latencyAt changedAt : ℕ) :
    ∀ ep ∈ ((HealthMonitor.step cfg st (.finish network i answers err endedAt latencyAt
      changedAt)).networks network)[i]?, ep.matchesIdentity poll.expectedIdentity = true := by
  intro ep hep
  rw [HealthMonitor.step, hpoll] at hep
  dsimp only [setPoll] at hep
  rw [getElem?_modifyRecord, houtcome, Option.mem_def, Option.map_eq_some_iff] at hep
  obtain ⟨before, -, rfl⟩ := hep
  have hidentity : (passed cfg poll endedAt latencyAt changedAt head before).verifiedIdentity =
      poll.expectedIdentity := rfl
  unfold EndpointRecord.matchesIdentity
  dsimp only
  rw [hidentity]
  cases poll.expectedIdentity with
  | none => rfl
  | some expected => simp

/-- How the pin of a number and bytes is compared, with the answers of an upstream, with the
evidence of a poll and with other pins. -/
structure ComparedExactly (n : ℕ) (g : List UInt8) (identity : RpcIdentity) : Prop where
  upstream : ∀ answers, verifyIdentity identity answers = .ok () ↔ OnChain n g answers
  readiness : ∀ (cfg : RpcHealthConfig) (st : HealthMonitor) network i (poll : Poll) answers err
      head endedAt latencyAt changedAt, st.polls network i = some poll →
    poll.expectedIdentity = some identity → Poll.outcome poll answers err = .ok head →
    ∀ ep ∈ ((HealthMonitor.step cfg st (.finish network i answers err endedAt latencyAt
      changedAt)).networks network)[i]?, ep.matchesIdentity (some identity) = true
  chainId : ∀ n' g' identity', Pins n' g' identity' →
    (identity.chainId = identity'.chainId ↔ n = n')
  genesisHash : ∀ n' g' identity', Pins n' g' identity' →
    (identity.genesisHash = identity'.genesisHash ↔ g = g')
  separation : ∀ n' g' identity', Pins n' g' identity' → ∀ runtime (networks : RpcNetworks),
    networks.identities .mainnet = some identity → networks.identities .testnet = some identity' →
    (∀ endpoint ∈ networks.endpoints .mainnet, ∀ other ∈ networks.others,
      rpcEndpointKey runtime endpoint ≠ rpcEndpointKey runtime other) →
    (networks.mainnetSeparationProblem runtime = none ↔ n ≠ n' ∧ g ≠ g')

theorem Pins.comparedExactly {n : ℕ} {g : List UInt8} {identity : RpcIdentity}
    (h : Pins n g identity) : ComparedExactly n g identity where
  upstream := h.verifyIdentity_iff_onChain
  readiness _ _ _ _ _ _ _ _ endedAt latencyAt changedAt hpoll hpin hout :=
    hpin ▸ matchesIdentity_finish hpoll hout endedAt latencyAt changedAt
  chainId _ _ _ h' := h.chainId_eq_iff h'
  genesisHash _ _ _ h' := h.genesisHash_eq_iff h'
  separation _ _ _ h' runtime _ hmainnet htestnet hapart :=
    h.mainnetSeparationProblem_iff h' runtime hmainnet htestnet hapart

/-- `parseRpcIdentity` accepts the decimal numerals below `2 ^ 256` with the spellings of 32
bytes, and the pin it makes is compared by the number and the bytes. -/
theorem pinned_identity_exact :
    (∀ chainId genesisHash : String,
      (∃ identity, parseRpcIdentity (some chainId) (some genesisHash) = .ok (some identity)) ↔
        (∃ n, 0 < n ∧ n < 2 ^ 256 ∧ chainId = n.repr) ∧ ∃ g, SpellsHash g genesisHash) ∧
      ∀ (chainId genesisHash : String) (identity : RpcIdentity),
        parseRpcIdentity (some chainId) (some genesisHash) = .ok (some identity) →
        ∃ n g, chainId = n.repr ∧ SpellsHash g genesisHash ∧ Pins n g identity ∧
          ComparedExactly n g identity := by
  refine ⟨parseRpcIdentity_iff, fun chainId genesisHash identity h => ?_⟩
  obtain ⟨⟨n, hn, hlt, rfl⟩, g, hg⟩ := (parseRpcIdentity_iff chainId genesisHash).1 ⟨identity, h⟩
  have hpins := pins_of_parse hn hlt hg h
  exact ⟨n, g, rfl, hg, hpins, hpins.comparedExactly⟩

/-- A pin of chain 1337. -/
def devPin : RpcIdentity where
  chainId := "0x539"
  genesisHash := "0xabababababababababababababababababababababababababababababababab"
  chainId_hex := by decide
  genesisHash_hex := by decide

theorem pinned_identity_exact_1337 :
    ∃ n g, "1337" = n.repr ∧
      SpellsHash g "0xAbAbAbAbAbAbAbAbAbAbAbAbAbAbAbAbAbAbAbAbAbAbAbAbAbAbAbAbAbAbAbAb" ∧
      Pins n g devPin ∧ ComparedExactly n g devPin :=
  pinned_identity_exact.2 "1337"
    "0xAbAbAbAbAbAbAbAbAbAbAbAbAbAbAbAbAbAbAbAbAbAbAbAbAbAbAbAbAbAbAbAb" devPin (by decide +kernel)

end QrlBackend
