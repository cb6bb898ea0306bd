import Mathlib.Data.Bool.AllAny
import QrlBackend.Numerals
import QrlBackend.WebUrl

/-!
# The URL serializer

The text of a URL, and that reading it gives the URL back (`parse_href`). What the parser
returns is normalised (`normal_parse`) : no segment of the path goes back or holds a
separator, and every character that must be escaped is. This is what makes the text of the
path one segment after the other again, and it also holds of a path that the `pathname`
setter wrote.

Of the text of a host only the characters matter (`PlainHost`), so the result is for
domains. A URL with credentials, a query or a fragment is left out.
-/

set_option autoImplicit false

namespace WebUrl

/-! ## The text of a URL -/

namespace Url

variable {Host : Type} (serializeHost : Host → List Char)

/-- The credentials, with the `@` that ends them. -/
def credentials (url : Url Host) : List Char :=
  if url.username = [] ∧ url.password = [] then []
  else url.username ++ (if url.password = [] then [] else ':' :: url.password) ++ ['@']

def portText (url : Url Host) : List Char :=
  url.port.elim [] fun port => ':' :: Nat.toDigits 10 port

/-- The origin, serialized. -/
def originText (url : Url Host) : List Char :=
  url.scheme ++ "://".toList ++ serializeHost url.host ++ url.portText

/-- The URL, serialized. -/
def href (url : Url Host) : List Char :=
  url.scheme ++ "://".toList ++ url.credentials ++ serializeHost url.host ++ url.portText ++
    url.pathname ++ url.query.elim [] ('?' :: ·) ++ url.fragment.elim [] ('#' :: ·)

/-- The `pathname` setter, on a text that has no tab and no newline. Its first slash is not a
separator. -/
def setPathname (url : Url Host) (value : List Char) : Url Host :=
  { url with path := parsePath (if value.head?.any isSlash then value.tail else value) }

end Url

/-! ## Normalised paths -/

/-- A character the parser leaves in a segment. -/
def isSegmentText (c : Char) : Bool := !pathSet c && !isSlash c

/-- A segment the parser leaves in a path. -/
structure NormalSegment (segment : List Char) : Prop where
  text : ∀ c ∈ segment, isSegmentText c = true
  double : isDoubleDot segment = false
  single : isSingleDot segment = false

def NormalPath (path : List (List Char)) : Prop := ∀ segment ∈ path, NormalSegment segment

theorem normalSegment_nil : NormalSegment [] := ⟨List.forall_mem_nil _, by decide, by decide⟩

/-- What an escape is made of. -/
theorem isSegmentText_percentEncodeByte (byte : UInt8) :
    ∀ c ∈ percentEncodeByte byte, isSegmentText c = true := by
  have hdigit : ∀ n < 16, isSegmentText (Nat.digitChar n).toUpper = true := by decide
  have hhi : byte.toNat / 16 < 16 := Nat.div_lt_of_lt_mul byte.toNat_lt
  intro c hc
  simp only [percentEncodeByte, List.mem_cons, List.not_mem_nil, or_false] at hc
  rcases hc with rfl | rfl | rfl
  · decide
  · exact hdigit _ hhi
  · exact hdigit _ (Nat.mod_lt _ (by decide))

/-- What is encoded is text of a segment. -/
theorem isSegmentText_percentEncode {c : Char} (hc : isSlash c = false) :
    ∀ x ∈ percentEncode pathSet c, isSegmentText x = true := by
  unfold percentEncode
  intro x hx
  split at hx
  · obtain ⟨byte, -, hx⟩ := List.mem_flatMap.1 hx
    exact isSegmentText_percentEncodeByte byte x hx
  next hset =>
    rw [List.mem_singleton.1 hx, isSegmentText, Bool.eq_false_of_not_eq_true hset, hc]
    rfl

/-- The path so far is normalised, and the segment being read holds no separator. -/
structure PathState.Normal (st : PathState) : Prop where
  path : NormalPath st.path
  buffer : ∀ c ∈ st.buffer, isSegmentText c = true

theorem PathState.Normal.endSegment {st : PathState} (h : st.Normal) (slash : Bool) :
    (st.endSegment slash).Normal := by
  have hempty : NormalPath (if slash then [] else [[]]) := by
    intro segment hsegment
    cases slash with
    | true => cases hsegment
    | false => exact List.mem_singleton.1 hsegment ▸ normalSegment_nil
  refine ⟨?_, List.forall_mem_nil _⟩
  unfold PathState.endSegment
  dsimp only
  split
  · exact List.forall_mem_append.2 ⟨fun s hs => h.path s (List.mem_of_mem_dropLast hs), hempty⟩
  next hdouble =>
    split
    · exact List.forall_mem_append.2 ⟨h.path, hempty⟩
    next hsingle =>
      exact List.forall_mem_append.2 ⟨h.path, List.forall_mem_singleton.2
        ⟨h.buffer, Bool.eq_false_of_not_eq_true hdouble, Bool.eq_false_of_not_eq_true hsingle⟩⟩

/-- Reading a character keeps the path normal. -/
theorem PathState.Normal.pathChar {st : PathState} (h : st.Normal) (c : Char) :
    (pathChar st c).Normal := by
  unfold WebUrl.pathChar
  split
  · exact h.endSegment true
  next hslash =>
    exact ⟨h.path, List.forall_mem_append.2
      ⟨h.buffer, isSegmentText_percentEncode (Bool.eq_false_of_not_eq_true hslash)⟩⟩

/-- Whatever is read, the path is normal. -/
theorem normal_foldl_pathChar (input : List Char) :
    (input.foldl pathChar ⟨[], []⟩).Normal := by
  induction input using List.reverseRecOn with
  | nil => exact ⟨List.forall_mem_nil _, List.forall_mem_nil _⟩
  | append_singleton input c ih =>
    rw [List.foldl_append]
    exact ih.pathChar c

/-- Every path the parser returns is normalised. -/
theorem normalPath_parsePath (input : List Char) : NormalPath (parsePath input) :=
  ((normal_foldl_pathChar input).endSegment false).path

theorem parsePath_ne_nil (input : List Char) : parsePath input ≠ [] := by
  unfold parsePath PathState.endSegment
  dsimp only
  split
  · simp
  · split <;> simp

/-! ## Reading a path back -/

theorem pathChar_of_isSegmentText {c : Char} (h : isSegmentText c = true) (st : PathState) :
    pathChar st c = { st with buffer := st.buffer ++ [c] } := by
  rw [isSegmentText, Bool.and_eq_true, Bool.not_eq_true', Bool.not_eq_true'] at h
  rw [pathChar, h.2, if_neg Bool.false_ne_true, percentEncode, h.1, if_neg Bool.false_ne_true]

/-- The text of a segment is read as it is. -/
theorem foldl_pathChar_segment {segment : List Char}
    (h : ∀ c ∈ segment, isSegmentText c = true) (st : PathState) :
    segment.foldl pathChar st = { st with buffer := st.buffer ++ segment } := by
  induction segment generalizing st with
  | nil => rw [List.append_nil, List.foldl_nil]
  | cons c segment ih =>
    obtain ⟨hc, h⟩ := List.forall_mem_cons.1 h
    rw [List.foldl_cons, pathChar_of_isSegmentText hc, ih h, List.append_assoc,
      List.singleton_append]

/-- A normal segment is kept. -/
theorem endSegment_normal {path : List (List Char)} {segment : List Char}
    (h : NormalSegment segment) (slash : Bool) :
    (⟨path, segment⟩ : PathState).endSegment slash = ⟨path ++ [segment], []⟩ := by
  rw [PathState.endSegment, h.double, h.single, if_neg Bool.false_ne_true,
    if_neg Bool.false_ne_true]

/-- A normalised path is read as it is, one segment after the other. -/
theorem foldl_pathChar_path (path : List (List Char)) {segment : List Char}
    {segments : List (List Char)} (h : NormalPath (segment :: segments)) :
    (((segment ++ segments.flatMap ('/' :: ·)).foldl pathChar ⟨path, []⟩).endSegment false).path =
      path ++ segment :: segments := by
  induction segments generalizing path segment with
  | nil =>
    have hsegment := h segment List.mem_cons_self
    rw [List.flatMap_nil, List.append_nil, foldl_pathChar_segment hsegment.text, List.nil_append,
      endSegment_normal hsegment]
  | cons next segments ih =>
    obtain ⟨hsegment, h⟩ := List.forall_mem_cons.1 h
    have hslash : pathChar ⟨path, segment⟩ '/' = ⟨path ++ [segment], []⟩ := by
      rw [pathChar, if_pos (by decide), endSegment_normal hsegment]
    rw [List.flatMap_cons, List.foldl_append, foldl_pathChar_segment hsegment.text,
      List.nil_append, List.cons_append, List.foldl_cons, hslash, ih _ h, List.append_assoc,
      List.singleton_append]

/-- The text of a normalised path, without the slash in front, is read as that path. -/
theorem parsePath_normal {path : List (List Char)} (h : NormalPath path) (hne : path ≠ []) :
    ∃ text, path.flatMap ('/' :: ·) = '/' :: text ∧ parsePath text = path := by
  obtain ⟨segment, segments, rfl⟩ := List.exists_cons_of_ne_nil hne
  exact ⟨segment ++ segments.flatMap ('/' :: ·), rfl, foldl_pathChar_path [] h⟩

/-- A normalised path is determined by its text. -/
theorem path_injective {path path' : List (List Char)} (h : NormalPath path)
    (h' : NormalPath path') (hne : path ≠ []) (hne' : path' ≠ [])
    (htext : path.flatMap ('/' :: ·) = path'.flatMap ('/' :: ·)) : path = path' := by
  obtain ⟨text, heq, hparse⟩ := parsePath_normal h hne
  obtain ⟨text', heq', hparse'⟩ := parsePath_normal h' hne'
  rw [heq, heq', List.cons.injEq] at htext
  rw [← hparse, ← hparse', htext.2]

/-! ## Normalised URLs -/

variable {Host : Type}

/-- A URL the parser returns, apart from its host. -/
structure Normal (url : Url Host) : Prop where
  scheme : ∃ default, defaultPort url.scheme = some default ∧
    ∀ port ∈ url.port, port ≤ 65535 ∧ port ≠ default
  path : NormalPath url.path
  path_ne_nil : url.path ≠ []

/-- Another path leaves the URL normal. -/
theorem Normal.setPathname {url : Url Host} (h : Normal url) (value : List Char) :
    Normal (url.setPathname value) :=
  ⟨h.scheme, normalPath_parsePath _, parsePath_ne_nil _⟩

theorem parsePort_le {default : ℕ} {digits : List Char} {port : ℕ}
    (h : parsePort default digits = some (some port)) : port ≤ 65535 ∧ port ≠ default := by
  unfold parsePort at h
  split at h
  · dsimp only at h
    split at h
    · cases h
    · split at h
      · cases h
      next hle =>
        split at h
        · cases h
        next hne =>
          cases h
          exact ⟨Nat.le_of_not_lt hle, hne⟩
  · cases h

/-- A port that is kept is not the default one. -/
theorem parseAuthority_port {parseHost : List Char → Option Host} {default : ℕ}
    {authority : List Char} {result : Authority Host}
    (h : parseAuthority parseHost default authority = some result) :
    ∀ port ∈ result.port, port ≤ 65535 ∧ port ≠ default := by
  unfold parseAuthority at h
  dsimp only at h
  split at h
  · cases h
  · split at h
    next port _ hport =>
      cases h
      rintro p rfl
      cases hdigits : (takeHost false _).2 with
      | none =>
        rw [hdigits] at hport
        cases hport
      | some digits =>
        rw [hdigits, Option.elim_some] at hport
        exact parsePort_le hport
    next => cases h

/-- What the parser returns is normalised. -/
theorem normal_parse {parseHost : List Char → Option Host} {input : List Char} {url : Url Host}
    (h : parse parseHost input = some url) : Normal url := by
  obtain ⟨scheme, rest, default, authority, -, hdefault, hauthority, rfl⟩ :=
    parse_eq_some_iff.1 h
  exact ⟨⟨default, hdefault, parseAuthority_port hauthority⟩, normalPath_parsePath _,
    parsePath_ne_nil _⟩

/-- The host of a URL is one that the host parser returned. -/
theorem host_of_parse {parseHost : List Char → Option Host} {input : List Char} {url : Url Host}
    (h : parse parseHost input = some url) : ∃ text, parseHost text = some url.host := by
  obtain ⟨scheme, rest, default, authority, -, -, hauthority, rfl⟩ := parse_eq_some_iff.1 h
  unfold parseAuthority at hauthority
  dsimp only at hauthority
  split at hauthority
  · cases hauthority
  · split at hauthority
    next host _ hhost _ =>
      cases hauthority
      exact ⟨_, hhost⟩
    next => cases hauthority

/-- A text in which nothing starts a query or a fragment is a URL without them. -/
theorem bare_of_parse {parseHost : List Char → Option Host} {input : List Char} {url : Url Host}
    (h : parse parseHost input = some url)
    (hplain : ∀ c ∈ input, startsQueryOrFragment c = false) :
    url.query = none ∧ url.fragment = none := by
  obtain ⟨scheme, rest, default, authority, hscheme, -, -, rfl⟩ := parse_eq_some_iff.1 h
  have hrest : ∀ c ∈ (rest.dropWhile isSlash).dropWhile (!endsAuthority ·),
      (!startsQueryOrFragment c) = true := by
    intro c hc
    have hprepared : c ∈ prepare input := (parseScheme_suffix hscheme).subset
      ((List.dropWhile_suffix _).subset ((List.dropWhile_suffix _).subset hc))
    have hinput : c ∈ input := (List.dropWhile_suffix _).subset
      ((List.rdropWhile_prefix _ _).subset (List.mem_filter.1 hprepared).1)
    rw [hplain c hinput, Bool.not_false]
  have hbehind : ∀ l : List Char, (∀ c ∈ l, (!startsQueryOrFragment c) = true) →
      l.dropWhile (!startsQueryOrFragment ·) = [] := fun l hl => List.dropWhile_eq_nil_iff.2 hl
  have htail : ∀ l : List Char, (∀ c ∈ l, (!startsQueryOrFragment c) = true) →
      ∀ c ∈ if l.head?.any isSlash then l.tail else l, (!startsQueryOrFragment c) = true := by
    intro l hl c hc
    split at hc
    · exact hl c (List.mem_of_mem_tail hc)
    · exact hl c hc
  unfold urlOf
  dsimp only
  rw [hbehind _ (htail _ hrest)]
  exact ⟨rfl, rfl⟩

/-! ## Reading a URL back -/

/-- A text that the parser takes for the host, wherever a host may stand. -/
structure PlainHost (text : List Char) : Prop where
  ne_nil : text ≠ []
  plain : ∀ c ∈ text, isC0OrSpace c = false ∧ endsAuthority c = false ∧ c ≠ '@'
  /-- It ends where the text does. -/
  takeHost_append : ∀ l, takeHost false (text ++ l) =
    (text ++ (takeHost false l).1, (takeHost false l).2)

theorem prepare_eq_self {l : List Char} (h : ∀ c ∈ l, isC0OrSpace c = false) :
    prepare l = l := by
  have hdrop : ∀ l' : List Char, (∀ c ∈ l', isC0OrSpace c = false) →
      l'.dropWhile isC0OrSpace = l' := by
    intro l' h'
    cases l' with
    | nil => rfl
    | cons c l' => rw [List.dropWhile_cons, h' c List.mem_cons_self, if_neg Bool.false_ne_true]
  have hcontrol : ∀ c ∈ [Char.ofNat 9, Char.ofNat 10, Char.ofNat 13], isC0OrSpace c = true :=
    List.all_iff_forall_prop.1 (by decide)
  rw [prepare, List.rdropWhile, hdrop l h, hdrop _ fun c hc => h c (List.mem_reverse.1 hc),
    List.reverse_reverse, List.filter_eq_self]
  intro c hc
  rw [Bool.not_eq_true', ← Bool.not_eq_true]
  intro htab
  have hmem : c ∈ [Char.ofNat 9, Char.ofNat 10, Char.ofNat 13] := by
    simpa [isTabOrNewline, or_assoc] using htab
  exact absurd (hcontrol c hmem) (by rw [h c hc]; exact Bool.false_ne_true)

/-- A host has no colon and no brackets. -/
theorem takeHost_append {host : List Char} (h : ∀ c ∈ host, c ≠ ':' ∧ c ≠ '[' ∧ c ≠ ']')
    (l : List Char) : takeHost false (host ++ l) = (host ++ (takeHost false l).1,
      (takeHost false l).2) := by
  induction host with
  | nil => rfl
  | cons c host ih =>
    obtain ⟨⟨hcolon, hopen, hclose⟩, h⟩ := List.forall_mem_cons.1 h
    rw [List.cons_append, takeHost]
    simp only [hcolon, hopen, hclose, decide_false, Bool.false_and, if_false,
      Bool.false_eq_true, ih h, List.cons_append]

/-- Colons inside of brackets are part of the host. -/
theorem takeHost_brackets {host : List Char} (h : ∀ c ∈ host, c ≠ '[' ∧ c ≠ ']')
    (l : List Char) : takeHost false ('[' :: (host ++ [']']) ++ l) =
      ('[' :: (host ++ [']']) ++ (takeHost false l).1, (takeHost false l).2) := by
  have hinside : takeHost true (host ++ ']' :: l) =
      (host ++ ']' :: (takeHost false l).1, (takeHost false l).2) := by
    induction host with
    | nil => rfl
    | cons c host ih =>
      obtain ⟨⟨hopen, hclose⟩, h⟩ := List.forall_mem_cons.1 h
      rw [List.cons_append, takeHost]
      simp only [hopen, hclose, Bool.not_true, Bool.and_false, if_false, Bool.false_eq_true, ih h,
        List.cons_append]
  rw [List.cons_append, List.append_assoc, List.singleton_append, takeHost]
  simp only [show ('[' = ':') = False from by decide, decide_false, Bool.false_and, if_false,
    Bool.false_eq_true, if_true, hinside, List.cons_append, List.append_assoc, List.nil_append]

theorem foldl_digits (l : List Char) (n : ℕ) :
    l.foldl (fun n c => n * 10 + (c.toNat - '0'.toNat)) n =
      n * 10 ^ l.length + Nat.ofDigits 10 (l.reverse.map fun c => c.toNat - '0'.toNat) := by
  induction l generalizing n with
  | nil => simp
  | cons c l ih =>
    rw [List.foldl_cons, ih, List.reverse_cons, List.map_append, Nat.ofDigits_append]
    simp only [List.map_cons, List.map_nil, Nat.ofDigits_singleton, List.length_map,
      List.length_reverse, List.length_cons]
    ring

theorem all_isDigit_toDigits (n : ℕ) : (Nat.toDigits 10 n).all Char.isDigit = true :=
  List.all_eq_true.2 fun _ hc => Nat.isDigit_of_mem_toDigits (by decide) le_rfl hc

/-- The numeral of a port is read back. -/
theorem parsePort_toDigits {default port : ℕ} (hle : port ≤ 65535) (hne : port ≠ default) :
    parsePort default (Nat.toDigits 10 port) = some (some port) := by
  have hvalue : (Nat.toDigits 10 port).foldl (fun n c => n * 10 + (c.toNat - '0'.toNat)) 0 =
      port := by
    rcases Nat.eq_zero_or_pos port with rfl | hpos
    · decide
    · rw [foldl_digits, Nat.zero_mul, Nat.zero_add]
      exact Numerals.ofDigits_toDigits (by decide) hpos (by decide)
  have hnil : (Nat.toDigits 10 port).isEmpty = false := by
    rw [List.isEmpty_eq_false_iff]
    exact Nat.toDigits_ne_nil
  rw [parsePort, if_pos (all_isDigit_toDigits port)]
  simp only [hvalue, hnil, Bool.false_eq_true, if_false, if_neg hle.not_gt, if_neg hne]

variable {parseHost : List Char → Option Host} {serializeHost : Host → List Char}

/-- The characters of a port with its colon. -/
theorem mem_portText {url : Url Host} {c : Char} (hc : c ∈ url.portText) :
    c = ':' ∨ c.isDigit = true := by
  unfold Url.portText at hc
  cases hport : url.port with
  | none =>
    rw [hport] at hc
    cases hc
  | some port =>
    rw [hport, Option.elim_some] at hc
    rcases List.mem_cons.1 hc with rfl | hc
    · exact .inl rfl
    · exact .inr (List.all_eq_true.1 (all_isDigit_toDigits port) c hc)

theorem ascii_of_isDigit {c : Char} (h : c.isDigit = true) : c.toNat < 128 :=
  lt_of_le_of_lt (of_decide_eq_true (Bool.and_eq_true_iff.1 h).2) (by decide)

theorem ascii_of_isAlphanum {c : Char} (h : c.isAlphanum = true) : c.toNat < 128 := by
  rcases Bool.or_eq_true_iff.1 h with hletter | hdigit
  · rcases Bool.or_eq_true_iff.1 hletter with hupper | hlower
    · exact lt_of_le_of_lt (of_decide_eq_true hupper).2 (by decide)
    · exact lt_of_le_of_lt (of_decide_eq_true (Bool.and_eq_true_iff.1 hlower).2) (by decide)
  · exact ascii_of_isDigit hdigit

theorem isDigit_plain {c : Char} (h : c = ':' ∨ c.isDigit = true) :
    isC0OrSpace c = false ∧ endsAuthority c = false ∧ c ≠ '@' := by
  rcases h with rfl | h
  · decide
  · exact forall_ascii (p := fun c => c.isDigit = true →
      isC0OrSpace c = false ∧ endsAuthority c = false ∧ c ≠ '@') (by decide) (ascii_of_isDigit h) h

/-- A host and a port are read back. -/
theorem parseAuthority_text {url : Url Host} {default : ℕ}
    (hhost : parseHost (serializeHost url.host) = some url.host)
    (hplain : PlainHost (serializeHost url.host))
    (hport : ∀ port ∈ url.port, port ≤ 65535 ∧ port ≠ default) :
    parseAuthority parseHost default (serializeHost url.host ++ url.portText) =
      some ⟨[], [], url.host, url.port⟩ := by
  have hat : ∀ c ∈ (serializeHost url.host ++ url.portText).reverse, (c ≠ '@' : Bool) = true := by
    intro c hc
    rw [List.mem_reverse, List.mem_append] at hc
    rcases hc with hc | hc
    · simpa using (hplain.plain c hc).2.2
    · simpa using (isDigit_plain (mem_portText hc)).2.2
  have htake : takeHost false (serializeHost url.host ++ url.portText) =
      (serializeHost url.host, url.port.map (Nat.toDigits 10)) := by
    rw [hplain.takeHost_append]
    cases hport : url.port with
    | none => simp [Url.portText, hport, takeHost]
    | some port => simp [Url.portText, hport, takeHost]
  have hempty : (serializeHost url.host).isEmpty = false :=
    List.isEmpty_eq_false_iff.2 hplain.ne_nil
  have hread : (url.port.map (Nat.toDigits 10)).elim (some none) (parsePort default) =
      some url.port := by
    cases hp : url.port with
    | none => rfl
    | some port =>
      obtain ⟨hle, hne⟩ := hport port hp
      exact parsePort_toDigits hle hne
  rw [parseAuthority, List.takeWhile_eq_self_iff.2 hat, List.reverse_reverse]
  simp only [htake, hempty, hread, hhost, Nat.sub_self, Nat.zero_sub, List.take_zero,
    Bool.false_eq_true, if_false]
  rfl

/-- A URL without credentials, query and fragment. -/
theorem href_of_bare {url : Url Host} (husername : url.username = [])
    (hpassword : url.password = []) (hquery : url.query = none) (hfragment : url.fragment = none) :
    url.href serializeHost = url.scheme ++ ':' :: '/' :: '/' ::
      (serializeHost url.host ++ url.portText ++ url.pathname) := by
  simp [Url.href, Url.credentials, husername, hpassword, hquery, hfragment]

theorem isSegmentText_plain {c : Char} (h : c = '/' ∨ isSegmentText c = true) :
    isC0OrSpace c = false ∧ startsQueryOrFragment c = false := by
  rcases h with rfl | h
  · decide
  · rw [isSegmentText, Bool.and_eq_true, Bool.not_eq_true'] at h
    by_cases hpercent : c = '%'
    · subst hpercent
      decide
    · have htext := isPathText_of_isPlain (c := c) (by rw [isPlain, h.1]; simpa using hpercent)
      simp only [isPathText, Bool.and_eq_true, Bool.not_eq_true'] at htext
      exact ⟨htext.1.1, htext.2⟩

/-- A path is written with slashes and text of segments. -/
theorem mem_pathname {url : Url Host} (h : NormalPath url.path) {c : Char}
    (hc : c ∈ url.pathname) : c = '/' ∨ isSegmentText c = true := by
  obtain ⟨segment, hsegment, hc⟩ := List.mem_flatMap.1 hc
  rcases List.mem_cons.1 hc with rfl | hc
  · exact .inl rfl
  · exact .inr ((h segment hsegment).text c hc)

/-- The text of a URL, with the scheme and the authority of `url`, is read as such a URL. -/
theorem parse_text {url : Url Host} {default : ℕ} (hdefault : defaultPort url.scheme = some default)
    (hport : ∀ port ∈ url.port, port ≤ 65535 ∧ port ≠ default)
    (hhost : parseHost (serializeHost url.host) = some url.host)
    (hplain : PlainHost (serializeHost url.host)) {rest : List Char}
    (hrest : ∀ c ∈ rest, isC0OrSpace c = false) (hends : ∀ c ∈ rest.head?, endsAuthority c = true) :
    parse parseHost (url.scheme ++ ':' :: '/' :: '/' ::
        (serializeHost url.host ++ url.portText ++ rest)) =
      some (urlOf url.scheme ⟨[], [], url.host, url.port⟩ rest) := by
  have hscheme : parseScheme (url.scheme ++ [':']) = some (url.scheme, []) ∧
      ∀ c ∈ url.scheme, isC0OrSpace c = false := by
    unfold defaultPort at hdefault
    split at hdefault
    next heq => exact heq ▸ ⟨by decide, List.all_iff_forall_prop.1 (by decide)⟩
    next =>
      split at hdefault
      next heq => exact heq ▸ ⟨by decide, List.all_iff_forall_prop.1 (by decide)⟩
      next => cases hdefault
  have hauthority : ∀ c ∈ serializeHost url.host ++ url.portText,
      isC0OrSpace c = false ∧ endsAuthority c = false := by
    intro c hc
    rcases List.mem_append.1 hc with hc | hc
    · exact ⟨(hplain.plain c hc).1, (hplain.plain c hc).2.1⟩
    · exact ⟨(isDigit_plain (mem_portText hc)).1, (isDigit_plain (mem_portText hc)).2.1⟩
  have hprepare : prepare (url.scheme ++ ':' :: '/' :: '/' ::
      (serializeHost url.host ++ url.portText ++ rest)) = url.scheme ++ ':' :: '/' :: '/' ::
        (serializeHost url.host ++ url.portText ++ rest) := by
    refine prepare_eq_self fun c hc => ?_
    rw [List.mem_append, List.mem_cons, List.mem_cons, List.mem_cons, List.mem_append] at hc
    rcases hc with hc | rfl | rfl | rfl | hc | hc
    · exact hscheme.2 c hc
    · decide
    · decide
    · decide
    · exact (hauthority c hc).1
    · exact hrest c hc
  have hskip : ('/' :: '/' :: (serializeHost url.host ++ url.portText ++ rest)).dropWhile
      isSlash = serializeHost url.host ++ url.portText ++ rest := by
    obtain ⟨c, host, hcons⟩ := List.exists_cons_of_ne_nil hplain.ne_nil
    have hc := (hplain.plain c (hcons ▸ List.mem_cons_self)).2.1
    rw [endsAuthority, Bool.or_eq_false_iff] at hc
    rw [hcons]
    simp only [List.cons_append, List.dropWhile_cons, hc.1, if_false, Bool.false_eq_true]
    rfl
  have hkeep : ∀ c ∈ serializeHost url.host ++ url.portText, (!endsAuthority c) = true :=
    fun c hc => by rw [(hauthority c hc).2, Bool.not_false]
  have hcut : rest.takeWhile (!endsAuthority ·) = [] ∧
      rest.dropWhile (!endsAuthority ·) = rest := by
    cases rest with
    | nil => exact ⟨rfl, rfl⟩
    | cons c rest =>
      have hc := hends c rfl
      rw [List.takeWhile_cons_of_neg (by rw [hc]; decide),
        List.dropWhile_cons_of_neg (by rw [hc]; decide)]
      exact ⟨rfl, rfl⟩
  refine parse_eq_some_iff.2 ⟨url.scheme, '/' :: '/' ::
    (serializeHost url.host ++ url.portText ++ rest), default, ⟨[], [], url.host, url.port⟩,
    ?_, hdefault, ?_, ?_⟩
  · rw [hprepare, List.append_cons]
    exact parseScheme_append hscheme.1 _
  · rw [hskip, List.takeWhile_append_of_pos hkeep, hcut.1, List.append_nil]
    exact parseAuthority_text hhost hplain hport
  · rw [hskip, List.dropWhile_append_of_pos hkeep, hcut.2]

/-- The text of a URL is read as that URL. -/
theorem parse_href {url : Url Host} (h : Normal url)
    (hhost : parseHost (serializeHost url.host) = some url.host)
    (hplain : PlainHost (serializeHost url.host)) (husername : url.username = [])
    (hpassword : url.password = []) (hquery : url.query = none) (hfragment : url.fragment = none) :
    parse parseHost (url.href serializeHost) = some url := by
  obtain ⟨default, hdefault, hport⟩ := h.scheme
  obtain ⟨text, hpathname, hpath⟩ := parsePath_normal h.path h.path_ne_nil
  have hpathname : url.pathname = '/' :: text := hpathname
  have htext : ∀ c ∈ '/' :: text, isC0OrSpace c = false ∧ startsQueryOrFragment c = false :=
    fun c hc => isSegmentText_plain (mem_pathname h.path (hpathname ▸ hc))
  rw [href_of_bare husername hpassword hquery hfragment, hpathname,
    parse_text hdefault hport hhost hplain (fun c hc => (htext c hc).1) (by rintro _ ⟨⟩; decide),
    urlOf_cons (by decide) fun c hc => (htext c (List.mem_cons_of_mem _ hc)).2, hpath]
  cases url
  cases husername
  cases hpassword
  cases hquery
  cases hfragment
  rfl

end WebUrl
