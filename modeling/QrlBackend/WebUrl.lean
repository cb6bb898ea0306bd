import Mathlib.Data.List.DropRight
import Mathlib.Data.List.Infix
import Mathlib.Data.List.TakeWhile

/-!
# The URL parser for http and https

The basic URL parser of the URL standard, for an absolute URL with one of the schemes that
web requests use and without a base URL. What the standard does one character after the
other in its states is here one pass for each part : the scheme, the authority, the path, the
query and the fragment. The host parser is a parameter.

A URL without a query and a fragment that ends in a slash can be extended : the text behind it
is read as more of its path (`parse_append`). If no segment of that text goes back
(`..`, or an encoding of it) the path is only extended (`prefix_of_foldl_pathChar`).
-/

set_option autoImplicit false

namespace WebUrl

/-! ## Code points -/

def isC0OrSpace (c : Char) : Bool := c.toNat ≤ 32

def isTabOrNewline (c : Char) : Bool := c = '\t' || c = '\n' || c = '\r'

/-- The separators of path segments, in a URL of these schemes. -/
def isSlash (c : Char) : Bool := c = '/' || c = '\\'

def startsQueryOrFragment (c : Char) : Bool := c = '?' || c = '#'

/-- A character that ends the authority. -/
def endsAuthority (c : Char) : Bool := isSlash c || startsQueryOrFragment c

/-! ## Percent-encoding -/

def c0ControlSet (c : Char) : Bool := c.toNat < 32 || 126 < c.toNat

def fragmentSet (c : Char) : Bool := c0ControlSet c || c ∈ [' ', '"', '<', '>', '`']

def querySet (c : Char) : Bool := c0ControlSet c || c ∈ [' ', '"', '#', '<', '>']

def specialQuerySet (c : Char) : Bool := querySet c || c = '\''

def pathSet (c : Char) : Bool := querySet c || c ∈ ['?', '`', '{', '}']

def userinfoSet (c : Char) : Bool :=
  pathSet c || c ∈ ['/', ':', ';', '=', '@', '[', '\\', ']', '^', '|']

def percentEncodeByte (byte : UInt8) : List Char :=
  let digit (n : ℕ) : Char := (Nat.digitChar n).toUpper
  ['%', digit (byte.toNat / 16), digit (byte.toNat % 16)]

/-- UTF-8 percent-encode a code point, if it is in the set. -/
def percentEncode (set : Char → Bool) (c : Char) : List Char :=
  if set c then (String.utf8EncodeChar c).flatMap percentEncodeByte else [c]

/-! ## The record -/

structure Url (Host : Type) where
  scheme : List Char
  username : List Char
  password : List Char
  host : Host
  port : Option ℕ
  path : List (List Char)
  query : Option (List Char)
  fragment : Option (List Char)
  deriving DecidableEq

namespace Url

variable {Host : Type}

/-- The tuple origin. -/
def origin (url : Url Host) : List Char × Host × Option ℕ := (url.scheme, url.host, url.port)

/-- The path, serialized. -/
def pathname (url : Url Host) : List Char := url.path.flatMap ('/' :: ·)

end Url

/-! ## The parts -/

/-- Remove the leading and trailing C0 controls and spaces, and every tab and newline. -/
def prepare (input : List Char) : List Char :=
  ((input.dropWhile isC0OrSpace).rdropWhile isC0OrSpace).filter (!isTabOrNewline ·)

def isSchemeChar (c : Char) : Bool := c.isAlphanum || c = '+' || c = '-' || c = '.'

/-- The scheme, in lower case, and what is behind its colon. -/
def parseScheme (input : List Char) : Option (List Char × List Char) :=
  if input.head?.any Char.isAlpha then
    match input.dropWhile isSchemeChar with
    | ':' :: rest => some ((input.takeWhile isSchemeChar).map Char.toLower, rest)
    | _ => none
  else none

/-- The default port of a scheme, nothing for schemes other than these two. -/
def defaultPort (scheme : List Char) : Option ℕ :=
  if scheme = "http".toList then some 80
  else if scheme = "https".toList then some 443
  else none

/-- The host up to the first colon outside of brackets, and what is behind that. -/
def takeHost (insideBrackets : Bool) : List Char → List Char × Option (List Char)
  | [] => ([], none)
  | c :: cs =>
    if c = ':' && !insideBrackets then ([], some cs)
    else
      let inside := if c = '[' then true else if c = ']' then false else insideBrackets
      let (host, port) := takeHost inside cs
      (c :: host, port)

/-- A port, nothing for the default one. -/
def parsePort (default : ℕ) (digits : List Char) : Option (Option ℕ) :=
  if digits.all Char.isDigit then
    let port := digits.foldl (fun n c => n * 10 + (c.toNat - '0'.toNat)) 0
    if digits.isEmpty then some none
    else if 65535 < port then none
    else some (if port = default then none else some port)
  else none

/-- The credentials, the host and the port of an authority. -/
structure Authority (Host : Type) where
  username : List Char
  password : List Char
  host : Host
  port : Option ℕ

variable {Host : Type} (parseHost : List Char → Option Host)

/-- The last `@` ends the credentials, and the first colon in them the username. -/
def parseAuthority (default : ℕ) (authority : List Char) : Option (Authority Host) :=
  let hostAndPort := (authority.reverse.takeWhile (· ≠ '@')).reverse
  let credentials := authority.take (authority.length - hostAndPort.length - 1)
  let encode (l : List Char) : List Char := l.flatMap (percentEncode userinfoSet)
  let (host, port) := takeHost false hostAndPort
  if host.isEmpty then none
  else
    match parseHost host, port.elim (some none) (parsePort default) with
    | some host, some port => some {
        username := encode (credentials.takeWhile (· ≠ ':'))
        password := encode ((credentials.dropWhile (· ≠ ':')).drop 1)
        host
        port }
    | _, _ => none

/-! ## The path -/

def isSingleDot (segment : List Char) : Bool :=
  segment.map Char.toLower ∈ [".".toList, "%2e".toList]

def isDoubleDot (segment : List Char) : Bool :=
  segment.map Char.toLower ∈ ["..".toList, ".%2e".toList, "%2e.".toList, "%2e%2e".toList]

/-- The segments so far, and the one that is being read. -/
structure PathState where
  path : List (List Char)
  buffer : List Char

/-- The end of a segment, at a slash or at the end of the path. -/
def PathState.endSegment (st : PathState) (slash : Bool) : PathState where
  path :=
    if isDoubleDot st.buffer then st.path.dropLast ++ if slash then [] else [[]]
    else if isSingleDot st.buffer then st.path ++ if slash then [] else [[]]
    else st.path ++ [st.buffer]
  buffer := []

def pathChar (st : PathState) (c : Char) : PathState :=
  if isSlash c then st.endSegment true
  else { st with buffer := st.buffer ++ percentEncode pathSet c }

def parsePath (input : List Char) : List (List Char) :=
  ((input.foldl pathChar ⟨[], []⟩).endSegment false).path

/-! ## The parser -/

def parseFragment : List Char → Option (List Char)
  | '#' :: fragment => some (fragment.flatMap (percentEncode fragmentSet))
  | _ => none

def parseQuery : List Char → Option (List Char)
  | '?' :: query => some ((query.takeWhile (· ≠ '#')).flatMap (percentEncode specialQuerySet))
  | _ => none

/-- The URL with this scheme and authority, and what is behind them. -/
def urlOf (scheme : List Char) (authority : Authority Host) (rest : List Char) : Url Host :=
  -- The first slash is not a separator.
  let rest := if rest.head?.any isSlash then rest.tail else rest
  let behind := rest.dropWhile (!startsQueryOrFragment ·)
  { scheme
    username := authority.username
    password := authority.password
    host := authority.host
    port := authority.port
    path := parsePath (rest.takeWhile (!startsQueryOrFragment ·))
    query := parseQuery behind
    fragment := parseFragment (behind.dropWhile (· ≠ '#')) }

def parse (input : List Char) : Option (Url Host) := do
  let (scheme, rest) ← parseScheme (prepare input)
  let default ← defaultPort scheme
  let rest := rest.dropWhile isSlash
  let authority ← parseAuthority parseHost default (rest.takeWhile (!endsAuthority ·))
  return urlOf scheme authority (rest.dropWhile (!endsAuthority ·))

/-! ## Longer URLs -/

/-- A character that the parser reads as part of a path. -/
def isPathText (c : Char) : Bool :=
  !isC0OrSpace c && !isTabOrNewline c && !startsQueryOrFragment c

section Append

variable {α : Type} {p : α → Bool} {l s : List α}

theorem dropWhile_append_cons {c : α} (hc : p c = false) :
    (l ++ c :: s).dropWhile p = l.dropWhile p ++ c :: s := by
  rw [List.dropWhile_append]
  split
  next hnil =>
    rw [List.isEmpty_iff.1 hnil, List.nil_append, List.dropWhile_cons_of_neg]
    rw [hc]
    exact Bool.false_ne_true
  next => rfl

theorem dropWhile_append_of_ne_nil (h : l.dropWhile p ≠ []) :
    (l ++ s).dropWhile p = l.dropWhile p ++ s := by
  rw [List.dropWhile_append, if_neg (mt List.isEmpty_iff.1 h)]

theorem takeWhile_append_of_ne_nil (h : l.dropWhile p ≠ []) :
    (l ++ s).takeWhile p = l.takeWhile p := by
  rw [List.takeWhile_append, if_neg fun hlength => ?_]
  have hself := (List.takeWhile_prefix p).eq_of_length hlength
  exact h (List.dropWhile_eq_nil_iff.2 (List.takeWhile_eq_self_iff.1 hself))

end Append

/-- Preparing leaves alone what is behind a slash. -/
theorem prepare_append (l : List Char) {s : List Char} (hs : ∀ c ∈ s, isPathText c = true) :
    prepare (l ++ '/' :: s) =
      (l.dropWhile isC0OrSpace).filter (!isTabOrNewline ·) ++ '/' :: s := by
  have htext : ∀ c ∈ '/' :: s, isC0OrSpace c = false ∧ isTabOrNewline c = false := by
    intro c hc
    rcases List.mem_cons.1 hc with rfl | hc
    · decide
    · have hc := hs c hc
      simp only [isPathText, Bool.and_eq_true, Bool.not_eq_true'] at hc
      exact hc.1
  have hkept : ('/' :: s).filter (!isTabOrNewline ·) = '/' :: s :=
    List.filter_eq_self.2 fun c hc => by rw [(htext c hc).2, Bool.not_false]
  have hright : ∀ l' : List Char, (l' ++ '/' :: s).rdropWhile isC0OrSpace = l' ++ '/' :: s := by
    intro l'
    rw [List.rdropWhile_eq_self_iff]
    intro hne
    rw [List.getLast_append_of_ne_nil _ (List.cons_ne_nil '/' s),
      (htext _ (List.getLast_mem _)).1]
    exact Bool.false_ne_true
  rw [prepare, dropWhile_append_cons (by decide), hright, List.filter_append, hkept]

theorem parseScheme_append {l scheme rest : List Char} (h : parseScheme l = some (scheme, rest))
    (s : List Char) : parseScheme (l ++ s) = some (scheme, rest ++ s) := by
  unfold parseScheme at h ⊢
  split at h
  next halpha =>
    split at h
    next rest' hdrop =>
      cases h
      have hne : l.dropWhile isSchemeChar ≠ [] := by
        rw [hdrop]
        exact List.cons_ne_nil _ _
      have hhead : (l ++ s).head?.any Char.isAlpha = true := by
        cases l with
        | nil => cases halpha
        | cons c l => exact halpha
      rw [if_pos hhead, dropWhile_append_of_ne_nil hne, takeWhile_append_of_ne_nil hne, hdrop]
      rfl
    next => cases h
  next => cases h

theorem parseScheme_suffix {l scheme rest : List Char} (h : parseScheme l = some (scheme, rest)) :
    rest <:+ l := by
  unfold parseScheme at h
  split at h
  · split at h
    next rest' hdrop =>
      cases h
      exact (List.suffix_cons ':' rest).trans (hdrop ▸ List.dropWhile_suffix _)
    next => cases h
  · cases h

theorem eq_append_of_suffix {l s : List Char} {c : Char} (h : s <:+ l ++ [c]) (hs : s ≠ []) :
    ∃ s', s = s' ++ [c] := by
  obtain ⟨t, ht⟩ := h
  obtain hnil | ⟨s', x, hconcat⟩ := List.eq_nil_or_concat s
  · exact absurd hnil hs
  · rw [List.concat_eq_append] at hconcat
    rw [hconcat, ← List.append_assoc] at ht
    obtain ⟨-, rfl⟩ := List.append_singleton_inj.1 ht
    exact ⟨s', hconcat⟩

variable {parseHost}

theorem parse_eq_some_iff {input : List Char} {url : Url Host} :
    parse parseHost input = some url ↔ ∃ scheme rest default authority,
      parseScheme (prepare input) = some (scheme, rest) ∧ defaultPort scheme = some default ∧
      parseAuthority parseHost default
        ((rest.dropWhile isSlash).takeWhile (!endsAuthority ·)) = some authority ∧
      urlOf scheme authority ((rest.dropWhile isSlash).dropWhile (!endsAuthority ·)) = url := by
  simp only [parse, Option.bind_eq_bind, Option.bind_eq_some_iff, Option.pure_def,
    Option.some.injEq, Prod.exists]
  constructor
  · rintro ⟨scheme, rest, hscheme, default, hdefault, authority, hauthority, hurl⟩
    exact ⟨scheme, rest, default, authority, hscheme, hdefault, hauthority, hurl⟩
  · rintro ⟨scheme, rest, default, authority, hscheme, hdefault, hauthority, hurl⟩
    exact ⟨scheme, rest, hscheme, default, hdefault, authority, hauthority, hurl⟩

/-- Without a query and a fragment nothing starts one. -/
theorem startsQueryOrFragment_eq_false {l : List Char}
    (hquery : parseQuery (l.dropWhile (!startsQueryOrFragment ·)) = none)
    (hfragment : parseFragment
      ((l.dropWhile (!startsQueryOrFragment ·)).dropWhile (· ≠ '#')) = none) :
    ∀ c ∈ l, startsQueryOrFragment c = false := by
  cases hbehind : l.dropWhile (!startsQueryOrFragment ·) with
  | nil =>
    intro c hc
    simpa using List.dropWhile_eq_nil_iff.1 hbehind c hc
  | cons c cs =>
    rw [hbehind] at hquery hfragment
    have hstarts : startsQueryOrFragment c = true := by
      have hhead := List.head?_dropWhile_not (!startsQueryOrFragment ·) l
      rw [hbehind] at hhead
      simpa using hhead
    rw [startsQueryOrFragment, Bool.or_eq_true, decide_eq_true_eq, decide_eq_true_eq] at hstarts
    rcases hstarts with rfl | rfl
    · cases hquery
    · cases hfragment

/-- A path that is not empty has text, and the URL ends with it if it has no query and no
fragment. -/
theorem exists_of_path {scheme : List Char} {authority : Authority Host} {rest : List Char}
    (hends : ∀ c ∈ rest.head?, endsAuthority c = true)
    (hpath : (urlOf scheme authority rest).path ≠ [[]])
    (hquery : (urlOf scheme authority rest).query = none)
    (hfragment : (urlOf scheme authority rest).fragment = none) :
    ∃ c text, rest = c :: text ∧ isSlash c = true ∧ text ≠ [] ∧
      ∀ x ∈ text, startsQueryOrFragment x = false := by
  have hplain := startsQueryOrFragment_eq_false hquery hfragment
  cases rest with
  | nil => exact absurd rfl hpath
  | cons c text =>
    rw [List.head?_cons, Option.any_some] at hplain
    cases hc : isSlash c with
    | true =>
      rw [hc, if_pos rfl, List.tail_cons] at hplain
      refine ⟨c, text, rfl, hc, ?_, hplain⟩
      rintro rfl
      rw [urlOf, List.head?_cons, Option.any_some, hc, if_pos rfl] at hpath
      exact hpath rfl
    | false =>
      rw [hc, if_neg Bool.false_ne_true] at hplain
      have hends := hends c rfl
      rw [endsAuthority, hc, hplain c List.mem_cons_self] at hends
      cases hends

theorem urlOf_cons {scheme : List Char} {authority : Authority Host} {c : Char} {text : List Char}
    (hc : isSlash c = true) (htext : ∀ x ∈ text, startsQueryOrFragment x = false) :
    urlOf scheme authority (c :: text) = {
      scheme
      username := authority.username
      password := authority.password
      host := authority.host
      port := authority.port
      path := parsePath text
      query := none
      fragment := none } := by
  have hplain : ∀ x ∈ text, (!startsQueryOrFragment x) = true := fun x hx => by
    rw [htext x hx, Bool.not_false]
  have hbehind : text.dropWhile (!startsQueryOrFragment ·) = [] :=
    List.dropWhile_eq_nil_iff.2 hplain
  unfold urlOf
  simp only [List.head?_cons, Option.any_some, hc, if_true, List.tail_cons, hbehind,
    List.takeWhile_eq_self_iff.2 hplain]
  rfl

theorem endSegment_nil (path : List (List Char)) :
    ((⟨path, []⟩ : PathState).endSegment false).path = path ++ [[]] := rfl

/-- After a slash there is nothing in the buffer. -/
theorem foldl_pathChar_slash (st : PathState) (text : List Char) :
    ∃ path, (text ++ ['/']).foldl pathChar st = ⟨path, []⟩ := by
  rw [List.foldl_append]
  exact ⟨_, rfl⟩

/-- A path that ends in a slash goes on with more text. -/
theorem parsePath_append (text : List Char) :
    ∃ path, parsePath (text ++ ['/']) = path ++ [[]] ∧ ∀ s, parsePath (text ++ '/' :: s) =
      ((s.foldl pathChar ⟨path, []⟩).endSegment false).path := by
  obtain ⟨path, hpath⟩ := foldl_pathChar_slash ⟨[], []⟩ text
  refine ⟨path, ?_, fun s => ?_⟩
  · rw [parsePath, hpath, endSegment_nil]
  · rw [parsePath, ← List.singleton_append, ← List.append_assoc, List.foldl_append, hpath]

/-- Text behind the last slash of a URL is read as more of its path. -/
theorem parse_append {l : List Char} {url : Url Host}
    (h : parse parseHost (l ++ ['/']) = some url) (hpath : url.path ≠ [[]])
    (hquery : url.query = none) (hfragment : url.fragment = none) :
    ∃ path, url.path = path ++ [[]] ∧ ∀ s : List Char, (∀ c ∈ s, isPathText c = true) →
      parse parseHost (l ++ '/' :: s) = some { url with
        path := ((s.foldl pathChar ⟨path, []⟩).endSegment false).path } := by
  obtain ⟨scheme, rest, default, authority, hscheme, hdefault, hauthority, rfl⟩ :=
    parse_eq_some_iff.1 h
  have hends : ∀ c ∈ ((rest.dropWhile isSlash).dropWhile (!endsAuthority ·)).head?,
      endsAuthority c = true := by
    intro c hc
    have hhead := List.head?_dropWhile_not (!endsAuthority ·) (rest.dropWhile isSlash)
    rw [Option.mem_def.1 hc] at hhead
    simpa using hhead
  obtain ⟨c, text, hrest, hc, htext, hplain⟩ := exists_of_path hends hpath hquery hfragment
  have hbehind : (rest.dropWhile isSlash).dropWhile (!endsAuthority ·) ≠ [] := by
    rw [hrest]
    exact List.cons_ne_nil c text
  have hauthority' : rest.dropWhile isSlash ≠ [] := fun hnil => hbehind (by rw [hnil]; rfl)
  -- The text is the end of the URL, so its last character is the slash.
  obtain ⟨text, rfl⟩ : ∃ text', text = text' ++ ['/'] := by
    have hsuffix : c :: text <:+ prepare (l ++ ['/']) := by
      rw [← hrest]
      exact (List.dropWhile_suffix _).trans
        ((List.dropWhile_suffix _).trans (parseScheme_suffix hscheme))
    rw [prepare_append l (List.forall_mem_nil _)] at hsuffix
    exact eq_append_of_suffix ((List.suffix_cons c text).trans hsuffix) htext
  obtain ⟨path, hslash, hmore⟩ := parsePath_append text
  rw [hrest, urlOf_cons hc hplain]
  refine ⟨path, hslash, fun s hs => ?_⟩
  have hprepare : prepare (l ++ '/' :: s) = prepare (l ++ ['/']) ++ s := by
    rw [prepare_append l hs, prepare_append l (List.forall_mem_nil _), List.append_assoc]
    rfl
  have hplain' : ∀ x ∈ text ++ '/' :: s, startsQueryOrFragment x = false := by
    intro x hx
    rw [← List.singleton_append, ← List.append_assoc, List.mem_append] at hx
    rcases hx with hx | hx
    · exact hplain x hx
    · have hx := hs x hx
      rw [isPathText, Bool.and_eq_true, Bool.not_eq_true'] at hx
      exact hx.2
  refine parse_eq_some_iff.2 ⟨scheme, rest ++ s, default, authority, ?_, hdefault, ?_, ?_⟩
  · rw [hprepare]
    exact parseScheme_append hscheme s
  · rw [dropWhile_append_of_ne_nil hauthority', takeWhile_append_of_ne_nil hbehind]
    exact hauthority
  · rw [dropWhile_append_of_ne_nil hauthority', dropWhile_append_of_ne_nil hbehind, hrest,
      List.cons_append, List.append_assoc, List.singleton_append, urlOf_cons hc hplain', hmore]

/-! ## Segments that do not go back -/

/-- A character that stands for itself in a path. -/
def isPlain (c : Char) : Bool := !pathSet c && c ≠ '%'

theorem percentEncode_of_isPlain {c : Char} (h : isPlain c = true) :
    percentEncode pathSet c = [c] := by
  rw [isPlain, Bool.and_eq_true, Bool.not_eq_true'] at h
  rw [percentEncode, h.1, if_neg Bool.false_ne_true]

theorem isPathText_of_isPlain {c : Char} (h : isPlain c = true) : isPathText c = true := by
  rw [isPlain, Bool.and_eq_true, Bool.not_eq_true'] at h
  have hset := h.1
  simp only [pathSet, querySet, c0ControlSet, Bool.or_eq_false_iff, decide_eq_false_iff_not,
    List.mem_cons, List.not_mem_nil, or_false, not_or, not_lt] at hset
  obtain ⟨⟨⟨hcontrol, -⟩, hspace, -, hhash, -⟩, hquestion, -⟩ := hset
  have hnat : ∀ d : Char, d.toNat < 32 → c ≠ d := fun d hd heq =>
    absurd hcontrol (Nat.not_le.2 (heq ▸ hd))
  have hc0 : isC0OrSpace c = false := by
    rw [isC0OrSpace, decide_eq_false_iff_not, not_le]
    refine lt_of_le_of_ne hcontrol fun heq => hspace ?_
    rw [← Char.ofNat_toNat c, ← heq]
  have htab : isTabOrNewline c = false := by
    simp [isTabOrNewline, hnat '\t' (by decide), hnat '\n' (by decide), hnat '\r' (by decide)]
  have hstart : startsQueryOrFragment c = false := by
    simp [startsQueryOrFragment, hquestion, hhash]
  rw [isPathText, hc0, htab, hstart]
  rfl

/-- A property of the ASCII characters, by checking each. -/
theorem forall_ascii {p : Char → Prop} (hall : ∀ n < 128, p (Char.ofNat n)) {c : Char}
    (h : c.toNat < 128) : p c :=
  Char.ofNat_toNat c ▸ hall c.toNat h

theorem eq_of_toLower_eq {c d : Char} (h : c.toLower = d) (hd : d.isLower = false) : c = d := by
  by_cases hupper : 'A'.val ≤ c.val ∧ c.val ≤ 'Z'.val
  · have hlt : c.toNat < 128 := lt_of_le_of_lt hupper.2 (by decide)
    have hlower := forall_ascii (p := fun c =>
      'A'.val ≤ c.val ∧ c.val ≤ 'Z'.val → c.toLower.isLower = true) (by decide) hlt hupper
    rw [h, hd] at hlower
    cases hlower
  · have hsame : c.toLower = c := dif_neg hupper
    exact hsame.symm.trans h

/-- Of plain characters only two dots go back. -/
theorem isDoubleDot_eq_false {segment : List Char} (hplain : ∀ c ∈ segment, isPlain c = true)
    (hdots : segment ≠ ['.', '.']) : isDoubleDot segment = false := by
  have hpercent : '%' ∉ segment.map Char.toLower := by
    intro hmem
    obtain ⟨c, hc, hlower⟩ := List.mem_map.1 hmem
    cases eq_of_toLower_eq hlower (by decide)
    exact absurd (hplain _ hc) (by decide)
  have hlower : segment.map Char.toLower ≠ ['.', '.'] := by
    intro hmap
    obtain ⟨c, l, rfl, hc, hl⟩ := List.map_eq_cons_iff.1 hmap
    obtain ⟨d, l, rfl, hd, hnil⟩ := List.map_eq_cons_iff.1 hl
    rw [List.map_eq_nil_iff.1 hnil, eq_of_toLower_eq hc (by decide),
      eq_of_toLower_eq hd (by decide)] at hdots
    exact hdots rfl
  rw [isDoubleDot, decide_eq_false_iff_not]
  intro hmem
  rcases List.mem_cons.1 hmem with heq | hmem
  · exact hlower heq
  · have hall : ∀ l ∈ [".%2e".toList, "%2e.".toList, "%2e%2e".toList], '%' ∈ l := by decide
    exact hpercent (hall _ hmem)

/-- Plain characters without a slash are read as they are. -/
theorem foldl_pathChar_eq {s : List Char}
    (hs : ∀ c ∈ s, isPlain c = true ∧ isSlash c = false) (st : PathState) :
    s.foldl pathChar st = { st with buffer := st.buffer ++ s } := by
  induction s generalizing st with
  | nil => rw [List.append_nil, List.foldl_nil]
  | cons c s ih =>
    obtain ⟨⟨hplain, hslash⟩, hs⟩ := List.forall_mem_cons.1 hs
    have hstep : pathChar st c = { st with buffer := st.buffer ++ [c] } := by
      rw [pathChar, hslash, if_neg Bool.false_ne_true, percentEncode_of_isPlain hplain]
    rw [List.foldl_cons, hstep, ih hs, List.append_assoc, List.singleton_append]

/-- A segment that does not go back leaves the path as it is, or adds to it. -/
theorem endSegment_of_isDoubleDot {st : PathState} (h : isDoubleDot st.buffer = false)
    (slash : Bool) : ∃ more, st.endSegment slash = ⟨st.path ++ more, []⟩ ∧
      (slash = false → more ≠ []) := by
  unfold PathState.endSegment
  rw [h, if_neg Bool.false_ne_true]
  split
  · refine ⟨if slash then [] else [[]], rfl, ?_⟩
    rintro rfl
    exact List.cons_ne_nil [] []
  · exact ⟨[st.buffer], rfl, fun _ => List.cons_ne_nil _ _⟩

/-- A segment that is longer than every spelling of two dots is kept. -/
theorem endSegment_of_length {st : PathState} (h : 6 < st.buffer.length) (slash : Bool) :
    st.endSegment slash = ⟨st.path ++ [st.buffer], []⟩ := by
  rw [← List.length_map (f := Char.toLower)] at h
  have hdouble : isDoubleDot st.buffer = false := by
    rw [isDoubleDot, decide_eq_false_iff_not]
    intro hmem
    have hall : ∀ l ∈ ["..".toList, ".%2e".toList, "%2e.".toList, "%2e%2e".toList],
        l.length ≤ 6 := by decide
    exact absurd h (Nat.not_lt.2 (hall _ hmem))
  have hsingle : isSingleDot st.buffer = false := by
    rw [isSingleDot, decide_eq_false_iff_not]
    intro hmem
    have hall : ∀ l ∈ [".".toList, "%2e".toList], l.length ≤ 6 := by decide
    exact absurd h (Nat.not_lt.2 (hall _ hmem))
  rw [PathState.endSegment, hdouble, hsingle, if_neg Bool.false_ne_true,
    if_neg Bool.false_ne_true]

/-- Plain text without two dots in a row only extends the path. -/
theorem prefix_of_foldl_pathChar {s : List Char} (st : PathState)
    (hplain : ∀ c ∈ st.buffer ++ s, isPlain c = true)
    (hdots : ¬ ['.', '.'] <:+: st.buffer ++ s) :
    ∃ more, more ≠ [] ∧ ((s.foldl pathChar st).endSegment false).path = st.path ++ more := by
  induction s generalizing st with
  | nil =>
    rw [List.append_nil] at hplain hdots
    have hbuffer : st.buffer ≠ ['.', '.'] := fun heq => hdots (heq ▸ List.infix_rfl)
    obtain ⟨more, hmore, hne⟩ :=
      endSegment_of_isDoubleDot (isDoubleDot_eq_false hplain hbuffer) false
    exact ⟨more, hne rfl, congrArg PathState.path hmore⟩
  | cons c s ih =>
    rw [List.foldl_cons]
    cases hslash : isSlash c with
    | true =>
      have hbuffer : st.buffer ≠ ['.', '.'] := fun heq =>
        hdots (heq ▸ (List.prefix_append _ _).isInfix)
      obtain ⟨first, hfirst, -⟩ := endSegment_of_isDoubleDot
        (isDoubleDot_eq_false (fun c hc => hplain c (List.mem_append_left _ hc)) hbuffer) true
      have hsuffix : s <:+ st.buffer ++ c :: s :=
        (List.suffix_cons c s).trans (List.suffix_append _ _)
      have hstep : pathChar st c = ⟨st.path ++ first, []⟩ := by
        rw [pathChar, hslash, if_pos rfl, hfirst]
      obtain ⟨more, hne, hmore⟩ := ih ⟨st.path ++ first, []⟩
        (fun c hc => hplain c (hsuffix.subset hc)) fun h => hdots (h.trans hsuffix.isInfix)
      rw [hstep, hmore]
      exact ⟨first ++ more, List.append_ne_nil_of_right_ne_nil _ hne, List.append_assoc _ _ _⟩
    | false =>
      have hc : isPlain c = true := hplain c (List.mem_append_right _ List.mem_cons_self)
      have hstep : pathChar st c = ⟨st.path, st.buffer ++ [c]⟩ := by
        rw [pathChar, hslash, if_neg Bool.false_ne_true, percentEncode_of_isPlain hc]
      rw [List.append_cons] at hplain hdots
      rw [hstep]
      exact ih _ hplain hdots

end WebUrl
