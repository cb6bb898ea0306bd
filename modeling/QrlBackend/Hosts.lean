import QrlBackend.HexText
import Mathlib.Data.List.OfFn
import Mathlib.Data.Fin.VecNotation

/-!
# Hosts of URLs

The hosts a URL with a special scheme can have, and their serialisation : a domain in lower
case, the dotted decimal form of an IPv4 address, or the shortest form of an IPv6 address
in brackets, whose first longest run of zero pieces is left out. `isIPv4` reads a dotted
decimal form back.
-/

set_option autoImplicit false

namespace Hosts

/-- What the URL parser makes of a host. -/
inductive Host where
  /-- A domain. The parser lower-cases it. -/
  | domain (name : String) (lower : name.toLower = name)
  | ipv4 (a b c d : Fin 256)
  | ipv6 (pieces : Fin 8 → Fin 65536)

/-! ## IPv4 -/

def decimal (n : ℕ) : List Char := (Nat.toDigits 10 n)

/-- The four numbers of an address, with dots between them. -/
def dotted (a b c d : Fin 256) : List Char :=
  decimal a ++ '.' :: (decimal b ++ '.' :: (decimal c ++ '.' :: decimal d))

/-- Canonical decimal texts of octets, with three dots between them. -/
def isIPv4 (s : List Char) : Bool :=
  let parts := s.splitOn '.'
  parts.length = 4 && parts.all fun part => (List.range 256).any fun n => decimal n = part

theorem isDigit_of_mem_decimal {n : ℕ} {c : Char} (h : c ∈ decimal n) : c.isDigit = true :=
  Nat.isDigit_of_mem_toDigits (by decide) le_rfl h

theorem dot_notMem_decimal (n : ℕ) : '.' ∉ decimal n := fun h =>
  absurd (isDigit_of_mem_decimal h) (by decide)

/-- The dots of an address part its numbers. -/
theorem splitOn_dotted (a b c d : Fin 256) :
    (dotted a b c d).splitOn '.' = [decimal a, decimal b, decimal c, decimal d] := by
  have hparts : ∀ part ∈ [decimal a, decimal b, decimal c, decimal d], '.' ∉ part := by
    simp only [List.mem_cons, List.not_mem_nil, or_false]
    rintro part (rfl | rfl | rfl | rfl) <;> exact dot_notMem_decimal _
  have hjoin : dotted a b c d = ['.'].intercalate [decimal a, decimal b, decimal c, decimal d] := by
    simp [dotted, List.intercalate]
  rw [hjoin]
  exact List.splitOn_intercalate '.' hparts (by simp)

/-- An address that is written with dots is seen as one. -/
theorem isIPv4_dotted (a b c d : Fin 256) : isIPv4 (dotted a b c d) = true := by
  have hoctet : ∀ n : Fin 256, ((List.range 256).any fun m => decimal m = decimal n) = true :=
    fun n => List.any_eq_true.2 ⟨n, List.mem_range.2 n.is_lt, by simp⟩
  simp only [isIPv4, splitOn_dotted, List.all_cons, List.all_nil, hoctet]
  rfl

/-! ## IPv6 -/

/-- The length of the run of zeros a list starts with. -/
def zeros (pieces : List ℕ) : ℕ := (pieces.takeWhile (· = 0)).length

/-- The first longest run of at least two zeros, as its start and its length. -/
def compress (pieces : List ℕ) : Option (ℕ × ℕ) :=
  (List.range pieces.length).foldl
    (fun best i =>
      let run := zeros (pieces.drop i)
      if (best.map Prod.snd).getD 1 < run then some (i, run) else best) none

def joinPieces (pieces : List ℕ) : List Char := [':'].intercalate (pieces.map Hex.text)

/-- The longest run of zeros is written as `::`. -/
def serializePieces (pieces : List ℕ) : List Char :=
  match compress pieces with
  | none => joinPieces pieces
  | some (i, run) => joinPieces (pieces.take i) ++ ':' :: ':' :: joinPieces (pieces.drop (i + run))

/-- The serialisation of a host. -/
def Host.serialize : Host → List Char
  | .domain name _ => name.toList
  | .ipv4 a b c d => dotted a b c d
  | .ipv6 pieces => '[' :: (serializePieces (List.ofFn fun i => (pieces i : ℕ)) ++ [']'])

/-- The IPv6 form of an IPv4 address. -/
def mapped (a b c d : Fin 256) : Fin 8 → Fin 65536 :=
  ![0, 0, 0, 0, 0, 65535, ⟨a * 256 + b, by omega⟩, ⟨c * 256 + d, by omega⟩]

example : String.ofList (Host.ipv6 (mapped 127 0 0 1)).serialize = "[::ffff:7f00:1]" := by
  decide +kernel

/-- Of a mapped IPv4 address, the five zeros in front are the run. -/
theorem compress_mapped {hi : ℕ} (hhi : hi ≠ 0) (lo : ℕ) :
    compress [0, 0, 0, 0, 0, 65535, hi, lo] = some (0, 5) := by
  by_cases hlo : lo = 0 <;> simp [compress, zeros, List.range_succ, hhi, hlo]

/-- The zeros a mapped address starts with are its longest run. -/
theorem serialize_mapped {a b c d : Fin 256} (h : (a : ℕ) * 256 + b ≠ 0) :
    (Host.ipv6 (mapped a b c d)).serialize = '[' :: ':' :: ':' :: 'f' :: 'f' :: 'f' :: 'f' :: ':' ::
      (Hex.text (a * 256 + b) ++ ':' :: (Hex.text (c * 256 + d) ++ [']'])) := by
  have hpieces : (List.ofFn fun i => (mapped a b c d i : ℕ)) =
      [0, 0, 0, 0, 0, 65535, (a : ℕ) * 256 + b, (c : ℕ) * 256 + d] := by
    simp [mapped, List.ofFn_succ]
  have hffff : Hex.text 65535 = ['f', 'f', 'f', 'f'] := by decide +kernel
  rw [Host.serialize, hpieces, serializePieces, compress_mapped h]
  simp [joinPieces, List.intercalate, hffff]

/-! ## Letter case -/

/-- No letter is a capital. -/
def Lower (l : List Char) : Prop := ∀ c ∈ l, c.toLower = c

theorem lower_append {l l' : List Char} : Lower (l ++ l') ↔ Lower l ∧ Lower l' := by
  simp [Lower, or_imp, forall_and]

theorem lower_cons {c : Char} {l : List Char} : Lower (c :: l) ↔ c.toLower = c ∧ Lower l := by
  simp [Lower]

theorem lower_text (n : ℕ) : Lower (Hex.text n) := fun c hc =>
  Hex.toLower_of_isLowerDigit (List.all_eq_true.1 (Hex.all_text n) c hc)

/-- Pieces are written in lower case. -/
theorem lower_joinPieces : ∀ pieces : List ℕ, Lower (joinPieces pieces)
  | [] => nofun
  | [n] => by simpa [joinPieces, List.intercalate] using lower_text n
  | n :: n' :: pieces => by
    have hcons : joinPieces (n :: n' :: pieces) =
        Hex.text n ++ ':' :: joinPieces (n' :: pieces) := by
      simp [joinPieces, List.intercalate]
    rw [hcons, lower_append, lower_cons]
    exact ⟨lower_text n, by decide, lower_joinPieces (n' :: pieces)⟩

theorem lower_decimal (n : ℕ) : Lower (decimal n) := by
  intro c hc
  have hdigit := isDigit_of_mem_decimal hc
  simp only [Char.isDigit, Bool.and_eq_true, decide_eq_true_eq] at hdigit
  refine Hex.toLower_of_isLowerDigit ?_
  simp only [Hex.isLowerDigit, Bool.or_eq_true, Bool.and_eq_true, decide_eq_true_eq]
  exact .inl hdigit

/-- A serialised host is in lower case. -/
theorem lower_serialize (host : Host) : Lower host.serialize := by
  cases host with
  | domain name lower =>
    have h := congrArg String.toList lower
    rw [Hex.toList_toLower] at h
    exact List.map_eq_map_iff.1 (h.trans (List.map_id _).symm)
  | ipv4 a b c d =>
    simp only [Host.serialize, dotted, lower_append, lower_cons]
    exact ⟨lower_decimal a, by decide, lower_decimal b, by decide, lower_decimal c, by decide,
      lower_decimal d⟩
  | ipv6 pieces =>
    rw [Host.serialize, lower_cons, lower_append]
    refine ⟨by decide, ?_, by simp [Lower]⟩
    unfold serializePieces
    split
    · exact lower_joinPieces _
    · simp only [lower_append, lower_cons]
      exact ⟨lower_joinPieces _, by decide, by decide, lower_joinPieces _⟩

end Hosts
