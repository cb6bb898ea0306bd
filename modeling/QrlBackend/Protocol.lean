import Mathlib.Data.Int.Notation
import Mathlib.Data.List.Basic

/-!
# Values of the relay protocol

The two roles, the payload the relay retains, and what the relay reads of a value it got
from a client. A ciphertext is opaque to the relay : it narrows the value with `typeof`
guards (`Narrowed`) and asks `JSON.stringify` for its length (`Stringified`). `Unknown`
collects those two views, so the rest of the development holds for every type of wire
values and whatever they serialize to.

Objects have identity in JavaScript. The message handler builds a new payload object for
each message it accepts, so two equal ciphertexts are two payloads. `Origin` stands for
that identity : the socket whose handler built the object, and a serial number.
-/

set_option autoImplicit false

namespace QrlBackend

/-- A Socket.IO id. Ids are generated, never empty, and compared. An id also names a room. -/
abbrev SocketId := ℕ

/-- The two roles of a channel. -/
inductive ClientType where
  | dapp
  | wallet
  deriving DecidableEq, Repr

namespace ClientType

/-- The wire spelling. -/
def text : ClientType → String
  | .dapp => "dapp"
  | .wallet => "wallet"

/-- The role a message of this role is for. -/
def other : ClientType → ClientType
  | .dapp => .wallet
  | .wallet => .dapp

theorem other_ne (t : ClientType) : t.other ≠ t := by
  cases t <;> decide

theorem eq_other_of_ne {t u : ClientType} (h : t ≠ u) : t = u.other := by
  cases t <;> cases u <;> first | rfl | exact absurd rfl h

end ClientType

/-- What the `typeof` guards see of a value. `integer` is a number that
`Number.isSafeInteger` accepts. -/
inductive Narrowed where
  | undefined
  | null
  | string (s : String)
  | integer (n : ℤ)
  | other
  deriving DecidableEq

/-- What `JSON.stringify` makes of a property's value : text, nothing, or an exception. -/
inductive Stringified where
  | text (s : String)
  | undefined
  | throws

/-- A type of values that arrive from untrusted clients. -/
class Unknown (V : Type) where
  narrow : V → Narrowed
  stringify : V → Stringified

/-- How `JSON.stringify` writes one character of a string. -/
def jsonEscape (c : Char) : String :=
  if c = '"' then "\\\""
  else if c = '\\' then "\\\\"
  else if c.toNat = 8 then "\\b"
  else if c.toNat = 9 then "\\t"
  else if c.toNat = 10 then "\\n"
  else if c.toNat = 12 then "\\f"
  else if c.toNat = 13 then "\\r"
  else if c.toNat < 32 then
    "\\u00" ++ String.ofList [Nat.digitChar (c.toNat / 16), Nat.digitChar (c.toNat % 16)]
  else String.ofList [c]

/-- `JSON.stringify` of a string. -/
def jsonQuote (s : String) : String :=
  "\"" ++ (s.toList.map jsonEscape).foldr (· ++ ·) "" ++ "\""

/-- Ciphertexts that are texts. -/
instance : Unknown String where
  narrow := .string
  stringify s := .text (jsonQuote s)

/-- Type guard of a role. -/
def isClientType : Narrowed → Option ClientType
  | .string s => if s = "dapp" then some .dapp else if s = "wallet" then some .wallet else none
  | _ => none

/-- The identity of a payload object. -/
structure Origin where
  /-- The socket whose handler built the object. -/
  sender : SocketId
  serial : ℕ
  deriving DecidableEq

/-- Exact message shape retained or relayed after wire validation. -/
structure RelayPayload (V : Type) where
  id : String
  clientType : ClientType
  message : V
  seq : Option ℤ
  origin : Origin

namespace RelayPayload

variable {V : Type} [Unknown V]

/-- `JSON.stringify` of a payload, nothing if it throws. A property whose value is
`undefined` is left out. -/
def serialize (p : RelayPayload V) : Option String :=
  let head := "\x7b\"id\":" ++ jsonQuote p.id ++ ",\"clientType\":" ++ jsonQuote p.clientType.text
  let tail := match p.seq with
    | none => "\x7d"
    | some n => ",\"seq\":" ++ toString n ++ "\x7d"
  match Unknown.stringify p.message with
  | .throws => none
  | .undefined => some (head ++ tail)
  | .text t => some (head ++ ",\"message\":" ++ t ++ tail)

/-- The UTF-8 length of the payload's JSON text. -/
def getSerializedSize (p : RelayPayload V) : Option ℕ := p.serialize.map String.utf8ByteSize

/-- A serialized payload has its braces. -/
theorem getSerializedSize_pos {p : RelayPayload V} {n : ℕ} (h : p.getSerializedSize = some n) :
    0 < n := by
  have hbrace : 0 < ("\x7b\"id\":" : String).utf8ByteSize := by decide
  obtain ⟨s, hs, rfl⟩ := Option.map_eq_some_iff.1 h
  simp only [serialize] at hs
  split at hs
  · cases hs
  · cases hs
    simp only [String.utf8ByteSize_append]
    omega
  · cases hs
    simp only [String.utf8ByteSize_append]
    omega

end RelayPayload

/-- The part of the configuration the relay reads. -/
structure Config where
  relayMaxActiveSockets : ℕ
  relayMaxSocketsPerIp : ℕ
  relayMaxActiveChannels : ℕ
  relayMaxChannelsPerIp : ℕ
  relayMaxBufferedBytesPerChannel : ℕ
  relayMaxBufferedBytesPerIp : ℕ
  relayMaxBufferedBytesGlobal : ℕ

/-- The configuration of an environment that sets none of the variables. -/
def Config.unset : Config where
  relayMaxActiveSockets := 5000
  relayMaxSocketsPerIp := 25
  relayMaxActiveChannels := 20000
  relayMaxChannelsPerIp := 25
  relayMaxBufferedBytesPerChannel := 2 * 1024 * 1024
  relayMaxBufferedBytesPerIp := 8 * 1024 * 1024
  relayMaxBufferedBytesGlobal := 64 * 1024 * 1024

end QrlBackend
