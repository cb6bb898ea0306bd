import Mathlib.Data.Rat.Defs

/-!
# JSON values

What `JSON.parse` returns, and how the services read it. A number is the value of the
double it is read as, and a numeral beyond the range of doubles is an infinity. A property
that an object does not have is `undefined`, here `none`.
-/

set_option autoImplicit false

namespace QrlBackend

inductive Json where
  | null
  | bool (b : Bool)
  | number (value : ℚ)
  | infinite (negative : Bool)
  | string (s : String)
  | array (items : List Json)
  | object (fields : List (String × Json))

namespace Json

def isRecord : Json → Bool
  | .object _ => true
  | _ => false

def isNull : Json → Bool
  | .null => true
  | _ => false

/-- A property of a record. -/
def field? (key : String) : Json → Option Json
  | .object fields => fields.lookup key
  | _ => none

/-- The property is this text. -/
def fieldIs (json : Json) (key text : String) : Bool :=
  match json.field? key with
  | some (.string s) => s = text
  | _ => false

end Json

end QrlBackend
