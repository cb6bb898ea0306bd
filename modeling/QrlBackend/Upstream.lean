import QrlBackend.Json

/-!
# Upstream answers

What a `fetch` of an RPC upstream and the bounded reading of its body come to. Which it is
is a choice of the environment.
-/

set_option autoImplicit false

namespace QrlBackend

/-- Why `readBoundedJsonResponse` rejects a body. -/
inductive BoundedJsonFailure where
  | tooLarge
  | empty
  | nonBinary
  | invalidUtf8
  | invalidJson
  | streamError
  deriving DecidableEq

/-- A caught error. `bounded` is the failure of a `BoundedJsonError`. -/
structure JsError where
  bounded : Option BoundedJsonFailure
  name : String
  message : String

def JsError.error (message : String) : JsError := ⟨none, "Error", message⟩

inductive Fetched where
  | rejected (err : JsError)
  | responded (status : ℕ) (body : Except JsError Json)

/-- `response.ok`. -/
def isOk (status : ℕ) : Bool := 200 ≤ status && status < 300

structure HttpError where
  status : ℕ
  message : String
  deriving DecidableEq

end QrlBackend
