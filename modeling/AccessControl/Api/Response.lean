/-
Responses of the interface: a status and, for some, a JSON body.
-/
import AccessControl.Failure
import AccessControl.Json

namespace AccessControl.Api

structure Response where
  status : Nat
  body : Option Json
deriving Repr

namespace Response

def withBody (status : Nat) (body : Json) : Response := ⟨status, some body⟩

def bare (status : Nat) : Response := ⟨status, none⟩

/-- The status of a failure and the word for its kind. -/
def statusOf : Failure → Nat × String
  | .invalidArgument _ => (400, "invalid_argument")
  | .notFound _ => (404, "not_found")
  | .conflict _ => (409, "conflict")
  | .unauthenticated _ => (401, "unauthenticated")
  | .permissionDenied _ => (403, "forbidden")
  | .notImplemented _ => (501, "not_implemented")
  | .cancelled => (408, "cancelled")
  | .internal _ => (500, "internal")

def ofFailure (failure : Failure) : Response :=
  withBody (statusOf failure).1
    (.object [("error", .text (statusOf failure).2), ("message", .text failure.message)])

end Response

end AccessControl.Api
