/-
Authentication of a request: from the header to the token, from the token to the name of the user.
-/
import AccessControl.Failure
import AccessControl.Text.Blank
import AccessControl.Urn

namespace AccessControl.Authentication

/-- What a header with a bearer token begins with. -/
def scheme : String := "Bearer "

/-- The token of an authorization header, without blanks at its ends. -/
def bearer (header : Option String) : Answer String := do
  let some header := header | .error (.unauthenticated "missing authorization header")
  let some rest := Text.after? scheme header
    | .error (.unauthenticated "authorization scheme must be Bearer")
  if Text.isBlankText rest then .error (.unauthenticated "empty bearer token")
  return Text.trim rest

/-- The user that the subject of a token names; a token that does not verify is told with its
issuer. -/
def named (issuer : String) (subject : Answer String) : Answer (Urn .user) :=
  match subject with
  | .ok subject => .ok (.ofLocal .user subject)
  | .error failure => .error (failure.within issuer)

/-- The user that a header authenticates, where `verify` tells the subject of a token. -/
def authenticate {m : Type → Type} [Monad m] (verify : String → m (Answer String)) (issuer : String)
    (header : Option String) : m (Answer (Urn .user)) :=
  match bearer header with
  | .error failure => return .error failure
  | .ok token => return named issuer (← verify token)

end AccessControl.Authentication
