/-
Points that tell attributes and enforcers on other servers.
-/
import AccessControl.Enforcement
import AccessControl.Http

namespace AccessControl.Remote

open Http (Dialogue)

/-- Sends a request to a server, if its address can be used. -/
def send (place : String) (request : Option Http.Request) : Dialogue (Answer Http.Reply) :=
  let failure : Failure := .internal s!"{place}: {Failure.details}"
  match request with
  | none => .done (.error failure)
  | some request => do
    match ← Http.exchange request with
    | none => return .error failure
    | some reply => return .ok reply

/-- A point that asks a server for the attributes of a resource: an object in a reply of status
200. -/
def infoPoint (address : String) : InfoPoint Dialogue := fun name => do
  let place := s!"info point {address}"
  let request := (Http.Url.ofText? address).map fun url =>
    Http.Request.bare .get (url.withField "resource" name)
  match ← send place request with
  | .error failure => return .error failure
  | .ok reply =>
    if reply.status != 200 then
      return .error (.internal
        s!"unexpected status {Http.Status.render reply.status} from info point {address}")
    match Json.Decoder.decode (Json.Decoder.map Json.Decoder.json) reply.body with
    | .ok attributes => return .ok attributes
    | .error _ => return .error (.internal s!"{place}: {Failure.details}")

/-- The full request as a server is asked about it. -/
def question (subject action resource : String) (context : Attributes) : Json :=
  .object [("subject", .text subject), ("action", .text action), ("resource", .text resource),
    ("context", .object context)]

/-- An enforcer that leaves the decision to a server: a reply of success grants. -/
def enforcer (address : String) : Enforcer Dialogue := fun scope => do
  match Enforcement.required scope with
  | .error failure => return .error failure
  | .ok (subject, action, resource) =>
    let request := (Http.Url.ofText? address).map fun url =>
      { Http.Request.bare .post url with
        contentType := some "application/json"
        body := (question subject action resource scope.context).render }
    match ← send s!"remote enforcer {address}" request with
    | .error failure => return .error failure
    | .ok reply =>
      if Http.Status.isSuccess reply.status then return .ok ()
      else return .error (.permissionDenied
        s!"Remote enforcer responded {Http.Status.render reply.status}")

/-- The enforcer under a context. -/
def enforcerUnder (signals : Signals) (context : Context) (address : String) : Enforcer Dialogue :=
  fun scope => signals.under context (enforcer address scope)

/-- The point under a context. -/
def infoPointUnder (signals : Signals) (context : Context) (address : String) :
    InfoPoint Dialogue := fun name => signals.under context (infoPoint address name)

end AccessControl.Remote
