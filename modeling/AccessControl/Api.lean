/-
The interface: it answers requests. Who asks is found out first, then what is asked for, then
whether it is granted; only what is granted is done.
-/
import AccessControl.Api.Operation
import AccessControl.Authentication
import AccessControl.Service.Authority

namespace AccessControl

/-- How the interface is set up: where tokens come from, and whether grants are looked at. -/
structure Api where
  issuer : String
  authorizes : Bool
deriving DecidableEq, Repr

namespace Api

/-- The issuer of tokens where accounts are kept by the system itself. -/
def localIssuer : String := "iam-local"

def enforcer (api : Api) : Enforcer Program :=
  if api.authorizes then Authority.enforcer else Authority.permissive

/-- Whether a subject is granted what an operation needs. -/
def authorize (api : Api) (subject : Urn .user) (operation : Operation) : Program (Answer Unit) :=
  match operation.permission with
  | none => return .ok ()
  | some (action, resource) => api.enforcer ⟨some subject.text, some action, some resource, []⟩

/-- Does what a subject asks for if it is granted. -/
def serve (api : Api) (subject : Urn .user) (operation : Operation) : Program Response := do
  match ← api.authorize subject operation with
  | .error failure => return .ofFailure failure
  | .ok () =>
    match ← (operation.perform subject).run with
    | .ok response => return response
    | .error failure => return .ofFailure failure

/-- The user that a header authenticates. -/
def authenticate (api : Api) (header : Option String) : Program (Answer (Urn .user)) :=
  Authentication.authenticate (fun token => (Service.accounts (.subject token)).run) api.issuer
    header

/-- Answers whoever asks whether the interface is there. -/
def health (method : Method) : Response :=
  match method with
  | .get => .bare 200
  | .head => .bare 200
  | _ => .bare 405

/-- Whether a request asks for something without its body. -/
def isHead (request : Request) : Bool :=
  request.method == .head &&
    (match Operation.ofRequest request with
      | .error .unknownPath => false
      | .error .unknownMethod => false
      | _ => true)

/-- The answer to a request of a known user. -/
def answerTo (api : Api) (subject : Urn .user) (request : Request) : Program Response :=
  match Operation.ofRequest request with
  | .error fault => return .bare fault.status
  | .ok operation => api.serve subject operation

/-- Answers a request. -/
def answer (api : Api) (request : Request) : Program Response :=
  if request.path = ["health"] then return health request.method
  else do
    let response ← match ← api.authenticate request.authorization with
      | .error failure => pure (.ofFailure failure)
      | .ok subject => api.answerTo subject request
    return if isHead request then { response with body := none } else response

end Api

end AccessControl
