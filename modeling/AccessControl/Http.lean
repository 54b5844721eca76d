/-
Exchanges with servers on the web. A dialogue says which requests a client sends and what it does
with the replies; what a server replies may depend on all that it has been sent. Redirections are
followed, ten of them at most.
-/
import AccessControl.Http.Status
import AccessControl.Http.Url
import AccessControl.Text.Base64

namespace AccessControl.Http

inductive Method
  | get
  | post
  | patch
  | delete
deriving DecidableEq, Repr

def Method.word : Method → String
  | get => "GET"
  | post => "POST"
  | patch => "PATCH"
  | delete => "DELETE"

structure Request where
  method : Method
  url : Url
  authorization : Option String
  contentType : Option String
  body : String
deriving DecidableEq, Repr

namespace Request

/-- What a client shows that has a name and a password. -/
def basic (name password : String) : String :=
  let shown := Text.Base64.encode (Text.Percent.bytes s!"{name}:{password}")
  s!"Basic {shown}"

/-- A request without a body, with the credentials of its address. -/
def bare (method : Method) (url : Url) : Request :=
  ⟨method, { url with credentials := none }, url.credentials.map fun c => basic c.1 c.2, none, ""⟩

end Request

structure Reply where
  status : Nat
  /-- Where it sends the client. -/
  location : Option String
  body : String
deriving DecidableEq, Repr

/-! ## Dialogues -/

/-- A tree of requests with a value at each end; a request whose exchange breaks off has no reply.
-/
inductive Dialogue (α : Type)
  | done (value : α)
  | send (request : Request) (next : Option Reply → Dialogue α)

namespace Dialogue

variable {α β : Type}

def bind : Dialogue α → (α → Dialogue β) → Dialogue β
  | done value, f => f value
  | send request next, f => send request fun reply => (next reply).bind f

instance : Monad Dialogue where
  pure := done
  bind := bind

end Dialogue

/-- What the servers reply to the last of the requests that they have been sent. -/
def Servers := List Request → Option Reply

/-- Servers that cannot be reached. -/
def Servers.unreachable : Servers := fun _ => none

namespace Dialogue

variable {α : Type}

/-- Holds a dialogue with servers that have been sent some requests before. -/
def run (servers : Servers) : Dialogue α → List Request → α × List Request
  | done value, sent => (value, sent)
  | send request next, sent =>
    (next (servers (sent ++ [request]))).run servers (sent ++ [request])

end Dialogue

/-! ## Redirections -/

/-- The request that a reply asks for instead. One that moved is asked for without a body, unless
the reply says that the request is to stay as it is; credentials go to no other server. -/
def redirected? (request : Request) (reply : Reply) : Option Request := do
  let keeps := reply.status == 307 || reply.status == 308
  let moved := [301, 302, 303].contains reply.status
  if !keeps && !moved then none
  let url ← request.url.join? (← reply.location)
  let authorization := if url.sameServer request.url then request.authorization else none
  let url := { url with credentials := none }
  return if keeps then { request with url, authorization }
    else ⟨.get, url, authorization, none, ""⟩

/-- Sends a request and follows so many redirections at most; one more ends the exchange. -/
def follow : Nat → Request → Dialogue (Option Reply)
  | 0, request => .send request fun reply =>
    .done (reply.filter fun reply => (redirected? request reply).isNone)
  | hops + 1, request => .send request fun
    | none => .done none
    | some reply =>
      match redirected? request reply with
      | none => .done (some reply)
      | some next => follow hops next

/-- The reply to a request after all redirections. -/
def exchange (request : Request) : Dialogue (Option Reply) := follow 10 request

end AccessControl.Http
