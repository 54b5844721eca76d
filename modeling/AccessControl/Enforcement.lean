/-
Enforcement of decisions. Whatever goes wrong on the way to a decision is a refusal.
-/
import AccessControl.Cancellation
import AccessControl.Decision
import AccessControl.InfoPoint

namespace AccessControl

/-- What a request says about itself; what is missing is a refusal and never a default. -/
structure Scope where
  subject : Option String
  action : Option String
  resource : Option String
  context : Attributes
deriving Repr

/-- Grants or refuses a request. -/
def Enforcer (m : Type → Type) := Scope → m (Answer Unit)

namespace Enforcement

/-- A field that is there and not empty. -/
def present (field : Option String) : Option String := field.filter (!·.isEmpty)

/-- The fields that a request needs, or which of them is missing: the action is asked for first,
then the subject and the resource. -/
def required (scope : Scope) : Answer (String × String × String) := do
  let some action := present scope.action | .error (.permissionDenied "No action defined")
  let some subject := present scope.subject | .error (.permissionDenied "No subject defined")
  let some resource := present scope.resource | .error (.permissionDenied "No resource defined")
  return (subject, action, resource)

def duplicate (origin key : String) : Failure :=
  .invalidArgument s!"{origin} context duplicates context key {Text.quoted key}"

/-- Adds attributes in the order of their keys, up to the first key that is there already. Gives
what the attributes have become in any case, and that key. -/
def merge (into : Attributes) : Attributes → Attributes × Option String
  | [] => (into, none)
  | (key, value) :: rest =>
    if Assoc.has into key then (into, some key) else merge (Assoc.put key value into) rest

/-- Adds the attributes that one point tells; none of them may be there already. -/
def addContext (origin : String) (into extra : Attributes) : Answer Attributes :=
  match merge into extra with
  | (all, none) => .ok all
  | (_, some key) => .error (duplicate origin key)

/-- A failure as a refusal. -/
def closed (failure : Failure) : Failure :=
  if failure.isDenial then failure else .permissionDenied "Request could not be evaluated"

def ofDecision : Answer Decision → Answer Unit
  | .ok .allow => .ok ()
  | .ok (.deny reason) => .error (.permissionDenied reason)
  | .error failure => .error (closed failure)

variable {m : Type → Type} [Monad m]

/-- Grants everything. -/
def noop : Enforcer m := fun _ => return .ok ()

/-- The attributes with what a point tells about an entity, if there is a point. -/
def informed (point : Option (InfoPoint m)) (origin name : String) (context : Attributes) :
    m (Answer Attributes) :=
  match point with
  | none => return .ok context
  | some point => return (← point name).bind (addContext origin context)

/-- The full request, with the attributes of the subject and then of the resource. -/
def gather (subjectInfo resourceInfo : Option (InfoPoint m)) (scope : Scope) :
    m (Answer AccessRequest) := do
  match required scope with
  | .error failure => return .error failure
  | .ok (subject, action, resource) =>
    match ← informed subjectInfo "subject" subject scope.context with
    | .error failure => return .error failure
    | .ok context =>
      match ← informed resourceInfo "resource" resource context with
      | .error failure => return .error failure
      | .ok context => return .ok ⟨subject, action, resource, context⟩

/-- Decides by the policies that a source has at that moment, which are asked for under a context. -/
def bySource (signals : Signals) (context : Context) (source : m (Answer (List Policy)))
    (evaluate : List Policy → AccessRequest → m (Answer Decision)) (request : AccessRequest) :
    m (Answer Decision) := do
  match ← signals.under context source with
  | .error failure => return .error failure
  | .ok policies => evaluate policies request

/-- Enforces what `decide` decides on the full request. -/
def byDecision (decide : AccessRequest → m (Answer Decision))
    (subjectInfo resourceInfo : Option (InfoPoint m)) : Enforcer m := fun scope => do
  match ← gather subjectInfo resourceInfo scope with
  | .error failure => return ofDecision (.error failure)
  | .ok request => return ofDecision (← decide request)

/-- Refuses incomplete requests and turns all failures of an enforcer into refusals. -/
def point (inner : Enforcer m) : Enforcer m := fun scope => do
  match required scope with
  | .error failure => return .error failure
  | .ok _ => return (← inner scope).mapError closed

end Enforcement

end AccessControl
