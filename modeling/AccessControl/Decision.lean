/-
Decisions on requests. A policy applies when its templates match the action, the subject and the
resource and its conditions hold. One that denies wins over all that allow, and a request to which
no policy applies is denied.
-/
import AccessControl.Condition.Evaluate
import AccessControl.Matcher
import AccessControl.Policy

namespace AccessControl

/-- A request with all that is known about it. -/
structure AccessRequest where
  subject : String
  action : String
  resource : String
  context : Attributes
deriving Repr

inductive Decision
  | allow
  | deny (reason : String)
deriving DecidableEq, Repr

namespace Decision

open Matcher (Cached)

/-- Whether all conditions hold; those after the first that does not are not looked at. -/
def conditionsHold (conditions : Assoc Condition) (request : AccessRequest) : Answer Bool :=
  match conditions with
  | [] => .ok true
  | (key, condition) :: rest => do
    if ← condition.evaluate (Assoc.get? request.context key) request.subject then
      conditionsHold rest request
    else return false

/-- Whether a policy applies to a request: its actions are looked at first, then its subjects, its
resources and its conditions. -/
def applies (policy : Policy) (request : AccessRequest) : Cached Bool := do
  if !(← Matcher.matchingAny policy.actions request.action) then return false
  if !(← Matcher.matchingAny policy.subjects request.subject) then return false
  if !(← Matcher.matchingAny policy.resources request.resource) then return false
  match conditionsHold policy.conditions request with
  | .ok holds => return holds
  | .error failure => Matcher.fail failure

def deniedBy (policy : Policy) : Decision := deny s!"Request was denied by policy {policy.id.text}"

def deniedByDefault : Decision := deny "Request was denied by default"

/-- The decision of the policies from one on, where `allowed` tells whether one before allows. -/
def evaluateFrom (allowed : Bool) (request : AccessRequest) : List Policy → Cached Decision
  | [] => return if allowed then allow else deniedByDefault
  | policy :: rest => do
    if ← applies policy request then
      match policy.effect with
      | .deny => return deniedBy policy
      | .allow => evaluateFrom true request rest
    else evaluateFrom allowed request rest

/-- The decision of a list of policies. -/
def evaluate (policies : List Policy) (request : AccessRequest) : Cached Decision :=
  evaluateFrom false request policies

end Decision

end AccessControl
