/-
When a condition holds of an attribute.
-/
import AccessControl.Condition
import AccessControl.Failure
import AccessControl.Regex
import AccessControl.Text.Quoted

namespace AccessControl.Condition

/-- The expression of a text that has to match as a whole. -/
def wholeMatch? (matching : String) : Option Regex := Regex.ofText? s!"^(?:{matching})$"

def malformed (matching : String) : Failure :=
  .invalidArgument s!"condition pattern {Text.quoted matching}: {Failure.details}"

/-- Whether the condition holds of an attribute that is there. -/
def evaluateOn (c : Condition) (value : Json) (subject : String) : Answer Bool :=
  match c with
  | textEqual equals => .ok (value.asText? == some equals)
  | textMatch matching =>
    match wholeMatch? matching with
    | some r => .ok (value.asText?.any r.occursIn)
    | none => .error (malformed matching)
  | equalsSubject => .ok (value.asText? == some subject)
  | boolean expected => .ok (value.asBool? == some expected)
  | numeric comparison limit =>
    .ok (value.asNumber?.any fun n => comparison.holds n.toDouble limit)
  | contains item => .ok (value.asArray?.any fun items => items.any (·.same item))

/-- Whether the condition holds; it never holds of an attribute that is not there. -/
def evaluate (c : Condition) (value : Option Json) (subject : String) : Answer Bool :=
  match value with
  | none => .ok false
  | some value => c.evaluateOn value subject

end AccessControl.Condition
