/-
Points that tell attributes of a subject or a resource, and routes to them.
-/
import AccessControl.Failure
import AccessControl.Regex
import AccessControl.Json
import AccessControl.Text.Quoted

namespace AccessControl

/-- Tells attributes of the entity with the given name. -/
def InfoPoint (m : Type → Type) := String → m (Answer Attributes)

namespace InfoPoint

/-- A test of names. -/
inductive Matcher
  | beginning (start : String)
  | expression (expression : Regex)
  | test (test : String → Bool)

namespace Matcher

def accepts (matcher : Matcher) (name : String) : Bool :=
  match matcher with
  | beginning start => Text.beginsWith name start
  | expression r => r.occursIn name
  | test t => t name

/-- How a listing shows the test. -/
def render : Matcher → String
  | beginning start => s!"Prefix({Text.quoted start})"
  | expression r => s!"Regex({Text.quoted r.source})"
  | test _ => "Fn(..)"

end Matcher

variable {m : Type → Type} [Monad m]

/-- A point that asks the first point whose test accepts the name. A name that no test accepts has
no attributes. -/
def route (routes : List (Matcher × InfoPoint m)) : InfoPoint m := fun name =>
  match routes.find? fun r => r.1.accepts name with
  | some r => r.2 name
  | none => return .ok []

end InfoPoint

end AccessControl
