/-
Matching of templates with a cache: an expression that has been made from a template is kept for the
next time.
-/
import AccessControl.Template

namespace AccessControl

/-- The expressions made so far, by template. -/
abbrev Matcher := Assoc Regex

namespace Matcher

/-- A computation that reads and fills the cache, also when it fails. -/
abbrev Cached := ExceptT Failure (StateM Matcher)

def fail {α : Type} (failure : Failure) : Cached α := throw failure

/-- The expression of a template, from the cache or made and kept. -/
def expression (template : String) : Cached Regex := do
  match (← get).get? template with
  | some r => return r
  | none =>
    match Template.compile template with
    | .ok r =>
      modify fun cache => cache.put template r
      return r
    | .error fault => fail fault.failure

/-- Whether the template matches the value. -/
def matching (template value : String) : Cached Bool := do
  if Template.isLiteral template then return template == value
  else return (← expression template).occursIn value

/-- Whether one of the templates matches the value; those after the first that does are not looked
at. -/
def matchingAny (templates : List String) (value : String) : Cached Bool :=
  match templates with
  | [] => return false
  | template :: rest => do
    if ← matching template value then return true
    else matchingAny rest value

/-- Runs a computation on a cache. -/
def run {α : Type} (computation : Cached α) (cache : Matcher) : Answer α × Matcher :=
  (ExceptT.run computation).run cache

end Matcher

end AccessControl
