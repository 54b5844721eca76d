/-
Regular expressions that can be matched against texts.
-/
import AccessControl.Regex.Parser
import AccessControl.Regex.Reach
import AccessControl.Regex.Size

namespace AccessControl

/-- An expression with the text that writes it. -/
structure Regex where
  source : String
  node : Regex.Node
deriving DecidableEq, Repr

namespace Regex

/-- The expression that a text writes, unless the text is malformed or the expression too large. -/
def ofText? (source : String) : Option Regex :=
  match Parser.read? source.toList with
  | some node => if (Plan.ofNode node).fits then some ⟨source, node⟩ else none
  | none => none

/-- Whether the expression matches some part of the text. -/
def occursIn (r : Regex) (text : String) : Bool := r.node.occursIn text.toList

/-- The text as an expression that matches just it: characters with a meaning are escaped. -/
def escape (s : String) : String :=
  String.ofList (s.toList.flatMap fun c => if Escape.special.contains c then ['\\', c] else [c])

end Regex

end AccessControl
