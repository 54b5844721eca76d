/-
The formats of the log.
-/
import AccessControl.Text.Quoted
import AccessControl.Text.Segment

namespace AccessControl.Settings

inductive LogFormat
  | json
  | pretty
deriving DecidableEq, Repr

namespace LogFormat

def word : LogFormat → String
  | json => "json"
  | pretty => "pretty"

/-- The format that a word means, in small or large letters, or what is wrong with the word. -/
def ofText (s : String) : Except String LogFormat :=
  match Text.lower s with
  | "json" => .ok json
  | "pretty" | "text" => .ok pretty
  | other => .error s!"unknown log format {Text.quoted other} (expected json or pretty)"

end LogFormat

end AccessControl.Settings
