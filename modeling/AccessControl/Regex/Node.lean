/-
Regular expressions as trees. An expression relates positions of a text: those where a match may
start and those where it then ends.
-/
import AccessControl.Text.CharSet

namespace AccessControl.Regex

open Text (CharSet)

/-- What is asked of the characters on the two sides of a position. -/
inductive Edge
  /-- A character of a word on exactly one side. -/
  | boundary
  | noBoundary
  /-- A word starts: none before and one after. -/
  | starts
  | ends
  /-- None before. -/
  | startsHalf
  /-- None after. -/
  | endsHalf
deriving DecidableEq, Repr

/-- Conditions on a position that match no character. -/
inductive Look
  | textStart
  | textEnd
  | lineStart
  | lineEnd
  /-- Starts and ends of lines where a carriage return and a line feed together end a line. -/
  | lineStartReturn
  | lineEndReturn
  | word (edge : Edge) (words : CharSet)
deriving DecidableEq, Repr

/-- An expression. -/
inductive Node
  | empty
  /-- One character of the set. -/
  | one (set : CharSet)
  | look (look : Look)
  /-- A group, with its number if what it matches is kept. -/
  | group (number : Option Nat) (body : Node)
  | seq (first second : Node)
  | either (first second : Node)
  /-- The body at least `min` times and at most `max` times, or any number of times more. -/
  | repeated (body : Node) (min : Nat) (max : Option Nat)
deriving DecidableEq, Repr

def Edge.holds (edge : Edge) (before after : Bool) : Bool :=
  match edge with
  | boundary => before != after
  | noBoundary => before == after
  | starts => !before && after
  | ends => before && !after
  | startsHalf => !before
  | endsHalf => !after

/-- Whether a position between two characters, or at an end of the text, is as asked. -/
def Look.holds (look : Look) (before after : Option Char) : Bool :=
  match look with
  | textStart => before.isNone
  | textEnd => after.isNone
  | lineStart => before.isNone || before == some '\n'
  | lineEnd => after.isNone || after == some '\n'
  | lineStartReturn =>
    before.isNone || before == some '\n' || (before == some '\r' && after != some '\n')
  | lineEndReturn =>
    after.isNone || after == some '\r' || (after == some '\n' && before != some '\r')
  | word edge words => edge.holds (before.any words.has) (after.any words.has)

namespace Node

/-- The parts one after the other. -/
def sequence : List Node → Node
  | [] => empty
  | [node] => node
  | node :: rest => seq node (sequence rest)

/-- Any of the branches. -/
def anyOf : List Node → Node
  | [] => empty
  | [node] => node
  | node :: rest => either node (anyOf rest)

end Node

end AccessControl.Regex
