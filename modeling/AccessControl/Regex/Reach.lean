/-
Finding matches. A set of positions of a text is a number: position `i` is in it when bit `i` is
set. From the positions where matches may start follow those where they may end, for all starts at
once; so the time grows with the lengths of the expression and the text and not with the number of
ways to match.
-/
import AccessControl.Regex.Node

namespace AccessControl.Regex

open Text (CharSet)

/-- Sets of positions. -/
abbrev Positions := Nat

/-- The positions whose flag is set, the first flag for position `0`. -/
def Positions.ofFlags (flags : List Bool) : Positions :=
  flags.foldr (fun flag rest => 2 * rest + flag.toNat) 0

/-- The positions before characters of the set. -/
def Positions.before (text : List Char) (set : CharSet) : Positions :=
  Positions.ofFlags (text.map set.has)

/-- What is asked of each position of a text, given the character before it. -/
def lookFlags (look : Look) : Option Char → List Char → List Bool
  | before, [] => [look.holds before none]
  | before, c :: rest => look.holds before (some c) :: lookFlags look (some c) rest

/-- An expression together with the positions of one text where its parts match. -/
inductive Placed
  | empty
  /-- A character at one of these positions. -/
  | one (here : Positions)
  | look (here : Positions)
  | seq (first second : Placed)
  | either (first second : Placed)
  | repeated (body : Placed) (min : Nat) (max : Option Nat)

def Node.place (text : List Char) : Node → Placed
  | .empty => .empty
  | .one set => .one (Positions.before text set)
  | .look l => .look (Positions.ofFlags (lookFlags l none text))
  | .group _ body => body.place text
  | .seq a b => .seq (a.place text) (b.place text)
  | .either a b => .either (a.place text) (b.place text)
  | .repeated body min max => .repeated (body.place text) min max

/-- `step` done `n` times; it may stop early at positions that lead to themselves. -/
def times (step : Positions → Positions) : Nat → Positions → Positions
  | 0, starts => starts
  | n + 1, starts => if step starts = starts then starts else times step n (step starts)

/-- The positions reached by `step` done at most `n` times. -/
def upTo (step : Positions → Positions) : Nat → Positions → Positions
  | 0, starts => starts
  | n + 1, starts =>
    let next := starts ||| step starts
    if next = starts then starts else upTo step n next

/-- The positions where matches end that start at one of the given positions of a text with
`length` characters. A repetition without an upper bound gains nothing after as many rounds as there
are positions. -/
def Placed.reach (length : Nat) : Placed → Positions → Positions
  | .empty, starts => starts
  | .one here, starts => (starts &&& here) <<< 1
  | .look here, starts => starts &&& here
  | .seq a b, starts => b.reach length (a.reach length starts)
  | .either a b, starts => a.reach length starts ||| b.reach length starts
  | .repeated body min max, starts =>
    upTo (body.reach length)
      (match max with | some max => max - min | none => length + 1)
      (times (body.reach length) min starts)

/-- Whether the expression matches some part of the text. -/
def Node.occursIn (node : Node) (text : List Char) : Bool :=
  (node.place text).reach text.length (Nat.pow 2 (text.length + 1) - 1) != 0

end AccessControl.Regex
