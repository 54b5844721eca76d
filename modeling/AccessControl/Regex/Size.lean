/-
How much room an expression takes when it is prepared for matching. Two automata are built of it,
one for each direction of reading; repetitions are written out, so large counts take much room.
-/
import AccessControl.Regex.Plan
import AccessControl.Regex.Tally.Sets
import AccessControl.Regex.Tally.Words

namespace AccessControl.Regex

namespace Plan

/-- The bytes of a literal that is read in a direction. -/
def bytes (d : Tally.Direction) (cs : List Char) : List Nat :=
  let bs := cs.flatMap Text.Utf8.bytes
  match d with
  | .forwards => bs
  | .backwards => bs.reverse

/-- The bytes of branches that are all literals. -/
def words? (d : Tally.Direction) (ps : List Plan) : Option (List (List Nat)) :=
  ps.mapM fun p =>
    match p with
    | literal cs => some (bytes d cs)
    | _ => none

/-- With a repetition of what `body` counts. -/
def withRepeated (body : Tally → Tally) (takesText : Bool) (min : Nat) (max : Option Nat)
    (t : Tally) : Tally :=
  let exactly (t : Tally) : Tally := if min = 0 then t.plain 1 else t.times body min
  match max with
  | none =>
    if min = 0 then
      if takesText then body (t.branching 2) else (((body t).branching 2).branching 2).plain 1
    else (exactly t).branching 2
  | some max =>
    if min = 0 ∧ max = 1 then (body (t.branching 2)).plain 1
    else if min = max then exactly t
    else ((exactly t).plain 1).times (fun t => body (t.branching 2)) (max - min)

mutual

/-- With the states of a plan. -/
def count (d : Tally.Direction) : Plan → Tally → Tally
  | empty, t => t.plain 1
  | literal cs, t => t.plain (widths cs)
  | set s, t => t.withSet d s
  | look _, t => t.plain 1
  | group _ body, t =>
    match d with
    | .forwards => (count d body (t.plain 1)).plain 1
    | .backwards => count d body t
  | repeated body min max, t => withRepeated (count d body) body.takesText min max t
  | sequence parts, t =>
    match d with
    | .forwards => countAll d parts t
    | .backwards => countBack d parts t
  | anyOf branches, t =>
    match words? d branches with
    | some words => t.withWords words
    | none => countBranches d branches.length 0 branches t

def countAll (d : Tally.Direction) : List Plan → Tally → Tally
  | [], t => t
  | p :: rest, t => if t.isFull then t else countAll d rest (count d p t)

/-- With the states of the parts, the last first. -/
def countBack (d : Tally.Direction) : List Plan → Tally → Tally
  | [], t => t
  | p :: rest, t =>
    let t := countBack d rest t
    if t.isFull then t else count d p t

/-- With the states of `all` branches, of which `done` have been counted. The state that branches
and the one at the end come after the second. -/
def countBranches (d : Tally.Direction) (all done : Nat) : List Plan → Tally → Tally
  | [], t => t
  | p :: rest, t =>
    if t.isFull then t
    else
      let t := count d p t
      countBranches d all (done + 1) rest (if done = 1 then (t.branching all).plain 1 else t)

end

/-- The states of an automaton. One that may match anywhere first passes over bytes; forwards, the
start and the end of the whole match are kept; the last state is that of a match. -/
def tally (d : Tally.Direction) (p : Plan) : Tally :=
  let anchored := match d with
    | .forwards => p.asksStart
    | .backwards => p.asksEnd
  let none : Tally := ⟨0, 0⟩
  let start := if anchored then none.plain 1 else ((none.branching 2).plain 1).ranging 1
  match d with
  | .forwards => (count d p (start.plain 1)).plain 2
  | .backwards => (count d p start).plain 1

/-- Whether there is room for both automata. -/
def fits (p : Plan) : Bool := !(p.tally .forwards).isFull && !(p.tally .backwards).isFull

end Plan

end AccessControl.Regex
