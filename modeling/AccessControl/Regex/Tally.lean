/-
Counting the states of automata. A state has a number, which is how many states were counted before
it, and takes room; its edges may take more.
-/
namespace AccessControl.Regex

/-- The states so far, and the room for their edges. -/
structure Tally where
  states : Nat
  extra : Nat
deriving DecidableEq, Repr

namespace Tally

/-- The room for a state, in bytes. -/
def stateSize : Nat := 32

/-- The room for an edge to one of several branches. -/
def branchSize : Nat := 4

/-- The room for an edge on bytes of a range, where a state has several. -/
def edgeSize : Nat := 8

/-- The room that an automaton may take: ten mebibytes. -/
def maxSize : Nat := 10 * Nat.pow 2 20

def size (t : Tally) : Nat := stateSize * t.states + t.extra

/-- More room than there is; what is counted after that does not matter. -/
def isFull (t : Tally) : Bool := maxSize < t.size

/-- With more states, which have no edges that take room. -/
def plain (n : Nat) (t : Tally) : Tally := { t with states := t.states + n }

/-- With a state that has so many branches. -/
def branching (n : Nat) (t : Tally) : Tally := ⟨t.states + 1, t.extra + branchSize * n⟩

/-- With a state that has edges on so many ranges of bytes. -/
def ranging (n : Nat) (t : Tally) : Tally := ⟨t.states + 1, t.extra + edgeSize * n⟩

/-- With `grow` done so many times, as long as there is room. -/
def times (grow : Tally → Tally) : Nat → Tally → Tally
  | 0, t => t
  | n + 1, t => if t.isFull then t else times grow n (grow t)

end Tally

end AccessControl.Regex
