/-
The states of a choice among literals, which share the bytes that they begin with.
-/
import AccessControl.Regex.Tally

namespace AccessControl.Regex.Tally

/-- The groups of words at a state. A word that ends there closes a group, so that words after it
share nothing with those before it; words that end before any that goes on close only one. -/
def groups (words : List (List Nat)) : List (List (List Nat)) :=
  let rest := words.dropWhile List.isEmpty
  if rest.length < words.length then [] :: rest.splitOn [] else rest.splitOn []

/-- The words of a group without the byte that they begin with. -/
def after (byte : Nat) (group : List (List Nat)) : List (List Nat) :=
  (group.filter fun word => word.head? == some byte).map List.tail

/-- The bytes that words of a group begin with. -/
def heads (group : List (List Nat)) : List Nat := (group.filterMap List.head?).eraseDups

/-- With the states for words of which so many bytes at most are left. A state where all words end
is not counted. Every other one branches to its groups and, between them, to the end; a group has a
state with an edge for each byte. -/
def withBytes : Nat → List (List Nat) → Tally → Tally
  | 0, _, t => t
  | bytes + 1, words, t =>
    if words.all List.isEmpty then t
    else
      let found := groups words
      let full := found.filter (!·.isEmpty)
      let t := t.branching (full.length + (found.length - 1))
      full.foldl (fun t group =>
        let starts := heads group
        let t := if starts.length = 1 then t.plain 1 else t.ranging starts.length
        starts.foldl (fun t byte => withBytes bytes (after byte group) t) t) t

/-- With the states for a choice among words: first the state at their end. -/
def withWords (words : List (List Nat)) (t : Tally) : Tally :=
  withBytes (words.foldl (fun n word => Nat.max n word.length) 0) words (t.plain 1)

end AccessControl.Regex.Tally
