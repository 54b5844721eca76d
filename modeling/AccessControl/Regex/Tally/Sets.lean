/-
The states of sets of characters. Characters are read byte by byte, so that a set is an automaton of
its own. States that are alike are shared if they are still remembered: the memory has a fixed
number of places, and a state that comes to a place drives out the one that was there.
-/
import AccessControl.Regex.Tally
import AccessControl.Text.Utf8
import Std.Data.HashMap

namespace AccessControl.Regex.Tally

open Text (CharSet)
open Text.Utf8 (ByteRanges)

/-! ## The memory -/

/-- The states that are remembered, by their places, with their numbers. -/
abbrev Memory (α : Type) := Std.HashMap Nat (α × Nat)

/-- A hash of numbers: each changes the low bits of the hash, which is then multiplied by a prime.
-/
def hash (ns : List Nat) : UInt64 :=
  ns.foldl (fun h n => (h ^^^ n.toUInt64) * 1099511628211) 14695981039346656037

variable {α : Type} [BEq α]

/-- The number of a state: that of a state like it which is remembered, or else a new one, which is
then remembered. -/
def number (place : Nat) (state : α) (count : Tally → Tally) (m : Memory α) (t : Tally) :
    Nat × Memory α × Tally :=
  match m[place]? with
  | some (known, n) =>
    if known == state then (n, m, t) else (t.states, m.insert place (state, t.states), count t)
  | none => (t.states, m.insert place (state, t.states), count t)

/-! ## Forwards -/

/-- An edge on the bytes of a range to the state of a number. -/
abbrev Edge := Nat × Nat × Nat

/-- How many places there are for states on the way forwards. -/
def forwardPlaces : Nat := 10000

/-- The state from which sequences with so many bytes at most lead to `target`. Sequences next to
each other that begin with the same bytes share the edge for them; the states behind the edges come
first. -/
def entry (target : Nat) : Nat → List ByteRanges → Memory (List Edge) → Tally →
    Nat × Memory (List Edge) × Tally
  | 0, _, m, t => (target, m, t)
  | bytes + 1, seqs, m, t =>
    let step (acc : List Edge × Memory (List Edge) × Tally) (group : List ByteRanges) :
        List Edge × Memory (List Edge) × Tally :=
      let (edges, m, t) := acc
      match group with
      | [range] :: _ => (edges ++ [(range.1, range.2, target)], m, t)
      | (range :: _) :: _ =>
        let (n, m, t) := entry target bytes (group.map List.tail) m t
        (edges ++ [(range.1, range.2, n)], m, t)
      | _ => (edges, m, t)
    let (edges, m, t) := (seqs.splitBy fun a b => a.head? == b.head?).foldl step ([], m, t)
    let place := (hash (edges.flatMap fun e => [e.1, e.2.1, e.2.2])).toNat % forwardPlaces
    number place edges (ranging edges.length) m t

/-! ## Backwards -/

/-- How many places there are for states on the way backwards. -/
def backwardPlaces : Nat := 1000

/-- The state from which the bytes of a sequence lead, the last first, to `target`. -/
def chain (target : Nat) (m : Memory (Nat × Nat × Nat)) (t : Tally) :
    ByteRanges → Nat × Memory (Nat × Nat × Nat) × Tally
  | [] => (target, m, t)
  | (lo, hi) :: rest =>
    let place := (hash [target, lo, hi]).toNat % backwardPlaces
    let (n, m, t) := number place (target, lo, hi) (plain 1) m t
    chain n m t rest

/-! ## Both -/

/-- The two ways to read a text. -/
inductive Direction
  | forwards
  | backwards
deriving DecidableEq, Repr

/-- With the states of a set. Characters of one byte need only one state with edges and one after
it. Otherwise, forwards the state after the character is the first; backwards a state branches to
all sequences. -/
def withSet (d : Direction) (s : CharSet) (t : Tally) : Tally :=
  if s.ranges.all (·.2 < 0x80) then (t.plain 1).ranging s.ranges.length
  else
    let seqs := s.ranges.flatMap Text.Utf8.sequences
    match d with
    | .forwards => (entry t.states 4 seqs {} (t.plain 1)).2.2
    | .backwards =>
      let start := (t.branching seqs.length).plain 1
      (seqs.foldl (fun acc seq => (chain (t.states + 1) acc.1 acc.2 seq).2) ({}, start)).2

end AccessControl.Regex.Tally
