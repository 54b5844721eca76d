/-
Gates: one caller at a time holds a gate, and those that wait get it in the order in which they
entered. A caller whose cancellation comes before its turn leaves without having held the gate.
-/
namespace AccessControl

/-- Where a caller of a gate stands. -/
inductive Turn
  | waiting
  | holding
  | released
  | cancelled
deriving DecidableEq, Repr

/-- A caller, and what it has been told: to give up, or to release the gate once it has it. -/
structure Caller where
  name : String
  turn : Turn
  givesUp : Bool
  releases : Bool
deriving DecidableEq, Repr

/-- The callers of a gate in the order in which they entered. -/
abbrev Gate := List Caller

namespace Gate

def enter (gate : Gate) (name : String) (cancelled : Bool) : Gate :=
  gate ++ [⟨name, .waiting, cancelled, false⟩]

/-- Tells a caller to give up. -/
def cancel (gate : Gate) (name : String) : Gate :=
  gate.map fun c => if c.name = name then { c with givesUp := true } else c

/-- Tells a caller to release the gate. -/
def release (gate : Gate) (name : String) : Gate :=
  gate.map fun c => if c.name = name then { c with releases := true } else c

/-- What a caller does when the gate is free or not: its turn then. -/
def Caller.turnWhen (c : Caller) (free : Bool) : Turn :=
  match c.turn with
  | .holding => if c.releases then .released else .holding
  | .waiting =>
    if c.givesUp then .cancelled
    else if free then (if c.releases then .released else .holding)
    else .waiting
  | turn => turn

/-- Lets the callers act, the first to enter first, where `free` tells whether none before holds. -/
def settleFrom (free : Bool) : Gate → Gate
  | [] => []
  | c :: rest =>
    let turn := Caller.turnWhen c free
    { c with turn := turn } :: settleFrom (free && turn != .holding) rest

/-- Lets all callers act until none of them can. -/
def settle (gate : Gate) : Gate := gate.settleFrom true

def holders (gate : Gate) : List String :=
  (gate.filter fun c => c.turn == .holding).map Caller.name

end Gate

end AccessControl
