/-
Expressions in the form from which automata are built: characters in a row are one literal, parts
in a row stand in one list, and branches that begin alike share their beginning.
-/
import AccessControl.Regex.Node
import AccessControl.Text.Utf8

namespace AccessControl.Regex

open Text (CharSet)

inductive Plan
  | empty
  /-- Characters one after the other, at least one. -/
  | literal (chars : List Char)
  /-- One character of a set; no character or more than one is in it. -/
  | set (set : CharSet)
  | look (look : Look)
  | group (number : Nat) (body : Plan)
  | repeated (body : Plan) (min : Nat) (max : Option Nat)
  /-- Two parts or more, none of them empty or again a sequence, and no literal after a literal. -/
  | sequence (parts : List Plan)
  /-- Two branches or more, none of them again a choice. -/
  | anyOf (branches : List Plan)
deriving Repr

namespace Plan

/-! ## Equality -/

mutual

def same : Plan → Plan → Bool
  | empty, empty => true
  | literal a, literal b => a == b
  | set a, set b => a == b
  | look a, look b => a == b
  | group m a, group n b => m == n && same a b
  | repeated a min max, repeated b min' max' => min == min' && max == max' && same a b
  | sequence as, sequence bs => sameAll as bs
  | anyOf as, anyOf bs => sameAll as bs
  | _, _ => false

def sameAll : List Plan → List Plan → Bool
  | [], [] => true
  | a :: as, b :: bs => same a b && sameAll as bs
  | _, _ => false

end

/-! ## Lengths -/

/-- How many bytes a character takes. -/
def width (n : Nat) : Nat :=
  if n < 0x80 then 1 else if n < 0x800 then 2 else if n < 0x10000 then 3 else 4

/-- How many bytes the characters take. -/
def widths (cs : List Char) : Nat := cs.foldl (fun n c => n + width c.toNat) 0

mutual

/-- Whether all matches are empty. -/
def isEmptyOnly : Plan → Bool
  | empty => true
  | literal _ => false
  | set _ => false
  | look _ => true
  | group _ body => isEmptyOnly body
  | repeated body _ _ => isEmptyOnly body
  | sequence parts => areEmptyOnly parts
  | anyOf branches => areEmptyOnly branches

def areEmptyOnly : List Plan → Bool
  | [] => true
  | p :: rest => isEmptyOnly p && areEmptyOnly rest

end

mutual

/-- The least number of bytes of a match, unless some part never matches. -/
def leastLength : Plan → Option Nat
  | empty => some 0
  | literal cs => some (widths cs)
  | set s => s.ranges.head?.map fun r => width r.1
  | look _ => some 0
  | group _ body => leastLength body
  | repeated body min _ => (leastLength body).map (· * min)
  | sequence parts => (leastLengths parts).map fun ns => ns.foldl (· + ·) 0
  | anyOf branches => (leastLengths branches).map fun ns => ns.foldl Nat.min (ns.headD 0)

def leastLengths : List Plan → Option (List Nat)
  | [] => some []
  | p :: rest =>
    match leastLength p, leastLengths rest with
    | some n, some ns => some (n :: ns)
    | _, _ => none

end

/-- Whether every match takes a character, as far as the least lengths show it. -/
def takesText (p : Plan) : Bool := p.leastLength.any (0 < ·)

/-! ## Building plans -/

/-- A set, or the literal of its only character. -/
def ofSet (s : CharSet) : Plan :=
  match s.ranges with
  | [(lo, hi)] => if lo = hi then literal [Char.ofNat lo] else set s
  | _ => set s

/-- A repetition. What matches only the empty text matches no more when it is repeated. -/
def repetition (body : Plan) (min : Nat) (max : Option Nat) : Plan :=
  let (min, max) :=
    if body.isEmptyOnly then (Nat.min min 1, some (match max with
      | some max => Nat.min max 1
      | none => 1))
    else (min, max)
  if min = 0 ∧ max = some 0 then empty
  else if min = 1 ∧ max = some 1 then body
  else repeated body min max

/-- The parts that a plan brings into a sequence. -/
def parts : Plan → List Plan
  | empty => []
  | sequence ps => ps
  | p => [p]

/-- A part before others; literals that meet become one. -/
def before (p : Plan) (rest : List Plan) : List Plan :=
  match p, rest with
  | literal a, literal b :: rest => literal (a ++ b) :: rest
  | p, rest => p :: rest

/-- The parts as one plan. -/
def ofParts : List Plan → Plan
  | [] => empty
  | [p] => p
  | ps => sequence ps

/-- Plans one after the other. -/
def inSequence (ps : List Plan) : Plan :=
  ofParts ((ps.flatMap parts).foldr before [])

/-- The branches that a plan brings into a choice. -/
def branches : Plan → List Plan
  | anyOf ps => ps
  | p => [p]

def character? : Plan → Option Char
  | literal [c] => some c
  | _ => none

def set? : Plan → Option CharSet
  | set s => some s
  | _ => none

def sequence? : Plan → Option (List Plan)
  | sequence ps => some ps
  | _ => none

/-- Branches that are all characters or all sets as one set. -/
def oneSet? (ps : List Plan) : Option CharSet :=
  match ps.mapM character? with
  | some cs => some (CharSet.ofChars cs)
  | none => (ps.mapM set?).map fun sets => CharSet.ofRanges (sets.flatMap CharSet.ranges)

/-- A choice of branches that share no beginning. -/
def choice (ps : List Plan) : Plan :=
  match ps.flatMap branches with
  | [] => set .empty
  | [p] => p
  | ps =>
    match oneSet? ps with
    | some s => ofSet s
    | none => anyOf ps

/-- The parts that both sequences begin with. -/
def sharedStart : List Plan → List Plan → List Plan
  | p :: ps, q :: qs => if same p q then p :: sharedStart ps qs else []
  | _, _ => []

/-- The parts with which all branches begin that are sequences; none if one is not. -/
def sharedParts (ps : List Plan) : List Plan :=
  match ps.mapM sequence? with
  | some (first :: rest) => rest.foldl sharedStart first
  | _ => []

/-- Any of the plans. A beginning that all branches share comes before the choice. -/
def alternatives (ps : List Plan) : Plan :=
  match choice ps with
  | anyOf ps =>
    let shared := sharedParts ps
    if shared.isEmpty then anyOf ps
    else inSequence (shared ++ [choice (ps.map fun p => ofParts (p.parts.drop shared.length))])
  | p => p

/-- The plans of the branches of an expression. -/
def ofBranches : Node → List Plan
  | .empty => [empty]
  | .one s => [ofSet s]
  | .look l => [look l]
  | .group number body =>
    let p := alternatives (ofBranches body)
    [match number with
      | some n => group n p
      | none => p]
  | .repeated body min max => [repetition (alternatives (ofBranches body)) min max]
  | .seq a b =>
    [ofParts ((alternatives (ofBranches a)).parts.foldr before (alternatives (ofBranches b)).parts)]
  | .either a b => alternatives (ofBranches a) :: ofBranches b

/-- The plan of an expression. -/
def ofNode (node : Node) : Plan := alternatives (ofBranches node)

/-! ## Ends of texts -/

mutual

/-- Whether a match can only be at the start of a text. -/
def asksStart : Plan → Bool
  | look l => l == .textStart
  | group _ body => asksStart body
  | repeated body min _ => 0 < min && asksStart body
  | sequence parts => someAsksStart parts
  | anyOf branches => allAskStart branches
  | _ => false

/-- One of the parts asks for the start, and those before it match only the empty text. -/
def someAsksStart : List Plan → Bool
  | [] => false
  | p :: rest => asksStart p || (isEmptyOnly p && someAsksStart rest)

def allAskStart : List Plan → Bool
  | [] => true
  | p :: rest => asksStart p && allAskStart rest

end

mutual

/-- Whether a match can only be at the end of a text. -/
def asksEnd : Plan → Bool
  | look l => l == .textEnd
  | group _ body => asksEnd body
  | repeated body min _ => 0 < min && asksEnd body
  | sequence parts => someAsksEnd parts
  | anyOf branches => allAskEnd branches
  | _ => false

/-- One of the parts asks for the end, and those after it match only the empty text. -/
def someAsksEnd : List Plan → Bool
  | [] => false
  | p :: rest => (areEmptyOnly rest && asksEnd p) || someAsksEnd rest

def allAskEnd : List Plan → Bool
  | [] => true
  | p :: rest => asksEnd p && allAskEnd rest

end

end Plan

end AccessControl.Regex
