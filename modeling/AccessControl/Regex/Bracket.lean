/-
Sets of characters in square brackets: ranges, escapes, named sets, sets inside sets, and the
operations `&&`, `--` and `~~`, which are read from left to right.
-/
import AccessControl.Regex.Escape

namespace AccessControl.Regex.Bracket

open Text (CharSet)

/-- A set that is being read: the characters of its parts, how many parts it has and how deeply they
nest. -/
structure Parts where
  set : CharSet
  count : Nat
  depth : Nat

namespace Parts

def none : Parts := ⟨.empty, 0, 0⟩

def add (parts : Parts) (set : CharSet) (depth : Nat) : Parts :=
  ⟨parts.set.union set, parts.count + 1, Nat.max parts.depth depth⟩

/-- How deeply the parts nest together: a part alone adds nothing. -/
def nesting (parts : Parts) : Nat := if parts.count ≤ 1 then parts.depth else parts.depth + 1

end Parts

inductive Operation
  | intersection
  | difference
  | symmetricDifference

def Operation.apply : Operation → CharSet → CharSet → CharSet
  | intersection => CharSet.inter
  | difference => CharSet.diff
  | symmetricDifference => CharSet.symmDiff

/-- A bracket that is open: what was read of the set around it, whether the set is negated, and the
operation that waits for its right side. -/
structure Level where
  around : Parts
  negated : Bool
  pending : Option (Operation × CharSet × Nat)

/-! ## Ranges -/

/-- One character or escape of a set. -/
def item? (flags : Flags) : List Char → Option (Escape × List Char)
  | [] => none
  | '\\' :: rest => Escape.read? flags rest
  | c :: rest => some (.char c false, rest)

/-- The code point of an end of a range. When sets hold bytes it is one of ASCII. -/
def point? (flags : Flags) : Escape → Option Nat
  | .char c _ => if flags.allScripts || c.toNat < 0x80 then some c.toNat else none
  | _ => none

/-- The set of a part that is no range. -/
def single? (flags : Flags) : Escape → Option CharSet
  | .set s => some s
  | e => (point? flags e).map fun n => .range n n

/-- The next character that counts after a hyphen: of a comment, the one after its mark. -/
def peek? (flags : Flags) (rest : List Char) : Option Char :=
  if flags.spaced then
    match rest.dropWhile Text.isBlank with
    | '#' :: more => (more.dropWhile Text.isBlank).head?
    | more => more.head?
  else rest.head?

/-- A part of a set: an escape, a character, or a range from one character to another. -/
def range? (flags : Flags) (cs : List Char) : Option (CharSet × List Char) := do
  let (low, rest) ← item? flags cs
  match flags.skip rest with
  | [] => none
  | '-' :: more =>
    if peek? flags more == some ']' || peek? flags more == some '-' then
      return (← single? flags low, '-' :: more)
    else
      let (high, rest) ← item? flags (flags.skip more)
      let (low, high) := (← point? flags low, ← point? flags high)
      if low ≤ high then return (.range low high, rest) else none
  | rest => return (← single? flags low, rest)

/-! ## Named sets -/

/-- The name of a set up to the colon and the bracket after it. -/
def name? (negated : Bool) (cs : List Char) : Option (Bool × CharSet × List Char) :=
  let name := cs.takeWhile (· != ':')
  match cs.drop name.length with
  | ':' :: ']' :: rest => (Classes.latin? (String.ofList name)).map fun s => (negated, s, rest)
  | _ => none

/-- A named set such as `[:alpha:]` or `[:^alpha:]`, without its first bracket. -/
def named? (cs : List Char) : Option (Bool × CharSet × List Char) :=
  match cs with
  | ':' :: '^' :: rest => name? true rest
  | ':' :: rest => name? false rest
  | _ => none

/-! ## Brackets -/

/-- Hyphens at the start of a set stand for themselves. -/
def hyphens (flags : Flags) : Nat → Parts → List Char → Parts × List Char
  | 0, parts, cs => (parts, cs)
  | fuel + 1, parts, cs =>
    match cs with
    | '-' :: rest => hyphens flags fuel (parts.add (.single '-') 0) (flags.skip rest)
    | cs => (parts, cs)

/-- Whether a set is negated, and the text after the caret that negates it. -/
def caret (flags : Flags) (cs : List Char) : Bool × List Char :=
  match flags.skip cs with
  | '^' :: rest => (true, flags.skip rest)
  | cs => (false, cs)

/-- A closing bracket at the start of a set stands for itself if nothing is before it. -/
def first? (flags : Flags) (negated : Bool) (parts : Parts) (cs : List Char) :
    Option (Bool × Parts × List Char) :=
  match cs with
  | [] => none
  | ']' :: rest =>
    if parts.count = 0 then
      match flags.skip rest with
      | [] => none
      | rest => some (negated, parts.add (.single ']') 0, rest)
    else some (negated, parts, cs)
  | cs => some (negated, parts, cs)

/-- What stands at the start of a set after its bracket: whether it is negated, hyphens, and a
closing bracket that stands for itself. -/
def start? (flags : Flags) (cs : List Char) : Option (Bool × Parts × List Char) :=
  let (negated, cs) := caret flags cs
  let (parts, cs) := hyphens flags cs.length .none cs
  first? flags negated parts cs

/-- The operation that waits, done with what was read after it. -/
def settle (flags : Flags) (level : Level) (parts : Parts) : CharSet × Nat :=
  match level.pending with
  | none => (parts.set, parts.nesting)
  | some (operation, left, depth) =>
    (operation.apply (flags.fold left) (flags.fold parts.set), Nat.max depth parts.nesting + 1)

/-- What a closing bracket or an operation leads to. -/
inductive Step
  | go (level : Level) (outer : List Level) (parts : Parts) (rest : List Char)
  | done (set : CharSet) (depth : Nat) (rest : List Char)

/-- Closes the innermost bracket. -/
def close? (flags : Flags) (level : Level) (outer : List Level) (parts : Parts) (rest : List Char) :
    Option Step := do
  let (set, depth) := settle flags level parts
  let set ← flags.negate? level.negated (flags.fold set)
  match outer with
  | [] => return .done set (depth + 1) rest
  | next :: outer => return .go next outer (level.around.add set (depth + 1)) rest

def operate (flags : Flags) (operation : Operation) (level : Level) (outer : List Level)
    (parts : Parts) (rest : List Char) : Step :=
  let (set, depth) := settle flags level parts
  .go { level with pending := some (operation, set, depth) } outer .none rest

/-- Reads one part inside a bracket. -/
def step? (flags : Flags) (level : Level) (outer : List Level) (parts : Parts) (cs : List Char) :
    Option Step :=
  match cs with
  | [] => none
  | '[' :: rest =>
    match named? rest with
    | some (negated, set, rest) => do
      return .go level outer (parts.add (← flags.negate? negated (flags.fold set)) 0) rest
    | none => do
      let (negated, inner, rest) ← start? flags rest
      return .go ⟨parts, negated, none⟩ (level :: outer) inner rest
  | ']' :: rest => close? flags level outer parts rest
  | '&' :: '&' :: rest => some (operate flags .intersection level outer parts rest)
  | '-' :: '-' :: rest => some (operate flags .difference level outer parts rest)
  | '~' :: '~' :: rest => some (operate flags .symmetricDifference level outer parts rest)
  | cs => do
    let (set, rest) ← range? flags cs
    return .go level outer (parts.add set 0) rest

def readFrom (flags : Flags) :
    Nat → Level → List Level → Parts → List Char → Option (CharSet × Nat × List Char)
  | 0, _, _, _, _ => none
  | fuel + 1, level, outer, parts, cs =>
    match step? flags level outer parts (flags.skip cs) with
    | none => none
    | some (.done set depth rest) => some (set, depth, rest)
    | some (.go level outer parts rest) => readFrom flags fuel level outer parts rest

/-- Reads a set after its opening bracket: the set, how deeply it nests, and the text after it. -/
def read? (flags : Flags) (cs : List Char) : Option (CharSet × Nat × List Char) := do
  let (negated, parts, rest) ← start? flags cs
  readFrom flags (cs.length + 1) ⟨.none, negated, none⟩ [] parts rest

end AccessControl.Regex.Bracket
