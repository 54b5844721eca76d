/-
Reading expressions. The reader goes through the text once; groups that are open wait on a stack
with the flags that come back when they end.
-/
import AccessControl.Regex.Bracket

namespace AccessControl.Regex.Parser

open Text (CharSet)

/-- A part of an expression that has been read: how deeply it nests, and whether it may be
repeated. -/
structure Part where
  node : Node
  depth : Nat
  repeatable : Bool

/-- An alternative that is being read: its parts, the last first. -/
abbrev Branch := List Part

/-- The parts of an alternative as one part. -/
def Part.ofBranch (branch : Branch) : Part :=
  match branch with
  | [part] => part
  | [] => ⟨.empty, 0, false⟩
  | parts =>
    ⟨.sequence (parts.reverse.map Part.node), (parts.map Part.depth).foldl Nat.max 0 + 1, true⟩

/-- A group that is open: the alternatives before the one being read, the last first, and the one
being read. -/
structure Level where
  branches : List Part
  branch : Branch

/-- All alternatives of a group as one part. -/
def Level.close (level : Level) : Part :=
  let last := Part.ofBranch level.branch
  match level.branches with
  | [] => last
  | branches =>
    let parts := (last :: branches).reverse
    ⟨.anyOf (parts.map Part.node), (parts.map Part.depth).foldl Nat.max 0 + 1, true⟩

/-- What an open group comes back to when it ends: its surroundings and the flags there; and the
number of the group itself, if it has one. -/
structure Return where
  level : Level
  flags : Flags
  number : Option Nat

structure State where
  flags : Flags
  /-- The names of groups so far. -/
  names : List String
  /-- How many groups so far have numbers. -/
  numbered : Nat
  level : Level
  /-- The groups that are open, the innermost first. -/
  outer : List Return

def State.initial : State := ⟨.initial, [], 0, ⟨[], []⟩, []⟩

def State.push (s : State) (part : Part) : State :=
  { s with level := { s.level with branch := part :: s.level.branch } }

def State.pushNode (s : State) (node : Node) : State := s.push ⟨node, 0, true⟩

/-! ## Characters -/

/-- A character that stands for itself. -/
def character (flags : Flags) (c : Char) : Node := .one (flags.fold (.single c))

/-- Any character but those that end lines, or any at all. A set of bytes cannot hold them. -/
def dot? (flags : Flags) : Option Node :=
  if !flags.allScripts then none
  else if flags.dotAll then some (.one .full)
  else if flags.returns then some (.one (CharSet.ofChars ['\n', '\r']).complement)
  else some (.one (CharSet.single '\n').complement)

def lineStart (flags : Flags) : Look :=
  if flags.lines then (if flags.returns then .lineStartReturn else .lineStart) else .textStart

def lineEnd (flags : Flags) : Look :=
  if flags.lines then (if flags.returns then .lineEndReturn else .lineEnd) else .textEnd

def escape? (flags : Flags) : Escape → Option Node
  | .char c byte =>
    if byte && !flags.allScripts && 0x80 ≤ c.toNat then none else some (character flags c)
  | .set set => some (.one set)
  | .look look => some (.look look)

/-! ## Repetitions -/

/-- The last part of the alternative repeated. -/
def repeat? (s : State) (min : Nat) (max : Option Nat) : Option State :=
  match s.level.branch with
  | [] => none
  | part :: branch =>
    if part.repeatable then
      some { s with level := { s.level with
        branch := ⟨.repeated part.node min max, part.depth + 1, true⟩ :: branch } }
    else none

/-- The text without a question mark at its start, which only changes which match is found first. -/
def dropLazy : List Char → List Char
  | '?' :: rest => rest
  | cs => cs

/-- The digits at the start of a text; blanks between them count as nothing if the flags say so. -/
def takeDigits (flags : Flags) : Nat → List Char → List Char × List Char
  | 0, cs => ([], cs)
  | fuel + 1, cs =>
    match cs with
    | c :: rest =>
      if c.isDigit then
        let (ds, rest) := takeDigits flags fuel (flags.skip rest)
        (c :: ds, rest)
      else ([], cs)
    | [] => ([], [])

/-- A count with blanks around it, at most `2 ^ 32 - 1`. -/
def count? (flags : Flags) (cs : List Char) : Option (Nat × List Char) :=
  let cs := cs.dropWhile Text.isBlank
  let (ds, rest) := takeDigits flags cs.length cs
  let n := Json.Token.digitsValue ds
  if ds.isEmpty || n ≥ Nat.pow 2 32 then none
  else some (n, flags.skip (rest.dropWhile Text.isBlank))

/-- The upper bound after the lower one: the same, or after a comma another one or none. -/
def upper? (flags : Flags) (min : Nat) (cs : List Char) : Option (Option Nat × List Char) :=
  match cs with
  | ',' :: rest =>
    match flags.skip rest with
    | '\x7d' :: rest => some (none, '\x7d' :: rest)
    | rest => (count? flags rest).map fun r => (some r.1, r.2)
  | rest => some (some min, rest)

/-- The end of the bounds, if they are in order. -/
def closeBounds? (flags : Flags) (min : Nat) (max : Option Nat) (cs : List Char) :
    Option (Nat × Option Nat × List Char) :=
  match cs with
  | '\x7d' :: rest => if max.any (· < min) then none else some (min, max, flags.skip rest)
  | _ => none

/-- The bounds of a repetition after its opening brace. -/
def bounds? (flags : Flags) (cs : List Char) : Option (Nat × Option Nat × List Char) := do
  let (min, rest) ← count? flags (flags.skip cs)
  let (max, rest) ← upper? flags min rest
  closeBounds? flags min max rest

/-! ## Groups -/

/-- The name of a group up to its closing bracket: letters, digits, underscores, dots and square
brackets, of which only letters and underscores may come first. -/
def groupName? (cs : List Char) : Option (String × List Char) :=
  let name := cs.takeWhile (· != '>')
  match name, cs.drop name.length with
  | first :: more, '>' :: rest =>
    if (first == '_' || Classes.isLetter first) && more.all fun c =>
        c == '_' || c == '.' || c == '[' || c == ']' || Classes.isLetterOrNumber c then
      some (String.ofList name, rest)
    else none
  | _, _ => none

def openGroup (s : State) (flags : Flags) : State :=
  { s with flags := flags, level := ⟨[], []⟩, outer := ⟨s.level, s.flags, none⟩ :: s.outer }

/-- Opens a group with the next number. -/
def openNumbered (s : State) : State :=
  let number := s.numbered + 1
  { s with
    numbered := number, level := ⟨[], []⟩, outer := ⟨s.level, s.flags, some number⟩ :: s.outer }

def namedGroup? (s : State) (cs : List Char) : Option (State × List Char) := do
  let (name, rest) ← groupName? cs
  if s.names.contains name then none
  else return (openNumbered { s with names := name :: s.names }, rest)

/-- Reads what follows an opening bracket: a group, or flags for the rest of the group around.
Looking ahead and behind is not possible. -/
def group? (s : State) (cs : List Char) : Option (State × List Char) :=
  match s.flags.skip cs with
  | '?' :: 'P' :: '<' :: rest => namedGroup? s rest
  | '?' :: '<' :: '=' :: _ | '?' :: '<' :: '!' :: _ => none
  | '?' :: '<' :: rest => namedGroup? s rest
  | '?' :: rest => do
    let (any, flags, rest) ← s.flags.read? true [] rest
    match rest with
    | ')' :: rest =>
      if any then return ({ s with flags := flags }.push ⟨.empty, 0, false⟩, rest) else none
    | _ :: rest => return (openGroup s flags, rest)
    | [] => none
  | rest => some (openNumbered s, rest)

/-- Ends the innermost group. -/
def closeGroup? (s : State) : Option State :=
  match s.outer with
  | [] => none
  | ⟨level, flags, number⟩ :: outer =>
    let part := s.level.close
    some ({ s with flags, level, outer }.push ⟨.group number part.node, part.depth + 1, true⟩)

/-! ## Expressions -/

/-- Reads one part, or a sign that joins, ends or repeats parts. -/
def step? (s : State) (c : Char) (rest : List Char) : Option (State × List Char) :=
  match c with
  | '(' => group? s rest
  | ')' => (closeGroup? s).map (·, rest)
  | '|' =>
    some ({ s with level := ⟨Part.ofBranch s.level.branch :: s.level.branches, []⟩ }, rest)
  | '[' => do
    let (set, depth, rest) ← Bracket.read? s.flags rest
    return (s.push ⟨.one set, depth, true⟩, rest)
  | '?' => (repeat? s 0 (some 1)).map (·, dropLazy rest)
  | '*' => (repeat? s 0 none).map (·, dropLazy rest)
  | '+' => (repeat? s 1 none).map (·, dropLazy rest)
  | '\x7b' => do
    let (min, max, rest) ← bounds? s.flags rest
    return (← repeat? s min max, dropLazy rest)
  | '\\' => do
    let (escape, rest) ← Escape.read? s.flags rest
    return (s.pushNode (← escape? s.flags escape), rest)
  | '.' => (dot? s.flags).map fun node => (s.pushNode node, rest)
  | '^' => some (s.pushNode (.look (lineStart s.flags)), rest)
  | '$' => some (s.pushNode (.look (lineEnd s.flags)), rest)
  | c => some (s.pushNode (character s.flags c), rest)

/-- The whole expression, when no group is open. -/
def finish? (s : State) : Option Part := if s.outer.isEmpty then some s.level.close else none

/-- Reads to the end of the text. Every step takes at least one character. -/
def readFrom : Nat → State → List Char → Option Part
  | 0, _, _ => none
  | fuel + 1, s, cs =>
    match s.flags.skip cs with
    | [] => finish? s
    | c :: rest =>
      match step? s c rest with
      | some (s, rest) => readFrom fuel s rest
      | none => none

/-- How deeply the parts of an expression may nest. -/
def maxDepth : Nat := 250

/-- The expression that a text writes, if it is well formed and does not nest too deeply. -/
def read? (cs : List Char) : Option Node :=
  match readFrom (cs.length + 1) .initial cs with
  | some part => if part.depth ≤ maxDepth then some part.node else none
  | none => none

end AccessControl.Regex.Parser
