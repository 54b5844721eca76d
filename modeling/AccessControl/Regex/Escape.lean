/-
What stands after a backslash.
-/
import AccessControl.Json.Token
import AccessControl.Regex.Flags
import AccessControl.Regex.Node
import AccessControl.Text.Segment

namespace AccessControl.Regex

open Text (CharSet)

/-- What an escape stands for. -/
inductive Escape
  /-- A character; two hexadecimal digits without braces may also mean a byte. -/
  | char (c : Char) (byte : Bool)
  | set (set : CharSet)
  | look (look : Look)

namespace Flags

/-- The set with both cases of its letters, if the flags ask for them. -/
def fold (flags : Flags) (set : CharSet) : CharSet :=
  if !flags.anyCase then set
  else if flags.allScripts then Text.Fold.close set
  else Text.Fold.closeLatin set

/-- All but the characters of the set, if it is negated. A set of bytes must not come to hold parts
of longer characters. -/
def negate? (flags : Flags) (negated : Bool) (set : CharSet) : Option CharSet :=
  let set := if negated then set.complement else set
  if flags.allScripts || set.ranges.all (·.2 < 0x80) then some set else none

end Flags

namespace Escape

/-- The characters that mean something outside sets or may come to. -/
def special : List Char := "\\.+*?()|[]\x7b\x7d^$#&-~".toList

/-- Characters that stand for themselves after a backslash: those of one byte that are no letters
and no digits, but for the angle brackets. -/
def standsForItself (c : Char) : Bool :=
  c.toNat < 0x80 && !c.isAlphanum && c != '<' && c != '>'

def control? : Char → Option Char
  | 'a' => some '\x07'
  | 'f' => some '\x0c'
  | 't' => some '\t'
  | 'n' => some '\n'
  | 'r' => some '\r'
  | 'v' => some '\x0b'
  | _ => none

/-! ## Numbers of characters -/

/-- The value of exactly so many hexadecimal digits. -/
def hexDigits? (flags : Flags) : Nat → Nat → List Char → Option (Nat × List Char)
  | 0, value, cs => some (value, cs)
  | _ + 1, _, [] => none
  | n + 1, value, c :: rest =>
    match Json.Token.hexDigit? c with
    | some d => hexDigits? flags n (value * 16 + d) (flags.skip rest)
    | none => none

/-- The characters up to a closing brace, and the text after it. -/
def inBraces? (flags : Flags) : Nat → List Char → Option (List Char × List Char)
  | 0, _ => none
  | fuel + 1, cs =>
    match flags.skip cs with
    | [] => none
    | '\x7d' :: rest => some ([], rest)
    | c :: rest => (inBraces? flags fuel rest).map fun r => (c :: r.1, r.2)

/-- The character of a number in hexadecimal digits: `digits` of them, or any in braces. -/
def hex? (flags : Flags) (digits : Nat) (cs : List Char) : Option (Escape × List Char) :=
  match flags.skip cs with
  | '\x7b' :: rest => do
    let (name, rest) ← inBraces? flags (rest.length + 1) rest
    let ds ← name.mapM Json.Token.hexDigit?
    if ds.isEmpty then none
    let c ← Text.Utf8.char? (ds.foldl (fun n d => n * 16 + d) 0)
    return (char c false, flags.skip rest)
  | cs => do
    let (n, rest) ← hexDigits? flags digits 0 cs
    return (char (← Text.Utf8.char? n) (digits == 2), rest)

/-! ## Properties -/

/-- The set of a name in braces: a name alone, or a property and its value with `!=`, `:` or `=`
between them. The three mean the same; only the letter before the braces negates. -/
def named? (name : String) : Option CharSet :=
  match ["!=", ":", "="].findSome? (Text.cutAt? · name) with
  | some (property, value) => Classes.valued? property value
  | none => Classes.property? name

/-- The set of a property, by a letter or by a name in braces. -/
def property? (flags : Flags) (negated : Bool) (cs : List Char) : Option (Escape × List Char) := do
  let (name, rest) ← match flags.skip cs with
    | '\x7b' :: rest => inBraces? flags (rest.length + 1) rest
    | '\\' :: _ => none
    | c :: rest => some ([c], flags.skip rest)
    | [] => none
  let found ← named? (String.ofList name)
  if flags.allScripts then return (set (← flags.negate? negated (flags.fold found)), rest)
  else none

/-! ## Edges of words -/

def edge (flags : Flags) (e : Edge) : Escape :=
  look (.word e (if flags.allScripts then Classes.words else Classes.latin "word"))

/-- The words in braces for the edges of words. -/
def edgeWords : List (String × Edge) :=
  [("start", .starts), ("end", .ends), ("start-half", .startsHalf), ("end-half", .endsHalf)]

/-- After `b`: a word in braces, or the plain boundary. What cannot start such a word is left to be
read as something else. -/
def boundary? (flags : Flags) (cs : List Char) : Option (Escape × List Char) :=
  match cs with
  | '\x7b' :: rest =>
    match flags.skip rest with
    | [] => none
    | c :: more =>
      if c.isAlpha || c == '-' then do
        let (name, rest) ← inBraces? flags (more.length + 2) (c :: more)
        let found ← edgeWords.find? fun e => e.1 == String.ofList name
        return (edge flags found.2, rest)
      else some (edge flags .boundary, cs)
  | cs => some (edge flags .boundary, cs)

/-! ## All escapes -/

/-- Reads what stands after a backslash. -/
def read? (flags : Flags) : List Char → Option (Escape × List Char)
  | [] => none
  | c :: rest =>
    match c with
    | 'x' => hex? flags 2 rest
    | 'u' => hex? flags 4 rest
    | 'U' => hex? flags 8 rest
    | 'p' => property? flags false rest
    | 'P' => property? flags true rest
    | 'A' => some (look .textStart, rest)
    | 'z' => some (look .textEnd, rest)
    | 'b' => boundary? flags rest
    | 'B' => some (edge flags .noBoundary, rest)
    | '<' => some (edge flags .starts, rest)
    | '>' => some (edge flags .ends, rest)
    | c =>
      match Classes.ofLetter? flags.allScripts c.toLower with
      | some all => do return (set (← flags.negate? c.isUpper all), rest)
      | none =>
        match control? c with
        | some d => some (char d false, rest)
        | none => if standsForItself c then some (char c false, rest) else none

end Escape

end AccessControl.Regex
