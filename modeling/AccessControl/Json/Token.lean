/-
The tokens of a JSON text. Scanning never fails: where a text has no token the scan ends with one
that says so. Strings and numbers that are well formed but stand for nothing (halves of surrogate
pairs, bytes of no character, numbers too large) are tokens without a value, because a reader may
skip them.
-/
import AccessControl.Json
import AccessControl.Text.Utf8

namespace AccessControl.Json

/-- A text as it comes from bytes: nothing stands for a byte that belongs to no character. -/
abbrev Source := List (Option Char)

inductive Token
  | openArray
  | closeArray
  | openObject
  | closeObject
  | comma
  | colon
  | null
  | bool (b : Bool)
  | number (n : Option Number)
  | text (s : Option String)
  /-- No token starts here; nothing after it is read. -/
  | broken
deriving DecidableEq, Repr

namespace Token

def isBlank (c : Char) : Bool := c == ' ' || c == '\t' || c == '\n' || c == '\r'

/-! ## Strings -/

/-- A part of a string: a character that stands for itself, an escaped unit of 16 bits, or a byte
that belongs to no character. -/
inductive Piece
  | char (c : Char)
  | unit (n : Nat)
  | noise

def hexDigit? (c : Char) : Option Nat :=
  if '0' ≤ c ∧ c ≤ '9' then some (c.toNat - 48)
  else if 'a' ≤ c ∧ c ≤ 'f' then some (c.toNat - 87)
  else if 'A' ≤ c ∧ c ≤ 'F' then some (c.toNat - 55)
  else none

/-- The number that four hexadecimal digits write. -/
def hexUnit? (a b c d : Char) : Option Nat := do
  return (((← hexDigit? a) * 16 + (← hexDigit? b)) * 16 + (← hexDigit? c)) * 16 + (← hexDigit? d)

def escaped? : Char → Option Char
  | '"' => some '"'
  | '\\' => some '\\'
  | '/' => some '/'
  | 'b' => some '\x08'
  | 'f' => some '\x0c'
  | 'n' => some '\n'
  | 'r' => some '\r'
  | 't' => some '\t'
  | _ => none

/-- The parts of a string up to its closing quote, and how many characters they and the quote take.
-/
def pieces? : Source → Option (List Piece × Nat)
  | [] => none
  | some '"' :: _ => some ([], 1)
  | some '\\' :: some 'u' :: some a :: some b :: some c :: some d :: rest => do
    let n ← hexUnit? a b c d
    let (ps, used) ← pieces? rest
    return (.unit n :: ps, used + 6)
  | some '\\' :: some e :: rest => do
    let c ← escaped? e
    let (ps, used) ← pieces? rest
    return (.char c :: ps, used + 2)
  | some c :: rest =>
    if c.toNat < 0x20 || c == '\\' then none
    else do
      let (ps, used) ← pieces? rest
      return (.char c :: ps, used + 1)
  | none :: rest => do
    let (ps, used) ← pieces? rest
    return (.noise :: ps, used + 1)

/-- The characters of the parts. Two units make one character when they are a surrogate pair; a half
of a pair alone is no character. -/
def join? : List Piece → Option (List Char)
  | [] => some []
  | .char c :: rest => (join? rest).map (c :: ·)
  | [.unit n] => if 0xD800 ≤ n ∧ n < 0xE000 then none else some [Char.ofNat n]
  | .unit n :: .unit m :: rest =>
    if 0xD800 ≤ n ∧ n < 0xDC00 then
      if 0xDC00 ≤ m ∧ m < 0xE000 then
        (join? rest).map (Char.ofNat (0x10000 + (n - 0xD800) * 0x400 + (m - 0xDC00)) :: ·)
      else none
    else if 0xDC00 ≤ n ∧ n < 0xE000 then none
    else (join? (.unit m :: rest)).map (Char.ofNat n :: ·)
  | .unit n :: .char c :: rest =>
    if 0xD800 ≤ n ∧ n < 0xE000 then none
    else (join? rest).map fun cs => Char.ofNat n :: c :: cs
  | .unit _ :: .noise :: _ => none
  | .noise :: _ => none

/-! ## Numbers -/

def isDigit (c : Char) : Bool := '0' ≤ c && c ≤ '9'

def digitsValue (cs : List Char) : Nat := cs.foldl (fun n c => n * 10 + (c.toNat - 48)) 0

/-- The parts of a number as written. -/
structure Numeral where
  negative : Bool
  digits : List Char
  /-- The digits after the point, if there is one. -/
  fraction : Option (List Char)
  /-- The sign and the digits of the exponent, if there is one. -/
  power : Option (Bool × List Char)

/-- The number that digits go on to write from `n` on as long as it fits in 64 bits, and the digits
from the first that does not fit. -/
def absorb (n : Nat) : List Char → Nat × List Char
  | [] => (n, [])
  | c :: rest =>
    let more := n * 10 + (c.toNat - 48)
    if more < Nat.pow 2 64 then absorb more rest else (n, c :: rest)

/-- The value of a number that is not whole. The digits count as far as they fit in 64 bits: of
those before the point that do not, only how many there are, and of those after it nothing. -/
def Numeral.real? (n : Numeral) : Option Double :=
  let (digits, dropped) := absorb 0 n.digits
  let fraction := n.fraction.getD []
  let (digits, ignored) := absorb digits fraction
  let power : Int := match n.power with
    | none => 0
    | some (negative, ds) => if negative then -(digitsValue ds : Int) else digitsValue ds
  Double.ofScaled? n.negative digits (power + dropped.length - (fraction.length - ignored.length))

/-- The value: whole when it is written without point and exponent and lies in the range; `-0` and
everything else is a binary fraction, if it is not too large for one. -/
def Numeral.value (n : Numeral) : Option Number :=
  let whole : Int := if n.negative then -(digitsValue n.digits : Int) else digitsValue n.digits
  if n.fraction.isNone && n.power.isNone && Number.isWhole whole &&
      !(n.negative && whole == 0) then some (.whole whole)
  else n.real?.map .real

/-- The digits at the start of a text. -/
def leadingDigits : Source → List Char
  | some c :: rest => if isDigit c then c :: leadingDigits rest else []
  | _ => []

/-- The digits before the point: a zero stands alone. -/
def wholePart? (cs : Source) : Option (List Char × Source) :=
  match leadingDigits cs with
  | [] => none
  | '0' :: _ :: _ => none
  | ds => some (ds, cs.drop ds.length)

/-- The digits after a point, at least one. -/
def fractionPart? : Source → Option (Option (List Char) × Source)
  | some '.' :: cs =>
    let ds := leadingDigits cs
    if ds.isEmpty then none else some (some ds, cs.drop ds.length)
  | cs => some (none, cs)

/-- A sign before the digits of an exponent: whether it is a minus, and how long it is. -/
def powerSign : Source → Bool × Nat
  | some '-' :: _ => (true, 1)
  | some '+' :: _ => (false, 1)
  | _ => (false, 0)

/-- The exponent, with at least one digit, and how long it is. -/
def powerPart? : Source → Option (Option (Bool × List Char) × Nat)
  | some c :: cs =>
    if c == 'e' || c == 'E' then
      let (negative, sign) := powerSign cs
      let ds := leadingDigits (cs.drop sign)
      if ds.isEmpty then none else some (some (negative, ds), 1 + sign + ds.length)
    else some (none, 0)
  | _ => some (none, 0)

/-- The number at the start of the text, and how long it is. -/
def numeral? (cs : Source) : Option (Numeral × Nat) := do
  let negative := cs.head? == some (some '-')
  let (digits, cs) ← wholePart? (if negative then cs.tail else cs)
  let (fraction, cs) ← fractionPart? cs
  let (power, powerLength) ← powerPart? cs
  let fractionLength := match fraction with
    | some ds => 1 + ds.length
    | none => 0
  return (⟨negative, digits, fraction, power⟩,
    negative.toNat + digits.length + fractionLength + powerLength)

/-! ## Scanning -/

/-- Whether the text goes on with these characters. -/
def continues (word : String) (cs : Source) : Bool := (word.toList.map some).isPrefixOf cs

/-- The token that starts with `c`, and how many of the characters after `c` belong to it. -/
def startingWith (c : Char) (rest : Source) : Token × Nat :=
  match c with
  | '[' => (openArray, 0)
  | ']' => (closeArray, 0)
  | '\x7b' => (openObject, 0)
  | '\x7d' => (closeObject, 0)
  | ',' => (comma, 0)
  | ':' => (colon, 0)
  | 'n' => if continues "ull" rest then (null, 3) else (broken, 0)
  | 't' => if continues "rue" rest then (bool true, 3) else (broken, 0)
  | 'f' => if continues "alse" rest then (bool false, 4) else (broken, 0)
  | '"' =>
    match pieces? rest with
    | some (ps, used) => (text ((join? ps).map String.ofList), used)
    | none => (broken, 0)
  | c =>
    match numeral? (some c :: rest) with
    | some (n, length) => (number n.value, length - 1)
    | none => (broken, 0)

/-- The tokens of a text of which `skip` more characters belong to the token before. -/
def scanFrom : Nat → Source → List Token
  | _, [] => []
  | skip + 1, _ :: rest => scanFrom skip rest
  | 0, none :: _ => [broken]
  | 0, some c :: rest =>
    if isBlank c then scanFrom 0 rest
    else match startingWith c rest with
      | (broken, _) => [broken]
      | (token, used) => token :: scanFrom used rest

def scan (source : Source) : List Token := scanFrom 0 source

end Token

end AccessControl.Json
