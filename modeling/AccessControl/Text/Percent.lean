/-
Percent escapes: a percent sign and two hexadecimal digits stand for a byte. Forms write a plus for
a space as well.
-/
import AccessControl.Json.Token
import AccessControl.Text.Segment

namespace AccessControl.Text.Percent

/-- The bytes of a text in UTF-8. -/
def bytes (s : String) : List UInt8 := s.toUTF8.toList

/-- The text of bytes, if they are UTF-8. -/
def text? (bs : List UInt8) : Option String := String.fromUTF8? ⟨bs.toArray⟩

def hexByte? (a b : UInt8) : Option UInt8 := do
  let high ← Json.Token.hexDigit? (Char.ofNat a.toNat)
  let low ← Json.Token.hexDigit? (Char.ofNat b.toNat)
  return (16 * high + low).toUInt8

/-- Replaces the escapes by their bytes; a percent sign that begins none stays. -/
def decodeBytes : List UInt8 → List UInt8
  | [] => []
  | [a] => [a]
  | [a, b] => [a, b]
  | a :: b :: c :: rest =>
    match (if a == 0x25 then hexByte? b c else none) with
    | some byte => byte :: decodeBytes rest
    | none => a :: decodeBytes (b :: c :: rest)

/-- The text that a text with escapes stands for, if it is one. -/
def decode? (s : String) : Option String := text? (decodeBytes (bytes s))

/-- How many of the bytes after the first byte of a character belong to the same character or to the
longest beginning of one, and how many there would have to be: the bounds are those that shut out
overlong forms, surrogates and what is too large. -/
def continuation (first : UInt8) (rest : List UInt8) : Nat × Nat :=
  let within (low high : Nat) (b : UInt8) : Bool := low ≤ b.toNat && b.toNat ≤ high
  let f := first.toNat
  let (needed, low, high) :=
    if 0xC2 ≤ f && f ≤ 0xDF then (1, 0x80, 0xBF)
    else if f == 0xE0 then (2, 0xA0, 0xBF)
    else if f == 0xED then (2, 0x80, 0x9F)
    else if 0xE1 ≤ f && f ≤ 0xEF then (2, 0x80, 0xBF)
    else if f == 0xF0 then (3, 0x90, 0xBF)
    else if 0xF1 ≤ f && f ≤ 0xF3 then (3, 0x80, 0xBF)
    else if f == 0xF4 then (3, 0x80, 0x8F)
    else (0, 0x80, 0xBF)
  match rest.take needed with
  | [] => (0, needed)
  | b :: others =>
    if within low high b then (1 + (others.takeWhile (within 0x80 0xBF)).length, needed)
    else (0, needed)

/-- The characters of bytes, with a replacement character for each part that is none. -/
def lossy (bs : List UInt8) : List Char :=
  match bs with
  | [] => []
  | b :: rest =>
    let (found, needed) := continuation b rest
    let first := if b.toNat < 0x80 || (found == needed && needed != 0) then
        ((text? (b :: rest.take found)).map String.toList).getD [Char.ofNat 0xFFFD]
      else [Char.ofNat 0xFFFD]
    first ++ lossy (rest.drop found)
termination_by bs.length
decreasing_by simp only [List.length_drop, List.length_cons]; omega

/-- The text that a part of a form stands for. -/
def decodeForm (s : String) : String :=
  String.ofList (lossy (decodeBytes ((bytes s).map fun b => if b == 0x2B then 0x20 else b)))

/-! ## Writing -/

/-- Bytes that a form holds as they are. -/
def isPlain (b : UInt8) : Bool :=
  let c := Char.ofNat b.toNat
  c.isAlphanum || c == '*' || c == '-' || c == '.' || c == '_'

def hexDigit (n : Nat) : Char := (Nat.digitChar n).toUpper

def encodeByte (b : UInt8) : List Char :=
  if b == 0x20 then ['+']
  else if isPlain b then [Char.ofNat b.toNat]
  else ['%', hexDigit (b.toNat / 16), hexDigit (b.toNat % 16)]

/-- How a form holds a text. -/
def encodeForm (s : String) : String := String.ofList ((bytes s).flatMap encodeByte)

/-- How a form holds fields with their values. -/
def form (fields : List (String × String)) : String :=
  "&".intercalate (fields.map fun e => s!"{encodeForm e.1}={encodeForm e.2}")

/-- The fields of a form with their values, in their order; parts that are empty hold none. -/
def fields (form : String) : List (String × String) :=
  ((segments '&' form).filter fun part => !part.isEmpty).map fun part =>
    let (name, value) := cut '=' part
    (decodeForm name, decodeForm (value.getD ""))

end AccessControl.Text.Percent
