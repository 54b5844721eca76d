/-
JSON values. Whole numbers and binary fractions are apart, and the fields of an object stand in the
order in which they are written; an object that is data of its own has them in ascending order.
-/
import AccessControl.Assoc
import AccessControl.Double.Scaled
import AccessControl.Double.Shortest

namespace AccessControl

/-- A number: whole ones keep all their digits. -/
inductive Number
  | whole (n : Int)
  | real (d : Double)
deriving DecidableEq, Repr

inductive Json
  | null
  | bool (b : Bool)
  | number (n : Number)
  | text (s : String)
  | array (items : List Json)
  | object (fields : List (String × Json))
deriving Repr

/-- Attributes by name: what is known about users and requests. -/
abbrev Attributes := Assoc Json

namespace Number

/-- The range of whole numbers: from the least of 64 bits with a sign to the greatest without. -/
def isWhole (n : Int) : Bool := -(Nat.pow 2 63 : Int) ≤ n && n < Nat.pow 2 64

/-- The nearest binary fraction; whole numbers of the range are far from too large. -/
def toDouble : Number → Double
  | whole n => (Double.ofInt? n).getD .zero
  | real d => d

/-- A whole number never equals a fraction, and the zeros of both signs are equal. -/
def same : Number → Number → Bool
  | whole a, whole b => a == b
  | real a, real b => a.same b
  | _, _ => false

def render : Number → String
  | whole n => toString n
  | real d => d.render

end Number

namespace Json

def ofInt (n : Int) : Json := .number (.whole n)

def asText? : Json → Option String
  | text s => some s
  | _ => none

def asBool? : Json → Option Bool
  | bool b => some b
  | _ => none

def asNumber? : Json → Option Number
  | number n => some n
  | _ => none

def asArray? : Json → Option (List Json)
  | array items => some items
  | _ => none

/-! ## Equality -/

mutual

/-- Equality of values: item by item, field by field, and numbers as numbers. -/
def same : Json → Json → Bool
  | null, null => true
  | bool a, bool b => a == b
  | number a, number b => a.same b
  | text a, text b => a == b
  | array as, array bs => sameItems as bs
  | object as, object bs => sameFields as bs
  | _, _ => false

def sameItems : List Json → List Json → Bool
  | [], [] => true
  | a :: as, b :: bs => same a b && sameItems as bs
  | _, _ => false

def sameFields : List (String × Json) → List (String × Json) → Bool
  | [], [] => true
  | (k, a) :: as, (l, b) :: bs => k == l && same a b && sameFields as bs
  | _, _ => false

end

/-! ## The text -/

/-- How a character is written between quotes: only quotes, backslashes and controls change. -/
def escapeChar (c : Char) : List Char :=
  match c with
  | '"' => ['\\', '"']
  | '\\' => ['\\', '\\']
  | '\x08' => ['\\', 'b']
  | '\t' => ['\\', 't']
  | '\n' => ['\\', 'n']
  | '\x0c' => ['\\', 'f']
  | '\r' => ['\\', 'r']
  | c =>
    if c.toNat < 0x20 then
      ['\\', 'u', '0', '0', Nat.digitChar (c.toNat / 16), Nat.digitChar (c.toNat % 16)]
    else [c]

def renderText (s : String) : String :=
  String.ofList ('"' :: s.toList.flatMap escapeChar ++ ['"'])

mutual

/-- The text of a value, without blanks. -/
def render : Json → String
  | null => "null"
  | bool true => "true"
  | bool false => "false"
  | number n => n.render
  | text s => renderText s
  | array items => "[" ++ renderItems items ++ "]"
  | object fields => "\x7b" ++ renderFields fields ++ "\x7d"

def renderItems : List Json → String
  | [] => ""
  | [item] => render item
  | item :: rest => render item ++ "," ++ renderItems rest

def renderFields : List (String × Json) → String
  | [] => ""
  | [(key, value)] => renderText key ++ ":" ++ render value
  | (key, value) :: rest => renderText key ++ ":" ++ render value ++ "," ++ renderFields rest

end

end Json

end AccessControl
