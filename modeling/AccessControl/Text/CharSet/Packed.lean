/-
Tables of character sets packed into lines of text. A number is written in base 32, the highest
digit first; all digits but the last have 32 added, and a digit is one of 64 characters. A set is
written as pairs of numbers: how many code points lie between the last range and the next, and how
many follow the first of that range.
-/
import AccessControl.Text.CharSet

namespace AccessControl.Text.Packed

/-- The value of a digit: `0` to `9`, then large letters, small letters, `+` and `-`. -/
def digit (c : Char) : Nat :=
  let n := c.toNat
  if 48 ≤ n ∧ n ≤ 57 then n - 48
  else if 65 ≤ n ∧ n ≤ 90 then n - 55
  else if 97 ≤ n ∧ n ≤ 122 then n - 61
  else if c = '+' then 62
  else 63

/-- The numbers written, with `part` read of the first. -/
def numbersFrom (part : Nat) : List Char → List Nat
  | [] => []
  | c :: rest =>
    if digit c < 32 then (part * 32 + digit c) :: numbersFrom 0 rest
    else numbersFrom (part * 32 + (digit c - 32)) rest

def numbers (lines : List String) : List Nat :=
  lines.flatMap fun line => numbersFrom 0 line.toList

/-- The ranges written from the code point `start` on. -/
def rangesFrom (start : Nat) : List Nat → List (Nat × Nat)
  | gap :: more :: rest =>
    (start + gap, start + gap + more) :: rangesFrom (start + gap + more + 1) rest
  | _ => []

def set (lines : List String) : CharSet := ⟨rangesFrom 0 (numbers lines)⟩

/-- A named set of a table; the names are in small letters, without spaces, hyphens and
underscores. -/
structure Entry where
  names : List String
  lines : List String

/-- The set of the first entry with that name. -/
def find? (table : List Entry) (name : String) : Option CharSet :=
  (table.find? fun e => e.names.contains name).map fun e => set e.lines

end AccessControl.Text.Packed
