/-
UTF-8: characters as one to four bytes, and ranges of characters as ranges of bytes.
-/
import AccessControl.Text.CharSet

namespace AccessControl.Text.Utf8

/-- The character of a code point; halves of surrogate pairs are no characters. -/
def char? (n : Nat) : Option Char :=
  if n < 0xD800 ∨ (0xE000 ≤ n ∧ n < 0x110000) then some (Char.ofNat n) else none

/-! ## Reading bytes -/

/-- What a byte that is not the first of a character adds to its code point. -/
def tail? (b : UInt8) : Option Nat :=
  if 0x80 ≤ b.toNat ∧ b.toNat < 0xC0 then some (b.toNat - 0x80) else none

/-- How many bytes follow the first byte of a character, and its part of the code point. -/
def lead? (b : UInt8) : Option (Nat × Nat) :=
  let n := b.toNat
  if n < 0x80 then some (0, n)
  else if n < 0xC0 then none
  else if n < 0xE0 then some (1, n - 0xC0)
  else if n < 0xF0 then some (2, n - 0xE0)
  else if n < 0xF8 then some (3, n - 0xF0)
  else none

/-- The number that so many more bytes go on to write. -/
def extend? : Nat → Nat → List UInt8 → Option Nat
  | 0, value, _ => some value
  | _ + 1, _, [] => none
  | n + 1, value, b :: rest =>
    match tail? b with
    | some part => extend? n (value * 64 + part) rest
    | none => none

/-- The least code point that needs so many bytes after the first. -/
def least : Nat → Nat
  | 0 => 0
  | 1 => 0x80
  | 2 => 0x800
  | _ => 0x10000

/-- The character that starts with a byte, and how many of the bytes after it belong to it. -/
def startingWith? (b : UInt8) (rest : List UInt8) : Option (Char × Nat) := do
  let (more, part) ← lead? b
  let n ← extend? more part rest
  if n < least more then none else return (← char? n, more)

/-- The characters of bytes of which the first `skip` belong to the character before. -/
def charactersFrom : Nat → List UInt8 → List (Option Char)
  | _, [] => []
  | skip + 1, _ :: rest => charactersFrom skip rest
  | 0, b :: rest =>
    match startingWith? b rest with
    | some (c, more) => some c :: charactersFrom more rest
    | none => none :: charactersFrom 0 rest

/-- The characters that bytes write, with nothing in the place of each byte that belongs to none. -/
def characters (bytes : List UInt8) : List (Option Char) := charactersFrom 0 bytes

/-! ## Ranges of code points as ranges of bytes -/

/-- A sequence of byte ranges: all sequences of bytes with one byte of each. -/
abbrev ByteRanges := List (Nat × Nat)

/-- The numbers from `lo` to `hi` by their digits in base 64, of which `more` follow the first:
sequences of ranges of digits, ascending. -/
def digitRanges : Nat → Nat → Nat → List ByteRanges
  | 0, lo, hi => [[(lo, hi)]]
  | more + 1, lo, hi =>
    let block := Nat.pow 64 (more + 1)
    let first := lo / block
    let last := hi / block
    if first = last then
      (digitRanges more (lo % block) (hi % block)).map fun rest => (first, first) :: rest
    else
      let low := if lo % block = 0 then []
        else (digitRanges more (lo % block) (block - 1)).map fun rest => (first, first) :: rest
      let high := if hi % block = block - 1 then []
        else (digitRanges more 0 (hi % block)).map fun rest => (last, last) :: rest
      let start := if low.isEmpty then first else first + 1
      let stop := if high.isEmpty then last else last - 1
      let whole := if start ≤ stop then [(start, stop) :: List.replicate (more + 1) (0, 63)] else []
      low ++ whole ++ high

/-- The runs of code points of characters with equally many bytes: first, last, how many bytes
follow the first, and what the first byte adds to its digit. -/
def runs : List (Nat × Nat × Nat × Nat) :=
  [(0, 0x7F, 0, 0), (0x80, 0x7FF, 1, 0xC0), (0x800, 0xD7FF, 2, 0xE0), (0xE000, 0xFFFF, 2, 0xE0),
    (0x10000, CharSet.top, 3, 0xF0)]

/-- The byte ranges of digits. -/
def ofDigits (lead : Nat) : ByteRanges → ByteRanges
  | [] => []
  | (lo, hi) :: rest => (lead + lo, lead + hi) :: rest.map fun r => (0x80 + r.1, 0x80 + r.2)

/-- The bytes of the characters of a range, as sequences of byte ranges in ascending order. -/
def sequences (range : Nat × Nat) : List ByteRanges :=
  runs.flatMap fun (first, last, more, lead) =>
    let lo := Nat.max first range.1
    let hi := Nat.min last range.2
    if lo ≤ hi then (digitRanges more lo hi).map (ofDigits lead) else []

/-- The bytes of a character. -/
def bytes (c : Char) : List Nat :=
  (sequences (c.toNat, c.toNat)).head?.getD [] |>.map Prod.fst

end AccessControl.Text.Utf8
