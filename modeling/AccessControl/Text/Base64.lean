/-
Bytes as texts in 64 characters. Main statement: each character stands for the digit that it is
written for (`digit?_character`).
-/
namespace AccessControl.Text.Base64

/-- The last two of the characters, in the common alphabet and in the one for addresses. -/
structure Alphabet where
  plus : Char
  slash : Char

def common : Alphabet := ⟨'+', '/'⟩

def forAddresses : Alphabet := ⟨'-', '_'⟩

/-- The character of a digit in base 64. -/
def character (a : Alphabet) (n : Nat) : Char :=
  if n < 26 then Char.ofNat (65 + n)
  else if n < 52 then Char.ofNat (97 + (n - 26))
  else if n < 62 then Char.ofNat (48 + (n - 52))
  else if n = 62 then a.plus else a.slash

/-- The digit of a character. -/
def digit? (a : Alphabet) (c : Char) : Option Nat :=
  if c.isUpper then some (c.toNat - 65)
  else if c.isLower then some (c.toNat - 97 + 26)
  else if c.isDigit then some (c.toNat - 48 + 52)
  else if c = a.plus then some 62
  else if c = a.slash then some 63
  else none

theorem digit?_character (n : Nat) (h : n < 64) :
    digit? common (character common n) = some n ∧
      digit? forAddresses (character forAddresses n) = some n := by
  revert n
  decide +kernel

/-- The characters of three bytes at a time; a last group that is not full is filled up. -/
def encodeBytes : List UInt8 → List Char
  | [] => []
  | [a] =>
    [character common (a.toNat / 4), character common (a.toNat % 4 * 16), '=', '=']
  | [a, b] =>
    [character common (a.toNat / 4), character common (a.toNat % 4 * 16 + b.toNat / 16),
      character common (b.toNat % 16 * 4), '=']
  | a :: b :: c :: rest =>
    character common (a.toNat / 4) :: character common (a.toNat % 4 * 16 + b.toNat / 16) ::
      character common (b.toNat % 16 * 4 + c.toNat / 64) :: character common (c.toNat % 64) ::
      encodeBytes rest

def encode (bytes : List UInt8) : String := String.ofList (encodeBytes bytes)

/-- The bytes of digits, four at a time; the bits of a last group that is not full have to be used
up, but for zeros. -/
def bytesOf? : List Nat → Option (List UInt8)
  | [] => some []
  | [_] => none
  | [a, b] => if b % 16 = 0 then some [(a * 4 + b / 16).toUInt8] else none
  | [a, b, c] =>
    if c % 4 = 0 then some [(a * 4 + b / 16).toUInt8, (b % 16 * 16 + c / 4).toUInt8] else none
  | a :: b :: c :: d :: rest =>
    (bytesOf? rest).map fun bytes =>
      (a * 4 + b / 16).toUInt8 :: (b % 16 * 16 + c / 4).toUInt8 :: (c % 4 * 64 + d).toUInt8 :: bytes

/-- The bytes of a text in the alphabet for addresses, which is not filled up. -/
def decodeForAddresses? (s : String) : Option (List UInt8) := do
  bytesOf? (← s.toList.mapM (digit? forAddresses))

end AccessControl.Text.Base64
