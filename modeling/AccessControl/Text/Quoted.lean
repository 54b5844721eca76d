/-
Texts in quotes, as errors and listings show them: everything that would not show as itself is
written as an escape.
-/
import AccessControl.Text.Category
import AccessControl.Text.Recent
import AccessControl.Text.Trait

namespace AccessControl.Text

/-- Characters that have no shape of their own: separators, controls, formats and code points
without a character. -/
def shapeless : CharSet := Category.setOf (Category.others ++ Category.separators)

/-- Characters that join the one before them, and those that are left out where they have no
shape. -/
def hidden : CharSet :=
  CharSet.ofRanges ((Trait.set "graphemeextend").ranges ++ Recent.extending.ranges ++
    (Trait.set "defaultignorablecodepoint").ranges)

/-- The space and every character that shows as itself. -/
def isPrintable (c : Char) : Bool :=
  if c.toNat < 0x7F then 0x20 ≤ c.toNat
  else (!shapeless.has c || Recent.printable.has c) && !hidden.has c

/-- How one character is written between quotes. -/
def quoteChar (c : Char) : List Char :=
  match c with
  | '\x00' => ['\\', '0']
  | '\t' => ['\\', 't']
  | '\r' => ['\\', 'r']
  | '\n' => ['\\', 'n']
  | '"' => ['\\', '"']
  | '\\' => ['\\', '\\']
  | c =>
    if isPrintable c then [c] else ['\\', 'u', '\x7b'] ++ Nat.toDigits 16 c.toNat ++ ['\x7d']

/-- The text between double quotes, with escapes. -/
def quoted (s : String) : String :=
  String.ofList ('"' :: s.toList.flatMap quoteChar ++ ['"'])

end AccessControl.Text
