/-
Flags that change how the rest of a group is read, and the blanks and comments that one of them
allows between its parts.
-/
import AccessControl.Regex.Classes

namespace AccessControl.Regex

/-- The flags in force. -/
structure Flags where
  /-- `i`: letters match in both cases. -/
  anyCase : Bool
  /-- `m`: lines have starts and ends of their own. -/
  lines : Bool
  /-- `s`: the dot matches line feeds too. -/
  dotAll : Bool
  /-- `u`: sets hold characters of all scripts. -/
  allScripts : Bool
  /-- `R`: a carriage return before a line feed belongs to the end of the line. -/
  returns : Bool
  /-- `x`: blanks and comments between the parts do not count. -/
  spaced : Bool
deriving DecidableEq, Repr

namespace Flags

def initial : Flags := ⟨false, false, false, true, false, false⟩

/-- The flags with the one of a letter on or off. The letter `U` only exchanges two forms of
repetition that match the same. -/
def set? (flags : Flags) (letter : Char) (on : Bool) : Option Flags :=
  match letter with
  | 'i' => some { flags with anyCase := on }
  | 'm' => some { flags with lines := on }
  | 's' => some { flags with dotAll := on }
  | 'u' => some { flags with allScripts := on }
  | 'R' => some { flags with returns := on }
  | 'x' => some { flags with spaced := on }
  | 'U' => some flags
  | _ => none

/-- The letters up to a closing bracket or a colon, with a hyphen before those to turn off: whether
there are any letters, the flags, and the text from the bracket or colon on. No letter and no hyphen
comes twice, and a hyphen is not the last. -/
def read? (flags : Flags) (on : Bool) (seen : List Char) :
    List Char → Option (Bool × Flags × List Char)
  | [] => none
  | c :: rest =>
    if c = ':' ∨ c = ')' then
      if seen.head? = some '-' then none else some (!seen.isEmpty, flags, c :: rest)
    else if seen.contains c then none
    else if c = '-' then read? flags false (c :: seen) rest
    else match flags.set? c on with
      | some flags => read? flags on (c :: seen) rest
      | none => none

end Flags

/-! ## Blanks and comments -/

/-- The text after blanks and after comments, which end with their line. -/
def dropSpace (comment : Bool) : List Char → List Char
  | [] => []
  | c :: rest =>
    if comment then dropSpace (c != '\n') rest
    else if Text.isBlank c then dropSpace false rest
    else if c = '#' then dropSpace true rest
    else c :: rest

namespace Flags

/-- The text from the next part on. -/
def skip (flags : Flags) (cs : List Char) : List Char :=
  if flags.spaced then dropSpace false cs else cs

end Flags

end AccessControl.Regex
