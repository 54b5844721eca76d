/-
Texts cut at a separator, at a beginning they share, or changed letter by letter.
-/
namespace AccessControl.Text

/-- What follows the given beginning, if the characters begin with it. -/
def afterChars : List Char → List Char → Option (List Char)
  | [], cs => some cs
  | _ :: _, [] => none
  | s :: start, c :: cs => if s = c then afterChars start cs else none

/-- What follows `start` in a text that begins with it. -/
def after? (start s : String) : Option String :=
  (afterChars start.toList s.toList).map String.ofList

def beginsWith (s start : String) : Bool := start.toList.isPrefixOf s.toList

def endsWith (s tail : String) : Bool := tail.toList.isSuffixOf s.toList

/-- The pieces between the separators: one more than there are separators. -/
def segments (separator : Char) (s : String) : List String :=
  (s.toList.splitOn separator).map String.ofList

/-- The text before the first separator and, if there is one, the text after it. -/
def cut (separator : Char) (s : String) : String × Option String :=
  let cs := s.toList
  let head := cs.takeWhile (· != separator)
  match cs.drop head.length with
  | [] => (s, none)
  | _ :: rest => (String.ofList head, some (String.ofList rest))

/-- The characters before and after the first place where `mark` stands. -/
def cutAtChars (mark : List Char) : List Char → Option (List Char × List Char)
  | [] => none
  | c :: cs =>
    match afterChars mark (c :: cs) with
    | some rest => some ([], rest)
    | none => (cutAtChars mark cs).map fun r => (c :: r.1, r.2)

/-- The texts before and after the first place where `mark`, which is not empty, stands. -/
def cutAt? (mark s : String) : Option (String × String) :=
  (cutAtChars mark.toList s.toList).map fun r => (String.ofList r.1, String.ofList r.2)

/-- Letters from `A` to `Z` made small; every other character stays. -/
def lower (s : String) : String := s.map Char.toLower

/-- Without the characters `c` at its end. -/
def dropEnd (c : Char) (s : String) : String :=
  String.ofList ((s.toList.reverse.dropWhile (· == c)).reverse)

theorem afterChars_eq_some_iff {start cs rest : List Char} :
    afterChars start cs = some rest ↔ cs = start ++ rest := by
  induction start generalizing cs with
  | nil => simp [afterChars, eq_comm]
  | cons s start ih =>
    cases cs with
    | nil => simp [afterChars]
    | cons c cs =>
      by_cases h : s = c
      · simp [afterChars, h, ih]
      · simp [afterChars, h, Ne.symm h]

end AccessControl.Text
