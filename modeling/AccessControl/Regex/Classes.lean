/-
The sets of characters that have names in expressions.
-/
import AccessControl.Text.Age
import AccessControl.Text.Blank
import AccessControl.Text.Break
import AccessControl.Text.Category
import AccessControl.Text.Fold
import AccessControl.Text.Recent
import AccessControl.Text.Script
import AccessControl.Text.Trait

namespace AccessControl.Regex.Classes

open Text

/-! ## Digits, blanks and words -/

def digits : CharSet := Category.decimalNumber.set

def blanks : CharSet := Trait.set "whitespace"

/-- Letters, marks, digits, connectors and joiners. -/
def words : CharSet :=
  CharSet.ofRanges ((Trait.set "alphabetic").ranges ++ (Trait.set "joincontrol").ranges ++
    (Category.setOf (.decimalNumber :: .connectorPunctuation :: Category.marks)).ranges)

/-- The characters of one byte that names like `alpha` stand for. -/
def latin? : String → Option CharSet
  | "alnum" => some (.ofRanges [(48, 57), (65, 90), (97, 122)])
  | "alpha" => some (.ofRanges [(65, 90), (97, 122)])
  | "ascii" => some (.range 0 0x7F)
  | "blank" => some (.ofRanges [(9, 9), (32, 32)])
  | "cntrl" => some (.ofRanges [(0, 31), (127, 127)])
  | "digit" => some (.range 48 57)
  | "graph" => some (.range 33 126)
  | "lower" => some (.range 97 122)
  | "print" => some (.range 32 126)
  | "punct" => some (.ofRanges [(33, 47), (58, 64), (91, 96), (123, 126)])
  | "space" => some (.ofRanges [(9, 13), (32, 32)])
  | "upper" => some (.range 65 90)
  | "word" => some (.ofRanges [(48, 57), (65, 90), (95, 95), (97, 122)])
  | "xdigit" => some (.ofRanges [(48, 57), (65, 70), (97, 102)])
  | _ => none

def latin (name : String) : CharSet := (latin? name).getD .empty

/-- The set of a letter after a backslash, of all characters or of those of one byte. -/
def ofLetter? (all : Bool) : Char → Option CharSet
  | 'd' => some (if all then digits else latin "digit")
  | 's' => some (if all then blanks else latin "space")
  | 'w' => some (if all then words else latin "word")
  | _ => none

/-! ## Properties -/

/-- A name of a property as the tables have it: in small letters and without spaces, hyphens,
underscores and the word `is` in front, unless it is the name `isc`. -/
def looseName (s : String) : String :=
  let cs := s.toList.filter fun c => c.toNat < 0x80
  let tidy (cs : List Char) : List Char :=
    (cs.filter fun c => c != ' ' && c != '_' && c != '-').map Char.toLower
  match s.toList with
  | a :: b :: _ =>
    if a.toLower == 'i' && b.toLower == 's' then
      match tidy (cs.drop 2) with
      | ['c'] => "isc"
      | rest => String.ofList rest
    else String.ofList (tidy cs)
  | _ => String.ofList (tidy cs)

/-- Names that are both those of categories and those of properties with many values; alone they
mean the categories. -/
def categoryFirst : List String := ["cf", "sc", "lc"]

/-- The set of a name alone: a property that holds or fails, a category or a script. -/
def property? (s : String) : Option CharSet :=
  let name := looseName s
  let trait := if categoryFirst.contains name then none else Trait.find? name
  (trait.orElse fun _ => Category.find? name).orElse fun _ => Script.find? name

/-- The properties that have a value for each character: their names, and the set of a value. -/
def valuedProperties : List (List String × (String → Option CharSet)) :=
  [(["gc", "generalcategory"], Category.find?),
   (["sc", "script"], Script.find?),
   (["scx", "scriptextensions"], Script.findUsed?),
   (["age"], Age.find?),
   (["gcb", "graphemeclusterbreak"], Text.Packed.find? Break.clusters),
   (["wb", "wordbreak"], Text.Packed.find? Break.words),
   (["sb", "sentencebreak"], Text.Packed.find? Break.sentences)]

/-- The set of the characters for which a property has a value. -/
def valued? (property value : String) : Option CharSet :=
  let name := looseName property
  (valuedProperties.find? fun p => p.1.contains name).bind fun p => p.2 (looseName value)

/-! ## Letters of names of groups -/

def isLetter (c : Char) : Bool :=
  if c.toNat < 0x80 then c.isAlpha
  else (Trait.set "alphabetic").has c || Recent.alphabetic.has c

def isLetterOrNumber (c : Char) : Bool :=
  if c.toNat < 0x80 then c.isAlphanum
  else isLetter c || (Category.setOf Category.numberCategories).has c || Recent.numbers.has c

end AccessControl.Regex.Classes
