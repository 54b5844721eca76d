/-
Media types: whether the type that a client gives to what it sends is that of JSON.
-/
import AccessControl.Text.Segment

namespace AccessControl.Api.MediaType

/-- Characters of the words of a media type. -/
def isToken (c : Char) : Bool :=
  c.isAlphanum || "!#$%&'*+-.^_`|~".toList.contains c

/-- Characters that may stand between quotes. -/
def isQuotable (c : Char) : Bool := 0x20 ≤ c.toNat && c.toNat != 0x7F

/-! ## Parameters -/

/-- How far the parameters of a type have been read. -/
inductive Place
  /-- Before a name; blanks may stand here. -/
  | gap
  | name
  /-- Before a value. -/
  | opening
  | value
  /-- Behind the quote that opens a value. -/
  | quote
  | quoted
  /-- Behind the quote that closes a value; blanks may stand here. -/
  | closed
  /-- Behind something that is no parameter. -/
  | bad
deriving DecidableEq, Repr

namespace Place

/-- What a character leads to. The first character of a quoted value may be a quote itself. -/
def after (place : Place) (c : Char) : Place :=
  match place with
  | gap => if c == ' ' then gap else if isToken c then name else bad
  | name => if isToken c then name else if c == '=' then opening else bad
  | opening => if c == '"' then quote else if isToken c then value else bad
  | value => if isToken c then value else if c == ';' then gap else bad
  | quote => if isQuotable c then quoted else bad
  | quoted => if c == '"' then closed else if isQuotable c then quoted else bad
  | closed => if c == ' ' then closed else if c == ';' then gap else bad
  | bad => bad

/-- Whether a type may end here. -/
def isEnd : Place → Bool
  | gap => true
  | opening => true
  | value => true
  | closed => true
  | _ => false

end Place

def areParameters (cs : List Char) : Bool := (cs.foldl Place.after .gap).isEnd

/-! ## Types -/

/-- The two words of a type whose form is right, in small letters. -/
def words? (s : String) : Option (String × String) :=
  let cs := s.toList
  let outer := cs.takeWhile isToken
  match cs.dropWhile isToken with
  | '/' :: rest =>
    let inner := rest.takeWhile isToken
    let ends := match rest.dropWhile isToken with
      | [] => true
      | ';' :: more => areParameters more
      | _ => false
    if outer.isEmpty || inner.isEmpty || !ends then none
    else some (Text.lower (String.ofList outer), Text.lower (String.ofList inner))
  | _ => none

/-- The second word of a type cut at its last plus, unless that is its first character. -/
def suffix (word : String) : String × Option String :=
  let parts := Text.segments '+' word
  let front := "+".intercalate parts.dropLast
  if front.isEmpty then (word, none) else (front, parts.getLast?)

/-- The type of JSON itself, or of something that is written as JSON. -/
def isJson (s : String) : Bool :=
  match words? s with
  | some ("application", word) => (suffix word).1 == "json" || (suffix word).2 == some "json"
  | _ => false

end AccessControl.Api.MediaType
