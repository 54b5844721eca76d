/-
Resource names `urn:iam::<type>/<name>`. Any text may stand where a name is expected; what it names
is asked for when it is needed, and an empty local name means that it names nothing.
-/
import AccessControl.Text.Segment

namespace AccessControl

/-- The kinds of entity that have names. -/
inductive Kind
  | user
  | group
  | policy
deriving DecidableEq, Repr

/-- The word for a kind in names and texts. -/
def Kind.word : Kind → String
  | user => "user"
  | group => "group"
  | policy => "policy"

/-! ## Names as texts -/

namespace Urn

open Text

/-- The beginning that all names share. -/
def root : String := "urn:iam::"

/-- A name begins with the root and has four parts between colons. -/
def isName (text : String) : Bool :=
  beginsWith text root && (segments ':' text).length == 4

/-- The word for the kind and the local name, if the last part of the name is just these two. -/
def path? (text : String) : Option (String × String) :=
  if isName text then
    match ((segments ':' text)[3]?).map (segments '/') with
    | some [kind, name] => some (kind, name)
    | _ => none
  else none

/-- The local name, empty if there is none. -/
def localOf (text : String) : String := ((path? text).map Prod.snd).getD ""

/-- The word for the kind, empty if the text is no name. -/
def typeOf (text : String) : String :=
  if isName text then
    (((segments ':' text)[3]?).bind fun path => (segments '/' path).head?).getD ""
  else ""

/-- The name with that word for the kind and that local name, whatever the latter holds. -/
def compose (k : Kind) (name : String) : String := s!"{root}{k.word}/{name}"

/-- A local name that survives being put into a name. -/
def isLocal (name : String) : Bool := name.toList.all fun c => c != ':' && c != '/'

end Urn

/-! ## Names of one kind -/

/-- A text used as the name of an entity of kind `k`. -/
structure Urn (k : Kind) where
  text : String
deriving DecidableEq, Repr

namespace Urn

variable {k : Kind}

def ofLocal (k : Kind) (name : String) : Urn k := ⟨compose k name⟩

/-- The text is a name, and the word in it is that of the kind. -/
def isValid (u : Urn k) : Bool := isName u.text && typeOf u.text == k.word

/-- The local name, empty if the text does not name an entity of this kind. -/
def name (u : Urn k) : String := if u.isValid then localOf u.text else ""

/-- The name of the user that an account belongs to. -/
def ofAccount (id : Int) : Urn .user := ofLocal .user (toString id)

end Urn

end AccessControl
