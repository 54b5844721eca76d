/-
What clients send to the interface.
-/
import AccessControl.Policy

namespace AccessControl.Api

open Json.Decoder

/-- A user to be opened. -/
structure NewUser where
  username : String
  password : String
  attributes : Option Attributes
deriving Repr

def NewUser.decoder : Json.Decoder NewUser :=
  record
    [.needed "username" text fun username user => { user with username },
      .needed "password" text fun password user => { user with password },
      (RecordField.defaulted "attrs" (optional (map json)) fun attributes user =>
        { user with attributes }).orNamed "attributes"]
    ⟨"", "", none⟩

/-- A group to be made. -/
structure NewGroup where
  name : String
  comment : Option String
deriving DecidableEq, Repr

def NewGroup.decoder : Json.Decoder NewGroup :=
  record
    [.needed "name" text fun name group => { group with name },
      .defaulted "comment" (optional text) fun comment group => { group with comment }]
    ⟨"", none⟩

/-- Another comment for a group, or none. -/
structure NewComment where
  comment : Option String
deriving DecidableEq, Repr

def NewComment.decoder : Json.Decoder NewComment :=
  record [.defaulted "comment" (optional text) fun comment _ => ⟨comment⟩] ⟨none⟩

/-- A policy to be stored under a name. -/
structure NewPolicy where
  name : String
  policy : Policy
deriving Repr

def NewPolicy.decoder : Json.Decoder NewPolicy :=
  record
    [.needed "name" text fun name new => { new with name },
      .needed "policy" Policy.decoder fun policy new => { new with policy }]
    ⟨"", .ofEffect .deny⟩

end AccessControl.Api
