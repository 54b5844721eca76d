/-
Groups of users. Who belongs to a group is kept apart from its record.
-/
import AccessControl.Json.Decoder
import AccessControl.Urn

namespace AccessControl

structure Group where
  id : Urn .group
  name : String
  comment : Option String
deriving DecidableEq, Repr

namespace Group

def ofName (name : String) (comment : Option String) : Group :=
  ⟨.ofLocal .group name, name, comment⟩

def toJson (group : Group) : Json :=
  .object <|
    [("id", .text group.id.text), ("name", .text group.name)] ++
    (group.comment.map fun comment => ("comment", Json.text comment)).toList

open Json.Decoder in
def decoder : Json.Decoder Group :=
  record
    [.needed "id" text fun id group => { group with id := ⟨id⟩ },
      .needed "name" text fun name group => { group with name },
      .defaulted "comment" (optional text) fun comment group => { group with comment }]
    ⟨⟨""⟩, "", none⟩

end Group

end AccessControl
