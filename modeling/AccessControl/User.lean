/-
Users: the local record of an account, with free-form attributes.
-/
import AccessControl.Json.Decoder
import AccessControl.Urn

namespace AccessControl

/-- The record of a user. Whether the account is locked is known only when it has been asked for. -/
structure User where
  account : Int
  username : String
  id : Urn .user
  locked : Option Bool
  attributes : Option Attributes
deriving Repr

namespace User

/-- A record for an account, with the name that belongs to the account. -/
def ofAccount (account : Int) (username : String) (attributes : Option Attributes) : User :=
  ⟨account, username, Urn.ofAccount account, none, attributes⟩

/-- Binds an attribute; a user without attributes gets some. -/
def setAttribute (key : String) (value : Json) (user : User) : User :=
  { user with attributes := some ((user.attributes.getD []).put key value) }

/-- Removes an attribute; a user without attributes stays without. -/
def eraseAttribute (key : String) (user : User) : User :=
  { user with attributes := user.attributes.map fun attributes => attributes.erase key }

/-- The record as JSON; what is not known is left out. -/
def toJson (user : User) : Json :=
  .object <|
    [("accountID", Json.ofInt user.account), ("username", .text user.username),
      ("id", .text user.id.text)] ++
    (user.locked.map fun locked => ("locked", Json.bool locked)).toList ++
    (user.attributes.map fun attributes => ("attrs", Json.object attributes)).toList

open Json.Decoder in
def decoder : Json.Decoder User :=
  record
    [.needed "accountID" int64 fun account user => { user with account },
      .needed "username" text fun username user => { user with username },
      .needed "id" text fun id user => { user with id := ⟨id⟩ },
      .defaulted "locked" (optional bool) fun locked user => { user with locked },
      .defaulted "attrs" (optional (map json)) fun attributes user => { user with attributes }]
    ⟨0, "", ⟨""⟩, none, none⟩

end User

end AccessControl
