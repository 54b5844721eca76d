/-
Accounts: what an authentication server knows about the holder of credentials.
-/
import AccessControl.Json.Decoder

namespace AccessControl

structure Account where
  id : Int
  username : String
  locked : Bool
  archived : Bool
deriving DecidableEq, Repr

namespace Account

def toJson (account : Account) : Json :=
  .object [("id", Json.ofInt account.id), ("username", .text account.username),
    ("locked", .bool account.locked), ("deleted", .bool account.archived)]

open Json.Decoder in
def decoder : Json.Decoder Account :=
  record
    [.needed "id" int64 fun id account => { account with id },
      .needed "username" text fun username account => { account with username },
      .defaulted "locked" bool fun locked account => { account with locked },
      .defaulted "deleted" bool fun archived account => { account with archived }]
    ⟨0, "", false, false⟩

end Account

end AccessControl
