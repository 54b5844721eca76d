/-
The records that a storage keeps, one type for each kind of entity.
-/
import AccessControl.Group
import AccessControl.Policy
import AccessControl.User

namespace AccessControl

/-- The record of an entity of a kind. -/
def Record : Kind → Type
  | .user => User
  | .group => Group
  | .policy => Policy

namespace Record

/-- The name under which a record is stored. -/
def id : {k : Kind} → Record k → Urn k
  | .user, user => User.id user
  | .group, group => Group.id group
  | .policy, policy => Policy.id policy

/-- A record as a listing shows it: a policy carries the name under which it is stored, whatever it
says itself. -/
def listed : {k : Kind} → Urn k → Record k → Record k
  | .user, _, user => user
  | .group, _, group => group
  | .policy, id, policy => { (policy : Policy) with id }

def toJson : {k : Kind} → Record k → Json
  | .user, user => User.toJson user
  | .group, group => Group.toJson group
  | .policy, policy => Policy.toJson policy

def decoder : (k : Kind) → Json.Decoder (Record k)
  | .user => User.decoder
  | .group => Group.decoder
  | .policy => Policy.decoder

end Record

end AccessControl
