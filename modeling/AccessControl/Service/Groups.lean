/-
The service of groups. Only users that exist become members, a group that is deleted has no members
any more, and a user that has been deleted is taken out of its groups.
-/
import AccessControl.Service.Users

namespace AccessControl.Groups

open Service

/-- Goes on only with a text that names a group. -/
def named (group : Urn .group) : Service Unit :=
  if group.name.isEmpty then
    throw (.invalidArgument s!"invalid group urn {Text.quoted group.text}")
  else return ()

def list : Service (List Group) := guarded .group (storage (.list .group))

/-- Stores a group that has no members. The name has to be one that can be read off the urn. -/
def create (name : String) (comment : Option String) : Service (Urn .group) := do
  if name.isEmpty then throw (.invalidArgument "group name is required")
  let group := Group.ofName name comment
  if group.id.name != name then
    throw (.invalidArgument s!"invalid group name {Text.quoted name}")
  guarded .group do
    match ← attempt (storage (.load .group group.id)) with
    | .ok _ => throw (.conflict "group")
    | .error failure =>
      unless failure.isNotFound do throw failure
      storage (.store .group group)
      return group.id

/-- Ends all memberships of a group and then removes its record. -/
def delete (group : Urn .group) : Service Unit := do
  named group
  guarded .group do
    discard (storage (.load .group group))
    discard (storage (.disband group))
    storage (.erase .group group)

def load (group : Urn .group) : Service Group := do
  named group
  guarded .group (storage (.load .group group))

def setComment (group : Urn .group) (comment : Option String) : Service Unit := do
  named group
  guarded .group do
    let record : Group ← storage (.load .group group)
    storage (.store .group ({ record with comment } : Group))

/-- Makes a user a member; the user is asked for at the service of users. -/
def addMember (group : Urn .group) (user : Urn .user) : Service Unit := do
  named group
  guarded .group do
    discard (storage (.load .group group))
    discard (Users.load user)
    storage (.join user group)

def removeMember (group : Urn .group) (user : Urn .user) : Service Unit := do
  named group
  guarded .group do
    discard (storage (.load .group group))
    storage (.part user group)

def members (group : Urn .group) : Service (List (Urn .user)) := do
  named group
  guarded .group do
    discard (storage (.load .group group))
    storage (.members group)

def memberships (user : Urn .user) : Service (List (Urn .group)) :=
  guarded .group (storage (.memberships user))

/-- Takes a user out of groups; where that fails it goes on with the next one. -/
def leave (user : Urn .user) : List (Urn .group) → Service Unit
  | [] => return ()
  | group :: rest => do
    discard (attempt (storage (.part user group)))
    leave user rest

/-- What follows the deletion of a user: it leaves all its groups. -/
def reconcile (user : Urn .user) : Service Unit :=
  detached (guarded .group do leave user (← storage (.memberships user)))

end AccessControl.Groups
