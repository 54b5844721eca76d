/-
What can be asked of a storage: the records of each kind by name, and who belongs to which group.
-/
import AccessControl.Failure
import AccessControl.Record
import AccessControl.Roster

namespace AccessControl.Storage

/-- A call to a storage; each one happens as a whole or not at all. -/
inductive Call
  | load (k : Kind) (id : Urn k)
  /-- Stores a record under its own name, in place of one that is there. -/
  | store (k : Kind) (record : Record k)
  | erase (k : Kind) (id : Urn k)
  /-- All records of a kind, ascending by name. -/
  | list (k : Kind)
  /-- Makes a user a member of a group, if it is not one already. -/
  | join (user : Urn .user) (group : Urn .group)
  /-- Ends a membership. -/
  | part (user : Urn .user) (group : Urn .group)
  /-- Ends all memberships of a group and tells whose they were. -/
  | disband (group : Urn .group)
  | memberships (user : Urn .user)
  | members (group : Urn .group)

/-- What a call answers when it does not fail. -/
def Call.Reply : Call → Type
  | load k _ => Record k
  | store _ _ => Unit
  | erase _ _ => Unit
  | list k => List (Record k)
  | join _ _ => Unit
  | part _ _ => Unit
  | disband _ => List (Urn .user)
  | memberships _ => List (Urn .group)
  | members _ => List (Urn .user)

/-- There is no record of that name. -/
def missing (k : Kind) : Failure := .notFound k.word

/-- The user is no member of the group. -/
def noMember : Failure := .notFound "user membership"

/-- The names of a roster. -/
def urns {k : Kind} (names : Roster) : List (Urn k) := names.map Urn.mk

end AccessControl.Storage
