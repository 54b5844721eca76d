/-
Who may do what, by the stored policies and by what is known about the users that take part.
-/
import AccessControl.Enforcement
import AccessControl.Service.Users

namespace AccessControl.Authority

open Service

/-- The attributes of a user as conditions see them: its name, its groups, and its free attributes
each under a key of its own. -/
def attributesOf (start : String) (user : User) (groups : List (Urn .group)) : Attributes :=
  let known : Attributes :=
    Assoc.ofList [(s!"{start}.username", .text user.username),
      (s!"{start}.groups", .array (groups.map fun group => .text group.text))]
  (user.attributes.getD []).foldl (fun all e => Assoc.put s!"{start}.attrs.{e.1}" e.2 all) known

/-- Whether a failure only says that there is no such user. -/
def isUnknown : Failure → Bool
  | .notFound _ => true
  | .invalidArgument _ => true
  | _ => false

/-- Tells what is known about a user; a name of none has no attributes. -/
def userInfo (start : String) : InfoPoint Program := fun name =>
  ExceptT.run (do
    let user : Urn .user := ⟨name⟩
    match ← attempt (Users.load user) with
    | .ok record =>
      let groups ← storage (.memberships user)
      return attributesOf start record groups
    | .error failure => if isUnknown failure then return [] else throw failure : Service Attributes)

/-- Decides by the policies that are stored at that moment. -/
def decide (request : AccessRequest) : Program (Answer Decision) :=
  ExceptT.run (do
    let policies : List Policy ← storage (.list .policy)
    (Program.call .caller (.decide policies request) : Program (Answer Decision)) :
      Service Decision)

/-- Tells what is known about those that are users by their names. -/
def info (start : String) : InfoPoint Program :=
  InfoPoint.route [(.beginning (Urn.compose .user ""), userInfo start)]

/-- Enforces the stored policies. -/
def enforcer : Enforcer Program :=
  Enforcement.point (Enforcement.byDecision decide (some (info "subject")) (some (info "resource")))

/-- Grants what is complete. -/
def permissive : Enforcer Program := Enforcement.point Enforcement.noop

end AccessControl.Authority
