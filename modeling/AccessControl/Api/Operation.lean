/-
Operations of the interface: which one a request asks for, what a caller needs to be granted for it,
and what it does. Each operation on an entity asks for a grant on that entity, each one on all of a
kind for a grant on the name without a local part.
-/
import AccessControl.Api.Body
import AccessControl.Api.MediaType
import AccessControl.Api.Request
import AccessControl.Api.Response
import AccessControl.Service.Groups
import AccessControl.Service.Policies
import AccessControl.Text.Percent

namespace AccessControl.Api

/-! ## Paths -/

/-- A place in the interface, with the segments of its path that are free. -/
inductive Place
  | whoami
  | users
  | user (id : String)
  | locked (id : String)
  | allAttributes (id : String)
  | oneAttribute (id key : String)
  | groups
  | group (id : String)
  | members (id : String)
  | member (id user : String)
  | policies
  | policy (id : String)
deriving DecidableEq, Repr

namespace Place

/-- The place of a path; free segments are not empty. -/
def ofPath? (path : List String) : Option Place :=
  if path.any String.isEmpty then none
  else match path with
    | ["v1", "whoami"] => some whoami
    | ["v1", "users"] => some users
    | ["v1", "users", id] => some (user id)
    | ["v1", "users", id, "locked"] => some (locked id)
    | ["v1", "users", id, "attrs"] => some (allAttributes id)
    | ["v1", "users", id, "attrs", key] => some (oneAttribute id key)
    | ["v1", "groups"] => some groups
    | ["v1", "groups", id] => some (group id)
    | ["v1", "groups", id, "members"] => some (members id)
    | ["v1", "groups", id, "members", who] => some (member id who)
    | ["v1", "policies"] => some policies
    | ["v1", "policies", id] => some (policy id)
    | _ => none

end Place

/-! ## Operations -/

inductive Operation
  | whoami
  | listUsers
  | createUser (user : NewUser)
  | loadUser (user : Urn .user)
  | deleteUser (user : Urn .user)
  | setLocked (user : Urn .user) (locked : Bool)
  | setAttributes (user : Urn .user) (attributes : Attributes)
  | setAttribute (user : Urn .user) (key : String) (value : Json)
  | eraseAttribute (user : Urn .user) (key : String)
  | listGroups
  | createGroup (group : NewGroup)
  | loadGroup (group : Urn .group)
  | setComment (group : Urn .group) (comment : NewComment)
  | deleteGroup (group : Urn .group)
  | listMembers (group : Urn .group)
  | addMember (group : Urn .group) (user : Urn .user)
  | removeMember (group : Urn .group) (user : Urn .user)
  | listPolicies (limit offset : Nat)
  | createPolicy (policy : NewPolicy)
  | loadPolicy (policy : Urn .policy)
  | updatePolicy (id : Urn .policy) (policy : Policy)
  | deletePolicy (policy : Urn .policy)

namespace Operation

/-- What is wrong with a request. -/
inductive Fault
  /-- There is nothing at its path. -/
  | unknownPath
  /-- What is there does not know its method. -/
  | unknownMethod
  /-- A part of its path, its query or its body is malformed. -/
  | malformed
  /-- Its body is not said to be JSON. -/
  | notJson
  /-- Its body is JSON of another shape. -/
  | mismatched
deriving DecidableEq, Repr

def Fault.status : Fault → Nat
  | unknownPath => 404
  | unknownMethod => 405
  | malformed => 400
  | notJson => 415
  | mismatched => 422

/-- The name of an entity by a segment of a path. -/
def entity (k : Kind) (segment : String) : Except Fault (Urn k) :=
  match Text.Percent.decode? segment with
  | some name => .ok (.ofLocal k name)
  | none => .error .malformed

def word (segment : String) : Except Fault String :=
  match Text.Percent.decode? segment with
  | some word => .ok word
  | none => .error .malformed

/-- What the body of a request holds; text after the first value in it does not matter. -/
def body {α : Type} (decoder : Json.Decoder α) (request : Request) : Except Fault α :=
  if (request.contentType.map MediaType.isJson).getD false then
    match Json.Decoder.decodeFirst decoder request.body with
    | .ok value => .ok value
    | .error .malformed => .error .malformed
    | .error .mismatched => .error .mismatched
  else .error .notJson

/-- The number that a query gives under a name: none is zero, and there may be at most one. -/
def number (fields : List (String × String)) (name : String) : Except Fault Nat :=
  match fields.filter fun e => e.1 == name with
  | [] => .ok 0
  | [(_, text)] =>
    match Text.word64? text with
    | some n => .ok n
    | none => .error .malformed
  | _ => .error .malformed

/-- The operation that a method asks for at a place. -/
def ofPlace (place : Place) (method : Method) (request : Request) : Except Fault Operation :=
  match place, method with
  | .whoami, .get => return whoami
  | .users, .get => return listUsers
  | .users, .post => return createUser (← body NewUser.decoder request)
  | .user id, .get => return loadUser (← entity .user id)
  | .user id, .delete => return deleteUser (← entity .user id)
  | .locked id, .put => return setLocked (← entity .user id) true
  | .locked id, .delete => return setLocked (← entity .user id) false
  | .allAttributes id, .put => do
    let user ← entity .user id
    return setAttributes user (← body (Json.Decoder.map Json.Decoder.json) request)
  | .oneAttribute id key, .put => do
    let user ← entity .user id
    let key ← word key
    return setAttribute user key (← body Json.Decoder.json request)
  | .oneAttribute id key, .delete => return eraseAttribute (← entity .user id) (← word key)
  | .groups, .get => return listGroups
  | .groups, .post => return createGroup (← body NewGroup.decoder request)
  | .group id, .get => return loadGroup (← entity .group id)
  | .group id, .put => changeComment id
  | .group id, .patch => changeComment id
  | .group id, .delete => return deleteGroup (← entity .group id)
  | .members id, .get => return listMembers (← entity .group id)
  | .member id user, .put => return addMember (← entity .group id) (← entity .user user)
  | .member id user, .delete => return removeMember (← entity .group id) (← entity .user user)
  | .policies, .get => do
    let fields := Text.Percent.fields request.query
    return listPolicies (← number fields "limit") (← number fields "offset")
  | .policies, .post => return createPolicy (← body NewPolicy.decoder request)
  | .policy id, .get => return loadPolicy (← entity .policy id)
  | .policy id, .put => do
    let id ← entity .policy id
    return updatePolicy id (← body Policy.decoder request)
  | .policy id, .delete => return deletePolicy (← entity .policy id)
  | _, _ => .error .unknownMethod
where
  changeComment (id : String) : Except Fault Operation := do
    let group ← entity .group id
    return setComment group (← body NewComment.decoder request)

/-- The operation that a request asks for. -/
def ofRequest (request : Request) : Except Fault Operation :=
  match Place.ofPath? request.path with
  | some place =>
    ofPlace place (if request.method = .head then .get else request.method) request
  | none => .error .unknownPath

/-! ## Grants -/

/-- The name that stands for all entities of a kind. -/
def all (k : Kind) : String := Urn.compose k ""

/-- The action that a caller needs to be granted and on what; to ask who one is needs no grant. -/
def permission : Operation → Option (String × String)
  | whoami => none
  | listUsers => some ("iam:user:list", all .user)
  | createUser _ => some ("iam:user:write", all .user)
  | loadUser user => some ("iam:user:load", user.text)
  | deleteUser user => some ("iam:user:delete", user.text)
  | setLocked user _ => some ("iam:user:lock-unlock", user.text)
  | setAttributes user _ => some ("iam:user:write-attr", user.text)
  | setAttribute user _ _ => some ("iam:user:write-attr", user.text)
  | eraseAttribute user _ => some ("iam:user:write-attr", user.text)
  | listGroups => some ("iam:groups.read", all .group)
  | createGroup _ => some ("iam:groups.write", all .group)
  | loadGroup group => some ("iam:groups.read", group.text)
  | setComment group _ => some ("iam:groups.write", group.text)
  | deleteGroup group => some ("iam:groups.write", group.text)
  | listMembers group => some ("iam:groups.read", group.text)
  | addMember group _ => some ("iam:groups.write", group.text)
  | removeMember group _ => some ("iam:groups.write", group.text)
  | listPolicies _ _ => some ("iam:policy:list", all .policy)
  | createPolicy _ => some ("iam:policy:write", all .policy)
  | loadPolicy policy => some ("iam:policy:load", policy.text)
  | updatePolicy id _ => some ("iam:policy:write", id.text)
  | deletePolicy policy => some ("iam:policy:delete", policy.text)

/-! ## What operations do -/

/-- The record of an entity, with a status. -/
def record (status : Nat) {k : Kind} (service : Service (Record k)) : Service Response :=
  return .withBody status (← service).toJson

def items {α : Type} (write : α → Json) (service : Service (List α)) : Service Response :=
  return .withBody 200 (.object [("items", .array ((← service).map write))])

/-- Something that is done and needs no answer. -/
def accepted (service : Service Unit) : Service Response := do
  service
  return .bare 202

/-- What an operation does for a subject and answers if nothing fails. Something new is loaded again
to be answered. -/
def perform (subject : Urn .user) : Operation → Service Response
  | whoami => return .withBody 200 (.object [("subject", .text subject.text)])
  | listUsers => items User.toJson Users.list
  | createUser user => record (k := .user) 201 do
    Users.load (← Users.create user.username user.password user.attributes)
  | loadUser user => record (k := .user) 200 (Users.load user)
  | deleteUser user => accepted (Users.delete user)
  | setLocked user locked => accepted (Users.setLocked user locked)
  | setAttributes user attributes => accepted (Users.setAttributes user attributes)
  | setAttribute user key value => accepted (Users.setAttribute user key value)
  | eraseAttribute user key => accepted (Users.eraseAttribute user key)
  | listGroups => items Group.toJson Groups.list
  | createGroup group => record (k := .group) 201 do
    Groups.load (← Groups.create group.name group.comment)
  | loadGroup group => record (k := .group) 200 (Groups.load group)
  | setComment group new => accepted (Groups.setComment group new.comment)
  | deleteGroup group => accepted (Groups.delete group)
  | listMembers group => items (fun user => .text user.text) (Groups.members group)
  | addMember group user => accepted (Groups.addMember group user)
  | removeMember group user => accepted (Groups.removeMember group user)
  | listPolicies limit offset => items Policy.toJson (Policies.listPage limit offset)
  | createPolicy new => record (k := .policy) 201 do
    Policies.load (← Policies.create new.name new.policy)
  | loadPolicy policy => record (k := .policy) 200 (Policies.load policy)
  | updatePolicy id policy => accepted (Policies.update id policy)
  | deletePolicy policy => accepted (Policies.delete policy)

end Operation

end AccessControl.Api
