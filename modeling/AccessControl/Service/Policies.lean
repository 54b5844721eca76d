/-
The service of policies. A policy is stored under its name, in place of one that is there.
-/
import AccessControl.Program
import AccessControl.Text.Quoted

namespace AccessControl.Policies

open Service

/-- Goes on only with a text that names a policy. -/
def named (policy : Urn .policy) : Service Unit :=
  if policy.name.isEmpty then
    throw (.invalidArgument s!"invalid policy urn {Text.quoted policy.text}")
  else return ()

def create (name : String) (policy : Policy) : Service (Urn .policy) := do
  if name.isEmpty then throw (.invalidArgument "policy name is required")
  let id := Urn.ofLocal .policy name
  if id.name != name then
    throw (.invalidArgument s!"invalid policy name {Text.quoted name}")
  guarded .policy do
    storage (.store .policy ({ policy with id } : Policy))
    return id

def delete (id : Urn .policy) : Service Unit := do
  named id
  guarded .policy (storage (.erase .policy id))

def load (id : Urn .policy) : Service Policy := do
  named id
  guarded .policy (storage (.load .policy id))

/-- Stores a policy under a name; what it says about its name does not matter. -/
def update (id : Urn .policy) (policy : Policy) : Service Unit := do
  named id
  guarded .policy (storage (.store .policy ({ policy with id } : Policy)))

def list : Service (List Policy) := guarded .policy (storage (.list .policy))

/-- A part of the listing; only the whole of it, from zero and without a limit, can be had. -/
def listPage (limit offset : Nat) : Service (List Policy) :=
  if limit = 0 ∧ offset = 0 then list
  else throw (.notImplemented "paginated policy listing")

end AccessControl.Policies
