/-
The service of users. A user is the record of an account: opening a user opens its account first,
and deleting one archives the account first. Whether a user is locked is asked of its account each
time and never stored.
-/
import AccessControl.Program
import AccessControl.Text.Numeral
import AccessControl.Text.Quoted

namespace AccessControl.Users

open Service

/-- The number of the account that a name of a user stands for. -/
def accountOf? (user : Urn .user) : Option Int := Text.int64? user.name

/-- Goes on only with a name that stands for an account. -/
def named (user : Urn .user) : Service Unit :=
  if (accountOf? user).isSome then return ()
  else throw (.invalidArgument s!"invalid user urn {Text.quoted user.text}")

/-- Stores a record unless there is one of its name. -/
def storeNew (user : User) : Service Unit := do
  match ← attempt (storage (.load .user user.id)) with
  | .ok _ => throw (.conflict "user")
  | .error failure =>
    if failure.isNotFound then storage (.store .user user) else throw failure

/-- Opens an account and stores its record. If the record cannot be stored the account is archived
again, also when the caller has given up, and what comes of that does not matter. -/
def create (username password : String) (attributes : Option Attributes) : Service (Urn .user) :=
  guarded .user do
    let account ← accounts (.create username password false)
    let user := User.ofAccount account username attributes
    match ← attempt (storeNew user) with
    | .ok () => return user.id
    | .error failure =>
      discard (attempt (detached (accounts (.archive account))))
      throw failure

/-- The record with what its account says about locking. -/
def withLock (user : User) : Service User := do
  return { user with locked := some (← accounts (.account user.account)).locked }

def load (user : Urn .user) : Service User := do
  named user
  guarded .user do withLock (← storage (.load .user user))

def withLocks : List User → Service (List User)
  | [] => return []
  | user :: rest => return (← withLock user) :: (← withLocks rest)

def list : Service (List User) :=
  guarded .user do withLocks (← storage (.list .user))

/-- Archives the account, removes the record and tells the subscribers, in this order. -/
def delete (user : Urn .user) : Service Unit := do
  named user
  guarded .user do
    let record : User ← storage (.load .user user)
    accounts (.archive record.account)
    storage (.erase .user user)
    announce user

/-- Locks the account of a user, or unlocks it. -/
def setLocked (user : Urn .user) (locked : Bool) : Service Unit := do
  named user
  guarded .user do
    let record : User ← storage (.load .user user)
    if locked then accounts (.lock record.account) else accounts (.unlock record.account)

/-- Changes the record of a user. -/
def modify (user : Urn .user) (change : User → User) : Service Unit := do
  named user
  guarded .user do
    let record : User ← storage (.load .user user)
    storage (.store .user ({ change record with locked := none } : User))

/-- Puts other attributes in place of all that a user has. -/
def setAttributes (user : Urn .user) (attributes : Attributes) : Service Unit :=
  modify user fun record => { record with attributes := some attributes }

def setAttribute (user : Urn .user) (key : String) (value : Json) : Service Unit :=
  modify user (User.setAttribute key value)

def eraseAttribute (user : Urn .user) (key : String) : Service Unit :=
  modify user (User.eraseAttribute key)

end AccessControl.Users
