/-
An account store of its own: accounts with passwords, and the tokens handed out for them. A token
verifies as long as its account is neither locked nor archived.
-/
import AccessControl.Accounts
import AccessControl.Assoc

namespace AccessControl.Accounts

/-- An account with the password that opens it. -/
structure Holder where
  account : Account
  password : String
deriving DecidableEq, Repr

structure Register where
  /-- The largest number given so far. -/
  lastId : Int
  /-- The accounts in the order of their numbers. -/
  holders : List Holder
  /-- The numbers of the accounts that tokens were handed out for. -/
  tokens : Assoc Int
  /-- The store refuses to archive accounts for now. -/
  refusesArchive : Bool
deriving Repr

namespace Register

def empty : Register := ⟨0, [], [], false⟩

def unknown : Failure := .notFound "account"

/-- The account with a number. -/
def account? (r : Register) (id : Int) : Option Account :=
  (r.holders.map Holder.account).find? fun a => a.id == id

/-- The account that has a name and is not archived, with its password. -/
def live? (r : Register) (username : String) : Option Holder :=
  r.holders.find? fun h => h.account.username == username && !h.account.archived

def create (r : Register) (username password : String) (locked : Bool) : Answer Int × Register :=
  if username.isEmpty then (.error (.invalidArgument "username is required"), r)
  else if (r.live? username).isSome then (.error (.conflict "account"), r)
  else
    let id := r.lastId + 1
    (.ok id, { r with
      lastId := id
      holders := r.holders ++ [⟨⟨id, username, locked, false⟩, password⟩] })

/-- Changes the account with a number. -/
def change (r : Register) (id : Int) (f : Account → Account) : Answer Unit × Register :=
  if (r.account? id).isSome then
    (.ok (), { r with
      holders := r.holders.map fun h =>
        if h.account.id == id then { h with account := f h.account } else h })
  else (.error unknown, r)

/-- Whose token it is, by the number of the account. -/
def subject (r : Register) (token : String) : Answer String :=
  match r.tokens.get? token with
  | none => .error (.unauthenticated "unknown token")
  | some id =>
    match r.account? id with
    | some account =>
      if account.archived || account.locked then .error (.unauthenticated "account disabled")
      else .ok (toString id)
    | none => .error (.unauthenticated "account disabled")

/-- Answers a call, and tells what the register holds after it. -/
def answer (r : Register) : (call : Call) → Answer call.Reply × Register
  | .create username password locked => r.create username password locked
  | .account id =>
    match r.account? id with
    | some account => (.ok account, r)
    | none => (.error unknown, r)
  | .lock id => r.change id fun account => { account with locked := true }
  | .unlock id => r.change id fun account => { account with locked := false }
  | .archive id =>
    if r.refusesArchive then (.error (.internal "archive rejected by account store"), r)
    else r.change id fun account => { account with archived := true }
  | .subject token => (r.subject token, r)

/-- Hands out a token for an account. -/
def issue (r : Register) (id : Int) (token : String) : Answer Unit × Register :=
  if (r.account? id).isSome then (.ok (), { r with tokens := r.tokens.put token id })
  else (.error unknown, r)

/-- Hands out a token to whoever knows the password of the account that is in use under a name. -/
def login (r : Register) (username password token : String) : Answer Unit × Register :=
  match (r.live? username).filter fun h => h.password == password with
  | some h => r.issue h.account.id token
  | none => (.error (.unauthenticated "invalid credentials"), r)

end Register

end AccessControl.Accounts
