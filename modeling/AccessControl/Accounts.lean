/-
What can be asked of an account store: to open, lock and archive accounts, and whose token it is
that a caller shows.
-/
import AccessControl.Account
import AccessControl.Failure

namespace AccessControl.Accounts

/-- A call to an account store. -/
inductive Call
  /-- Opens an account. -/
  | create (username password : String) (locked : Bool)
  | account (id : Int)
  | lock (id : Int)
  | unlock (id : Int)
  /-- Ends an account for good; its tokens no longer verify. -/
  | archive (id : Int)
  /-- The subject of a token that verifies. -/
  | subject (token : String)
deriving DecidableEq, Repr

/-- What a call answers when it does not fail. -/
def Call.Reply : Call → Type
  | create _ _ _ => Int
  | account _ => Account
  | lock _ => Unit
  | unlock _ => Unit
  | archive _ => Unit
  | subject _ => String

end AccessControl.Accounts
