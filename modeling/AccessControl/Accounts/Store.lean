/-
The account store that a realm works with: a register of its own, or a server that it asks.
-/
import AccessControl.Accounts.Client
import AccessControl.Accounts.Register

namespace AccessControl.Accounts

inductive Store
  | register (register : Register)
  /-- A client, the servers that it talks to, and what they have been sent. -/
  | remote (client : Client) (servers : Http.Servers) (sent : List Http.Request)

namespace Store

/-- Answers a call at a moment. -/
def answer (now : Nat) (call : Call) : Store → Answer call.Reply × Store
  | register r => let (answer, r) := r.answer call; (answer, register r)
  | remote client servers sent =>
    let ((answer, client), sent) := (client.answer now call).run servers sent
    (answer, remote client servers sent)

/-- The register, where the store is one. -/
def register? : Store → Option Register
  | register r => some r
  | remote _ _ _ => none

end Store

end AccessControl.Accounts
