/-
A running realm: a storage, an account store, the subscribers to deletions, and the expressions
that decisions have needed so far. It answers the calls of one program after the other; what a
deletion brings about happens after the program that deleted.
-/
import AccessControl.Accounts.Store
import AccessControl.Notices
import AccessControl.Service.Groups
import AccessControl.Storage.Memory
import AccessControl.Storage.Table

namespace AccessControl

namespace Storage

/-- A storage of either kind. -/
inductive Backend
  | memory (memory : Memory)
  | table (table : Table)

def Backend.answer (call : Call) : Backend → Answer call.Reply × Backend
  | memory m => let (answer, m) := m.answer call; (answer, memory m)
  | table t => let (answer, t) := t.answer call; (answer, table t)

end Storage

/-- Who subscribes to deletions of users. -/
inductive Listener
  /-- Takes the user out of its groups. -/
  | reconciler
  /-- Writes down what it hears. -/
  | recorder
deriving DecidableEq, Repr

structure Realm where
  storage : Storage.Backend
  accounts : Accounts.Store
  /-- The second that it is. -/
  now : Nat
  listeners : Notices Listener
  /-- What subscribers have still to do, in the order in which it came up. -/
  pending : List (Nat × Listener × Urn .user)
  /-- What recorders have heard, each with its number. -/
  heard : List (Nat × Urn .user)
  expressions : Matcher

namespace Realm

/-- The number of the subscription by which groups follow deletions. -/
def reconcilerId : Nat := (Notices.none.subscribe Listener.reconciler).1

/-- A realm that has just been started over a storage. -/
def start (storage : Storage.Backend) (accounts : Accounts.Store) (now : Nat) : Realm :=
  { storage, accounts, now, listeners := (Notices.none.subscribe .reconciler).2, pending := [],
    heard := [], expressions := [] }

/-- Answers a call to the storage. -/
def askStorage (call : Storage.Call) (s : Realm) : Answer call.Reply × Realm :=
  let (answer, storage) := s.storage.answer call
  (answer, { s with storage })

/-- Answers a call to the account store. -/
def askAccounts (call : Accounts.Call) (s : Realm) : Answer call.Reply × Realm :=
  let (answer, accounts) := s.accounts.answer s.now call
  (answer, { s with accounts })

/-- A notice gives each subscriber something to do. -/
def announce (user : Urn .user) (s : Realm) : Realm :=
  { s with pending := s.pending ++ s.listeners.audience.map fun l => (l.1, l.2, user) }

/-- Answers a call of a program that runs alone, so that gates are free when it comes to them. Where
the caller has given up nothing is done. -/
def answer (givenUp : Bool) (origin : Origin) (call : Call) (s : Realm) : call.Reply × Realm :=
  let refused := givenUp && origin == .caller
  match call with
  | .enter _ => (if refused then .error .cancelled else .ok (), s)
  | .leave _ => ((), s)
  | .storage call => if refused then (.error .cancelled, s) else s.askStorage call
  | .accounts call => if refused then (.error .cancelled, s) else s.askAccounts call
  | .decide policies request =>
    let (decision, expressions) := Matcher.run (Decision.evaluate policies request) s.expressions
    (decision, { s with expressions })
  | .announce user => ((), s.announce user)

/-- Runs a program and nothing else. -/
def run {α : Type} (givenUp : Bool) (program : Program α) (s : Realm) : α × Realm :=
  program.run (answer givenUp) s

/-- What a subscriber does when it hears of a deletion. -/
def hear (s : Realm) : Nat × Listener × Urn .user → Realm
  | (_, .reconciler, user) => (s.run false (Groups.reconcile user).run).2
  | (id, .recorder, user) => { s with heard := s.heard ++ [(id, user)] }

/-- Lets the subscribers do what they have to do. -/
def settle (s : Realm) : Realm := s.pending.foldl hear { s with pending := [] }

/-- Runs a program, then what it brings about. -/
def perform {α : Type} (givenUp : Bool) (program : Program α) (s : Realm) : α × Realm :=
  let (value, s) := s.run givenUp program
  (value, s.settle)

def subscribe (s : Realm) : Nat × Realm :=
  let (id, listeners) := s.listeners.subscribe .recorder
  (id, { s with listeners })

/-- Ends a subscription; tells whether there was one. -/
def unsubscribe (id : Nat) (s : Realm) : Bool × Realm :=
  let (found, listeners) := s.listeners.unsubscribe id
  (found, { s with listeners })

/-- What recorders have heard, by subscription and user. -/
def notices (s : Realm) : List (Nat × Urn .user) :=
  s.heard.mergeSort fun a b => a.1 < b.1 || (a.1 == b.1 && decide (a.2.text ≤ b.2.text))

/-- The table, where the storage is one. -/
def table? (s : Realm) : Option Storage.Table :=
  match s.storage with
  | .table t => some t
  | .memory _ => none

end Realm

end AccessControl
