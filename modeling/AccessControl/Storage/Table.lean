/-
A storage that keeps texts: rows of a bucket and a key with a text, which transactions change as a
whole or not at all. Records stand in it as JSON, one bucket for each kind, and memberships as JSON
lists from both sides. Main statements: which row is where after a write (`Rows.text?_write`,
`Rows.text?_remove`), and that a transaction that fails changes nothing (`Table.transact_failed`).
-/
import AccessControl.Storage

namespace AccessControl.Storage

/-- The texts by bucket and key. -/
abbrev Rows := Assoc (Assoc String)

namespace Rows

/-- The rows of a bucket, ascending by key. -/
def bucket (rows : Rows) (bucket : String) : Assoc String := (Assoc.get? rows bucket).getD []

def text? (rows : Rows) (bucket key : String) : Option String := (rows.bucket bucket).get? key

def write (rows : Rows) (bucket key text : String) : Rows :=
  Assoc.put bucket ((rows.bucket bucket).put key text) rows

def remove (rows : Rows) (bucket key : String) : Rows :=
  Assoc.put bucket ((rows.bucket bucket).erase key) rows

theorem bucket_put (rows : Rows) (b c : String) (texts : Assoc String) :
    Rows.bucket (Assoc.put b texts rows) c = if b = c then texts else rows.bucket c := by
  unfold bucket
  rw [Assoc.get?_put]
  split <;> rfl

/-- After a write its row holds the text written, and every other row what it held. -/
theorem text?_write (rows : Rows) (b key text c k : String) :
    (rows.write b key text).text? c k = if b = c ∧ key = k then some text else rows.text? c k := by
  unfold text? write
  rw [bucket_put]
  by_cases hb : b = c
  · subst hb
    simp [Assoc.get?_put]
  · simp [hb]

theorem text?_remove (rows : Rows) (b key c k : String) :
    (rows.remove b key).text? c k = if b = c ∧ key = k then none else rows.text? c k := by
  unfold text? remove
  rw [bucket_put]
  by_cases hb : b = c
  · subst hb
    simp [Assoc.get?_erase]
  · simp [hb]

end Rows

/-- Steps on rows that take effect together, or not at all when one of them fails. -/
abbrev Transaction := StateT Rows (Except Failure)

namespace Transaction

def read (bucket key : String) : Transaction (Option String) :=
  return (← get).text? bucket key

def write (bucket key text : String) : Transaction Unit :=
  modify fun rows => rows.write bucket key text

/-- Removes a row; tells whether there was one. -/
def remove (bucket key : String) : Transaction Bool := do
  let found := ((← get).text? bucket key).isSome
  modify fun rows => rows.remove bucket key
  return found

end Transaction

structure Table where
  rows : Rows
  isOpen : Bool
deriving Repr

namespace Table

def empty : Table := ⟨[], true⟩

def close (t : Table) : Table := { t with isOpen := false }

/-- The table with its rows, opened anew. -/
def reopen (t : Table) : Table := { t with isOpen := true }

/-- Nothing can be done with a table that has been closed. -/
def closed (operation : String) : Failure := .internal s!"kv {operation}: store closed"

/-- What `look` finds in the rows. -/
def peek {α : Type} (t : Table) (operation : String) (look : Rows → α) : Answer α :=
  if t.isOpen then .ok (look t.rows) else .error (closed operation)

def text? (t : Table) (bucket key : String) : Answer (Option String) :=
  t.peek "get" fun rows => rows.text? bucket key

def scan (t : Table) (bucket : String) : Answer (List (String × String)) :=
  t.peek "scan" fun rows => rows.bucket bucket

/-- Runs a transaction: its changes stay if it does not fail. -/
def transact {α : Type} (t : Table) (steps : Transaction α) : Answer α × Table :=
  if t.isOpen then
    match steps.run t.rows with
    | .ok (value, rows) => (.ok value, { t with rows })
    | .error failure => (.error failure, t)
  else (.error (closed "begin"), t)

theorem transact_failed {α : Type} {t : Table} {steps : Transaction α} {failure : Failure}
    (h : (t.transact steps).1 = .error failure) : (t.transact steps).2 = t := by
  unfold transact at h ⊢
  by_cases ho : t.isOpen
  · cases hs : steps.run t.rows <;> simp_all
  · simp [ho]

/-! ## Records and rosters as texts -/

def bucketOf : Kind → String
  | .user => "iam-v1-users"
  | .group => "iam-v1-groups"
  | .policy => "iam-v1-policies"

def groupsOfUsers : String := "iam-v1-membership-users"

def usersOfGroups : String := "iam-v1-membership-groups"

/-- A text in the table that is not what stands there. -/
def undecodable : Failure := .internal s!"encoding: {Failure.details}"

def decode {α : Type} (decoder : Json.Decoder α) (text : String) : Answer α :=
  match Json.Decoder.decode decoder text with
  | .ok value => .ok value
  | .error _ => .error undecodable

/-- The roster that a text holds; no text is an empty one. -/
def rosterOf (text : Option String) : Answer Roster :=
  match text with
  | some text => return Roster.ofList (← decode (Json.Decoder.list Json.Decoder.text) text)
  | none => .ok []

def rosterText (names : Roster) : String := (Json.array (names.map .text)).render

/-- All records of a bucket, or the failure of the first row that holds none. -/
def recordsOf (k : Kind) (rows : List (String × String)) : Answer (List (Record k)) :=
  rows.mapM fun row => return (← decode (Record.decoder k) row.2).listed ⟨row.1⟩

namespace Membership

open Transaction

def readRoster (bucket key : String) : Transaction Roster := do rosterOf (← read bucket key)

/-- Writes a roster; an empty one has no row. -/
def writeRoster (bucket key : String) (names : Roster) : Transaction Unit := do
  if names.isEmpty then discard (remove bucket key) else write bucket key (rosterText names)

def join (user group : String) : Transaction Unit := do
  let groups ← readRoster groupsOfUsers user
  let users ← readRoster usersOfGroups group
  unless groups.contains group && users.contains user do
    writeRoster groupsOfUsers user (groups.insert group)
    writeRoster usersOfGroups group (users.insert user)

def part (user group : String) : Transaction Unit := do
  let groups ← readRoster groupsOfUsers user
  unless groups.contains group do throw noMember
  let users ← readRoster usersOfGroups group
  writeRoster groupsOfUsers user (groups.erase group)
  writeRoster usersOfGroups group (users.erase user)

/-- Takes a group out of the groups of each of the users. -/
def retract (group : String) : List String → Transaction Unit
  | [] => return ()
  | user :: rest => do
    writeRoster groupsOfUsers user ((← readRoster groupsOfUsers user).erase group)
    retract group rest

def disband (group : String) : Transaction Roster := do
  let users ← readRoster usersOfGroups group
  retract group users
  discard (remove usersOfGroups group)
  return users

end Membership

/-! ## The storage -/

/-- Answers a call, and tells what the table holds after it. -/
def answer (t : Table) : (call : Call) → Answer call.Reply × Table
  | .load k id =>
    match t.text? (bucketOf k) id.text with
    | .ok (some text) => (decode (Record.decoder k) text, t)
    | .ok none => (.error (missing k), t)
    | .error failure => (.error failure, t)
  | .store k record =>
    t.transact (Transaction.write (bucketOf k) record.id.text record.toJson.render)
  | .erase k id =>
    match t.transact (Transaction.remove (bucketOf k) id.text) with
    | (.ok true, t) => (.ok (), t)
    | (.ok false, t) => (.error (missing k), t)
    | (.error failure, t) => (.error failure, t)
  | .list k => (t.scan (bucketOf k) >>= recordsOf k, t)
  | .join user group => t.transact (Membership.join user.text group.text)
  | .part user group => t.transact (Membership.part user.text group.text)
  | .disband group =>
    match t.transact (Membership.disband group.text) with
    | (.ok users, t) => (.ok (urns users), t)
    | (.error failure, t) => (.error failure, t)
  | .memberships user => (urns <$> (t.text? groupsOfUsers user.text >>= rosterOf), t)
  | .members group => (urns <$> (t.text? usersOfGroups group.text >>= rosterOf), t)

end Table

end AccessControl.Storage
