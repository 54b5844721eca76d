/-
A storage in memory: the records as they are, and the memberships from both sides. Main statements:
what a side holds after a write (`mem_of_link`, `mem_of_unlink`), and that records of one kind are
not touched by writes of another (`records_setRecords`).
-/
import AccessControl.Storage

namespace AccessControl.Storage

/-! ## Memberships -/

/-- The groups of each user and the users of each group; a name with none of them is left out. -/
structure Memberships where
  groups : Assoc Roster
  users : Assoc Roster
deriving Repr

namespace Memberships

def none : Memberships := ⟨[], []⟩

/-- The names that belong to a name. -/
def of (side : Assoc Roster) (name : String) : Roster := (side.get? name).getD []

def link (side : Assoc Roster) (name other : String) : Assoc Roster :=
  side.put name ((of side name).insert other)

def unlink (side : Assoc Roster) (name other : String) : Assoc Roster :=
  match side.get? name with
  | some others =>
    let rest := others.erase other
    if rest.isEmpty then side.erase name else side.put name rest
  | .none => side

def join (m : Memberships) (user group : String) : Memberships :=
  ⟨link m.groups user group, link m.users group user⟩

def part (m : Memberships) (user group : String) : Memberships :=
  ⟨unlink m.groups user group, unlink m.users group user⟩

/-- Ends the memberships of a group, and tells the users that belonged to it. -/
def disband (m : Memberships) (group : String) : Roster × Memberships :=
  let users := of m.users group
  (users, ⟨users.foldl (fun side user => unlink side user group) m.groups, m.users.erase group⟩)

theorem mem_of_link {side : Assoc Roster} {name other n m : String} :
    m ∈ of (link side name other) n ↔ (n = name ∧ m = other) ∨ m ∈ of side n := by
  unfold link of
  rw [Assoc.get?_put]
  by_cases h : name = n
  · subst h
    simp [Roster.mem_insert]
  · simp [h, Ne.symm h]

theorem mem_of_unlink {side : Assoc Roster} {name other n m : String} :
    m ∈ of (unlink side name other) n ↔ m ∈ of side n ∧ ¬(n = name ∧ m = other) := by
  unfold unlink of
  cases hs : side.get? name with
  | none =>
    by_cases h : n = name
    · subst h
      simp [hs]
    · simp [h]
  | some others =>
    by_cases h : n = name
    · subst h
      by_cases he : (others.erase other).isEmpty
      · have hn : ∀ x, x ∈ others → x = other := fun x hx => Decidable.byContradiction fun hne => by
          have := Roster.mem_erase.mpr ⟨hx, hne⟩
          rw [List.isEmpty_iff.mp he] at this
          cases this
        simp only [he, if_true, Assoc.get?_erase, Option.getD_none, List.not_mem_nil, hs,
          Option.getD_some, true_and, false_iff, not_and, Decidable.not_not]
        exact hn m
      · simp [he, Assoc.get?_put, hs, Roster.mem_erase]
    · by_cases he : (others.erase other).isEmpty
      · simp [he, Assoc.get?_erase, h, Ne.symm h]
      · simp [he, Assoc.get?_put, h, Ne.symm h]

end Memberships

/-! ## The storage -/

structure Memory where
  users : Assoc User
  groups : Assoc Group
  policies : Assoc Policy
  memberships : Memberships
deriving Repr

namespace Memory

def empty : Memory := ⟨[], [], [], .none⟩

/-- The records of a kind by name. -/
def records (m : Memory) : (k : Kind) → Assoc (Record k)
  | .user => m.users
  | .group => m.groups
  | .policy => m.policies

def setRecords (m : Memory) : (k : Kind) → Assoc (Record k) → Memory
  | .user, users => { m with users }
  | .group, groups => { m with groups }
  | .policy, policies => { m with policies }

theorem records_setRecords (m : Memory) (k : Kind) (records : Assoc (Record k)) (l : Kind) :
    (m.setRecords k records).records l = if h : k = l then h ▸ records else m.records l := by
  cases k <;> cases l <;> rfl

/-- Answers a call, and tells what the memory holds after it. -/
def answer (m : Memory) : (call : Call) → Answer call.Reply × Memory
  | .load k id =>
    match (m.records k).get? id.text with
    | some record => (.ok record, m)
    | none => (.error (missing k), m)
  | .store k record => (.ok (), m.setRecords k ((m.records k).put record.id.text record))
  | .erase k id =>
    if (m.records k).has id.text then (.ok (), m.setRecords k ((m.records k).erase id.text))
    else (.error (missing k), m)
  | .list k => (.ok ((m.records k).map fun e => e.2.listed ⟨e.1⟩), m)
  | .join user group => (.ok (), { m with memberships := m.memberships.join user.text group.text })
  | .part user group =>
    if (Memberships.of m.memberships.groups user.text).contains group.text then
      (.ok (), { m with memberships := m.memberships.part user.text group.text })
    else (.error noMember, m)
  | .disband group =>
    let (users, memberships) := m.memberships.disband group.text
    (.ok (urns users), { m with memberships })
  | .memberships user => (.ok (urns (Memberships.of m.memberships.groups user.text)), m)
  | .members group => (.ok (urns (Memberships.of m.memberships.users group.text)), m)

end Memory

end AccessControl.Storage
