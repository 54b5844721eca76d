/-
A storage of either kind keeps memberships as a plain relation would. Main statement: over runs of
inquiries from an empty storage, some of them given up, memory and table give the answers of the
relation, and their two sides mirror each other and hold no empty roster
(`memberships_refine_relation`).
-/
import AccessControl.Proofs.Storage.Rosters
import AccessControl.Realm

namespace AccessControl.Storage

/-! ## The sides of a storage -/

/-- The two sides tell the same pairs, and a name to which none belongs is on neither. -/
structure Memberships.Mirrored (m : Memberships) : Prop where
  mirror : ∀ user group, group ∈ of m.groups user ↔ user ∈ of m.users group
  groups : ∀ e ∈ m.groups, e.2 ≠ []
  users : ∀ e ∈ m.users, e.2 ≠ []

theorem Memberships.Represents.mirrored {m : Memberships} {R : Relation} (h : m.Represents R) :
    m.Mirrored :=
  ⟨fun user group => (h.groups.mem user group).trans (h.users.mem group user).symm,
    h.groups.filled, h.users.filled⟩

/-- The side that the rows of a bucket write down. -/
def Table.side (rows : Rows) (bucket : String) : Answer (Assoc Roster) :=
  (rows.bucket bucket).mapM fun row => return (row.1, ← rosterOf (some row.2))

def Table.sides (t : Table) : Answer Memberships := do
  return ⟨← side t.rows groupsOfUsers, ← side t.rows usersOfGroups⟩

namespace Backend

/-- The two sides of the memberships in a storage. -/
def sides : Backend → Answer Memberships
  | memory m => .ok m.memberships
  | table t => t.sides

/-- What a storage holds of memberships is the relation. -/
def Represents : Backend → Relation → Prop
  | memory m, R => m.memberships.Represents R
  | table t, R => t.Represents R

end Backend

theorem Table.side_of_holds {rows : Rows} {bucket : String} {side : Assoc Roster}
    {rel : String → String → Prop} (hb : rows.bucket bucket = side.mapValues rosterText)
    (h : Memberships.Holds side rel) : Table.side rows bucket = .ok side := by
  have hmap : ∀ l : Assoc Roster, (∀ e ∈ l, e.2.Ascending) →
      (l.mapValues rosterText).mapM (fun row => return (row.1, ← rosterOf (some row.2))) =
        (.ok l : Answer (Assoc Roster)) := fun l hl => by
    induction l with
    | nil => rfl
    | cons e l ih =>
      unfold Assoc.mapValues at ih ⊢
      rw [List.map_cons, List.mapM_cons, ih fun e he => hl e (List.mem_cons_of_mem _ he),
        rosterOf_rosterText (hl e List.mem_cons_self)]
      rfl
  unfold Table.side
  rw [hb, hmap side h.ascending]

namespace Backend

variable {b : Backend} {R : Relation}

theorem Represents.sides (h : b.Represents R) : ∃ m, b.sides = .ok m ∧ m.Represents R := by
  cases b with
  | memory m => exact ⟨_, rfl, h⟩
  | table t =>
    obtain ⟨-, m, hk, hr⟩ := h
    refine ⟨m, ?_, hr⟩
    show t.sides = _
    unfold Table.sides
    rw [Table.side_of_holds hk.groups hr.groups, Table.side_of_holds hk.users hr.users]
    rfl

theorem answer_inquiry (h : b.Represents R) (q : Inquiry) :
    (b.answer q.call).1 = R.answer q ∧ (b.answer q.call).2.Represents (R.after q.call) := by
  cases b with
  | memory m => exact ⟨Memory.answer_inquiry h q, Memory.represents_answer h q.call⟩
  | table t =>
    obtain ⟨ha, hr, -⟩ := Table.answer_inquiry h q
    exact ⟨ha, hr⟩

end Backend

end AccessControl.Storage

namespace AccessControl

open Storage (Inquiry Relation)

/-! ## Runs of inquiries -/

/-- What one inquiry after the other is answered. -/
abbrev Storage.Transcript := List (Σ q : Inquiry, Answer q.call.Reply)

/-- Asks a realm one thing after the other, each under a context that is given up or not. -/
def Realm.inquire (s : Realm) : List (Bool × Inquiry) → Storage.Transcript × Realm
  | [] => ([], s)
  | (givenUp, q) :: rest =>
    let (answer, s) := s.run givenUp (Service.storage q.call).run
    let (answers, s) := s.inquire rest
    (⟨q, answer⟩ :: answers, s)

/-- What a relation answers; to what is given up it says so and stays as it is. -/
def Storage.Relation.inquire (R : Relation) :
    List (Bool × Inquiry) → Storage.Transcript × Relation
  | [] => ([], R)
  | (givenUp, q) :: rest =>
    let (answers, last) := Relation.inquire (if givenUp then R else R.after q.call) rest
    (⟨q, if givenUp then .error .cancelled else R.answer q⟩ :: answers, last)

namespace Realm

variable {s : Realm} {R : Relation}

theorem run_storage (givenUp : Bool) (call : Storage.Call) (s : Realm) :
    s.run givenUp (Service.storage call).run =
      if givenUp then (.error .cancelled, s)
      else ((s.storage.answer call).1, { s with storage := (s.storage.answer call).2 }) := by
  cases givenUp <;> rfl

/-- One inquiry is answered as by the relation, and what is given up changes nothing. -/
theorem run_inquiry (h : s.storage.Represents R) (givenUp : Bool) (q : Inquiry) :
    (s.run givenUp (Service.storage q.call).run).1 =
        (if givenUp then .error .cancelled else R.answer q) ∧
      (s.run givenUp (Service.storage q.call).run).2.storage.Represents
        (if givenUp then R else R.after q.call) := by
  rw [run_storage]
  cases givenUp with
  | true => exact ⟨rfl, h⟩
  | false => exact Storage.Backend.answer_inquiry h q

theorem inquire_refines (inquiries : List (Bool × Inquiry)) (h : s.storage.Represents R) :
    (s.inquire inquiries).1 = (R.inquire inquiries).1 ∧
      (s.inquire inquiries).2.storage.Represents (R.inquire inquiries).2 := by
  induction inquiries generalizing s R with
  | nil => exact ⟨rfl, h⟩
  | cons i rest ih =>
    obtain ⟨givenUp, q⟩ := i
    obtain ⟨ha, hr⟩ := run_inquiry h givenUp q
    obtain ⟨has, hrs⟩ := ih hr
    exact ⟨congrArg₂ (fun a as => (⟨q, a⟩ :: as : Storage.Transcript)) ha has, hrs⟩

/-- From the start of a realm on, a run of inquiries is answered as by the empty relation. After it
the sides of the storage mirror each other without an empty roster and tell the pairs of the
relation, and an inquiry that is given up is refused and leaves the realm as it is. -/
structure KeepsRelation (s : Realm) (inquiries : List (Bool × Inquiry)) : Prop where
  answers : (s.inquire inquiries).1 = (Relation.inquire ∅ inquiries).1
  sides : ∃ m, (s.inquire inquiries).2.storage.sides = .ok m ∧ m.Mirrored ∧
    ∀ user group, group ∈ Storage.Memberships.of m.groups user ↔
      (user, group) ∈ (Relation.inquire ∅ inquiries).2
  givenUp : ∀ q : Inquiry, (s.inquire inquiries).2.run true (Service.storage q.call).run =
    (.error .cancelled, (s.inquire inquiries).2)

theorem keepsRelation (inquiries : List (Bool × Inquiry)) (h : s.storage.Represents ∅) :
    s.KeepsRelation inquiries := by
  obtain ⟨ha, hr⟩ := inquire_refines inquiries h
  obtain ⟨m, hm, hrep⟩ := hr.sides
  exact ⟨ha, ⟨m, hm, hrep.mirrored, hrep.groups.mem⟩, fun q => run_storage true q.call _⟩

/-- Memory and table keep memberships as a plain relation. -/
theorem memberships_refine_relation (accounts : Accounts.Store) (now : Nat)
    (inquiries : List (Bool × Inquiry)) :
    (start (.memory .empty) accounts now).KeepsRelation inquiries ∧
      (start (.table .empty) accounts now).KeepsRelation inquiries :=
  ⟨keepsRelation inquiries Storage.Memberships.Represents.none,
    keepsRelation inquiries Storage.Table.Represents.empty⟩

end Realm

end AccessControl
