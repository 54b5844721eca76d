/-
What a storage keeps under a name. Main statements: a call changes only the entry that it writes
(`Backend.entry_answer`), and where a record is said to be missing there is no entry
(`Backend.entry_of_missing`). Nothing is asked of a table here but what its rows hold.
-/
import AccessControl.Proofs.Storage.Names

namespace AccessControl.Storage

/-- A record, or the text of one. -/
inductive Entry (k : Kind)
  | record (record : Record k)
  | text (text : String)

/-- The call stores or erases the record of a name. -/
def Call.Writes (k : Kind) (name : String) : Call → Prop
  | store l record => k = l ∧ name = record.id.text
  | erase l id => k = l ∧ name = id.text
  | load _ _ | list _ | join _ _ | part _ _ | disband _ | memberships _ | members _ => False

/-! ## Memory -/

namespace Memory

theorem get?_store (m : Memory) (l : Kind) (record : Record l) {k : Kind} {name : String}
    (h : ¬ Call.Writes k name (.store l record)) :
    ((m.answer (.store l record)).2.records k).get? name = (m.records k).get? name := by
  simp only [answer, records_setRecords]
  by_cases hk : l = k
  · subst hk
    have hname : record.id.text ≠ name := fun hname => h ⟨rfl, hname.symm⟩
    simp [Assoc.get?_put, hname]
  · simp [hk]

theorem get?_erase (m : Memory) (l : Kind) (id : Urn l) {k : Kind} {name : String}
    (h : ¬ Call.Writes k name (.erase l id)) :
    ((m.answer (.erase l id)).2.records k).get? name = (m.records k).get? name := by
  simp only [answer]
  split
  · rw [records_setRecords]
    by_cases hk : l = k
    · subst hk
      have hname : id.text ≠ name := fun hname => h ⟨rfl, hname.symm⟩
      simp [Assoc.get?_erase, hname]
    · simp [hk]
  · rfl

/-- A call that does not write a record leaves it as it is. -/
theorem get?_answer (m : Memory) {call : Call} {k : Kind} {name : String}
    (h : ¬ call.Writes k name) :
    ((m.answer call).2.records k).get? name = (m.records k).get? name := by
  cases call with
  | store l record => exact m.get?_store l record h
  | erase l id => exact m.get?_erase l id h
  | load l id => simp only [answer]; split <;> rfl
  | part user group => simp only [answer]; split <;> cases k <;> rfl
  | list _ | memberships _ | members _ => rfl
  | join _ _ | disband _ => cases k <;> rfl

end Memory

/-! ## Transactions -/

/-- However a transaction ends, a row stays as it is. -/
def Transaction.Keeps {α : Type} (bucket key : String) (steps : Transaction α) : Prop :=
  ∀ rows value rows', steps.run rows = .ok (value, rows') →
    rows'.text? bucket key = rows.text? bucket key

namespace Transaction

variable {α β : Type} {bucket key : String}

theorem keeps_pure (value : α) : Keeps bucket key (pure value : Transaction α) := by
  intro rows value rows' h
  cases h
  rfl

theorem Keeps.bind {first : Transaction α} {next : α → Transaction β} (h : first.Keeps bucket key)
    (hnext : ∀ a, (next a).Keeps bucket key) : (first >>= next).Keeps bucket key := by
  intro rows value rows' hrun
  obtain ⟨⟨a, middle⟩, hfirst, hrest⟩ := bind_ok_iff.1 hrun
  exact (hnext a _ _ _ hrest).trans (h _ _ _ hfirst)

theorem keeps_throw (failure : Failure) : (throw failure : Transaction α).Keeps bucket key := by
  intro rows value rows' h
  cases h

theorem keeps_answer (answer : Answer α) : (liftM answer : Transaction α).Keeps bucket key := by
  intro rows value rows' h
  cases answer with
  | error failure => cases h
  | ok a => cases h; rfl

theorem keeps_read (b k : String) : (read b k).Keeps bucket key := by
  intro rows value rows' h
  cases h
  rfl

theorem keeps_write {b k : String} (hrow : ¬(b = bucket ∧ k = key)) (text : String) :
    (write b k text).Keeps bucket key := by
  intro rows value rows' h
  cases h
  rw [Rows.text?_write, if_neg hrow]

theorem keeps_remove {b k : String} (hrow : ¬(b = bucket ∧ k = key)) :
    (remove b k).Keeps bucket key := by
  intro rows value rows' h
  cases h
  rw [Rows.text?_remove, if_neg hrow]

end Transaction

namespace Table.Membership

open Transaction

variable {k : Kind} {name : String}

theorem groupsOfUsers_row (k : Kind) {key name : String} :
    ¬(groupsOfUsers = bucketOf k ∧ key = name) := fun h => groupsOfUsers_ne k h.1

theorem usersOfGroups_row (k : Kind) {key name : String} :
    ¬(usersOfGroups = bucketOf k ∧ key = name) := fun h => usersOfGroups_ne k h.1

theorem keeps_readRoster (b key : String) : (readRoster b key).Keeps (bucketOf k) name :=
  (keeps_read b key).bind fun text => keeps_answer (rosterOf text)

theorem keeps_writeRoster {b key : String} (hrow : ¬(b = bucketOf k ∧ key = name))
    (names : Roster) : (writeRoster b key names).Keeps (bucketOf k) name := by
  unfold writeRoster
  split
  · exact (keeps_remove hrow).bind fun _ => keeps_pure ()
  · exact keeps_write hrow _

theorem keeps_join (user group : String) : (join user group).Keeps (bucketOf k) name := by
  refine (keeps_readRoster _ _).bind fun groups => (keeps_readRoster _ _).bind fun users => ?_
  split
  · exact keeps_pure ()
  · exact (keeps_writeRoster (groupsOfUsers_row k) _).bind fun _ =>
      keeps_writeRoster (usersOfGroups_row k) _

theorem keeps_part (user group : String) : (part user group).Keeps (bucketOf k) name := by
  refine (keeps_readRoster _ _).bind fun groups => ?_
  have hrest : ((do
      let users ← readRoster usersOfGroups group
      writeRoster groupsOfUsers user (groups.erase group)
      writeRoster usersOfGroups group (users.erase user)) : Transaction Unit).Keeps
        (bucketOf k) name :=
    (keeps_readRoster _ _).bind fun users =>
      (keeps_writeRoster (groupsOfUsers_row k) _).bind fun _ =>
        keeps_writeRoster (usersOfGroups_row k) _
  split
  · exact hrest
  · exact (keeps_throw _).bind fun _ => hrest

theorem keeps_retract (group : String) (users : List String) :
    (retract group users).Keeps (bucketOf k) name := by
  induction users with
  | nil => exact keeps_pure ()
  | cons user rest ih =>
    exact (keeps_readRoster _ _).bind fun _ =>
      (keeps_writeRoster (groupsOfUsers_row k) _).bind fun _ => ih

theorem keeps_disband (group : String) : (disband group).Keeps (bucketOf k) name :=
  (keeps_readRoster _ _).bind fun users => (keeps_retract group users).bind fun _ =>
    ((keeps_remove (usersOfGroups_row k)).bind fun _ => keeps_pure ()).bind fun _ =>
      keeps_pure users

end Table.Membership

/-! ## Table -/

namespace Table

/-- A transaction that keeps a row leaves it as it is, also when it fails. -/
theorem text?_transact (t : Table) {α : Type} {steps : Transaction α} {bucket key : String}
    (h : steps.Keeps bucket key) :
    (t.transact steps).2.rows.text? bucket key = t.rows.text? bucket key := by
  unfold transact
  split
  · cases hrun : steps.run t.rows with
    | error failure => rfl
    | ok result => exact h _ _ _ hrun
  · rfl

/-- A call that does not write a record leaves its row as it is. -/
theorem text?_answer (t : Table) {call : Call} {k : Kind} {name : String}
    (h : ¬ call.Writes k name) :
    (t.answer call).2.rows.text? (bucketOf k) name = t.rows.text? (bucketOf k) name := by
  cases call with
  | store l record =>
    exact t.text?_transact
      (Transaction.keeps_write (fun hrow => h ⟨(bucketOf_inj.1 hrow.1).symm, hrow.2.symm⟩) _)
  | erase l id =>
    have hrow : ¬(bucketOf l = bucketOf k ∧ id.text = name) :=
      fun hrow => h ⟨(bucketOf_inj.1 hrow.1).symm, hrow.2.symm⟩
    rw [← t.text?_transact (Transaction.keeps_remove hrow)]
    simp only [answer]
    split <;> simp_all
  | load l id => simp only [answer]; split <;> rfl
  | join user group => exact t.text?_transact (Membership.keeps_join _ _)
  | part user group => exact t.text?_transact (Membership.keeps_part _ _)
  | disband group =>
    rw [← t.text?_transact (Membership.keeps_disband group.text)]
    simp only [answer]
    split <;> simp_all
  | list _ | memberships _ | members _ => rfl

end Table

/-! ## Storages of either kind -/

namespace Backend

/-- What is kept under a name. -/
def entry (b : Backend) (k : Kind) (name : String) : Option (Entry k) :=
  match b with
  | memory m => ((m.records k).get? name).map .record
  | table t => (t.rows.text? (Table.bucketOf k) name).map .text

/-- A call that does not write a record leaves what is kept of it. -/
theorem entry_answer (b : Backend) {call : Call} {k : Kind} {name : String}
    (h : ¬ call.Writes k name) : (b.answer call).2.entry k name = b.entry k name := by
  cases b with
  | memory m => exact congrArg (Option.map Entry.record) (m.get?_answer h)
  | table t => exact congrArg (Option.map Entry.text) (t.text?_answer h)

/-- Where a record is said to be missing nothing is kept. -/
theorem entry_of_missing {b : Backend} {k : Kind} {id : Urn k} {failure : Failure}
    (h : (b.answer (.load k id)).1 = .error failure) (hmissing : failure.isNotFound = true) :
    b.entry k id.text = none := by
  cases b with
  | memory m =>
    cases hrecord : (m.records k).get? id.text with
    | some record => simp [answer, Memory.answer, hrecord] at h
    | none => simp [entry, hrecord]
  | table t =>
    cases htext : t.rows.text? (Table.bucketOf k) id.text with
    | none => simp [entry, htext]
    | some text =>
      -- the row is there, so the failure is that of a closed table or of a text that is no record
      have hfailure : failure.isNotFound = false := by
        simp only [answer, Table.answer, Table.text?, Table.peek, htext] at h
        cases hopen : t.isOpen with
        | true =>
          simp only [hopen, if_true, Table.decode] at h
          split at h
          · cases h
          · cases h
            rfl
        | false =>
          simp only [hopen, Bool.false_eq_true, if_false] at h
          cases h
          rfl
      rw [hfailure] at hmissing
      cases hmissing

end Backend

end AccessControl.Storage
