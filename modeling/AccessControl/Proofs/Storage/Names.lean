/-
Which names have a record in a storage. Main statements: every call changes the names as its answer
says and the memberships as the relation does (`Backend.answer_names`, `Backend.answer_follows`),
and what loading a record tells about its name (`Backend.load_names`).
-/
import AccessControl.Proofs.Storage.Refinement

namespace AccessControl.Storage

/-! ## Names -/

/-- Which names of each kind have a record. -/
abbrev Names := Kind → String → Prop

/-- The names after a call that has been answered. -/
def Names.after (N : Names) : (call : Call) → Answer call.Reply → Names
  | .store k record, .ok _ => fun l name => (l = k ∧ name = record.id.text) ∨ N l name
  | .erase k id, .ok _ => fun l name => N l name ∧ ¬(l = k ∧ name = id.text)
  | _, _ => N

/-- A name that has a record after a call has had one, or the call has stored it. -/
theorem Names.of_after {N : Names} {call : Call} {answer : Answer call.Reply} {k : Kind}
    {name : String} (h : N.after call answer k name) :
    N k name ∨ ∃ record, call = .store k record := by
  unfold Names.after at h
  split at h
  · rcases h with ⟨rfl, -⟩ | h
    · exact .inr ⟨_, rfl⟩
    · exact .inl h
  · exact .inl h.1
  · exact .inl h

/-- The answer to loading a record tells whether there is one, unless what is there is no record. -/
def Names.Tell (N : Names) : (call : Call) → Answer call.Reply → Prop
  | .load k id, .ok _ => N k id.text
  | .load k id, .error failure => failure.isNotFound = true → ¬ N k id.text
  | _, _ => True

/-! ## Memory -/

namespace Memory

def Stored (m : Memory) : Names := fun k name => (m.records k).has name = true

variable {m : Memory}

theorem stored_setRecords (m : Memory) (k : Kind) (records : Assoc (Record k)) (l : Kind)
    (name : String) :
    (m.setRecords k records).Stored l name ↔
      if l = k then records.has name = true else m.Stored l name := by
  unfold Stored
  rw [records_setRecords]
  by_cases h : k = l
  · subst h
    simp
  · rw [dif_neg h, if_neg (Ne.symm h)]

theorem stored_put (m : Memory) (k : Kind) (record : Record k) (l : Kind) (name : String) :
    (m.setRecords k ((m.records k).put record.id.text record)).Stored l name ↔
      (l = k ∧ name = record.id.text) ∨ m.Stored l name := by
  rw [stored_setRecords]
  by_cases hl : l = k
  · subst hl
    unfold Stored
    rw [if_pos rfl, Assoc.has_eq, Assoc.has_eq, Assoc.get?_put]
    by_cases hn : record.id.text = name
    · simp [hn]
    · simp [hn, Ne.symm hn]
  · simp [hl]

theorem stored_erase (m : Memory) (k : Kind) (id : Urn k) (l : Kind) (name : String) :
    (m.setRecords k ((m.records k).erase id.text)).Stored l name ↔
      m.Stored l name ∧ ¬(l = k ∧ name = id.text) := by
  rw [stored_setRecords]
  by_cases hl : l = k
  · subst hl
    unfold Stored
    rw [if_pos rfl, Assoc.has_eq, Assoc.has_eq, Assoc.get?_erase]
    by_cases hn : id.text = name
    · simp [hn]
    · simp [hn, Ne.symm hn]
  · simp [hl]

theorem answer_names (m : Memory) (call : Call) (l : Kind) (name : String) :
    (m.answer call).2.Stored l name ↔ m.Stored.after call (m.answer call).1 l name := by
  cases call with
  | load k id => simp only [answer]; split <;> rfl
  | store k record => exact stored_put m k record l name
  | erase k id =>
    simp only [answer]
    split
    · exact stored_erase m k id l name
    · rfl
  | part user group => simp only [answer]; split <;> rfl
  | list k => rfl
  | join user group => rfl
  | disband group => rfl
  | memberships user => rfl
  | members group => rfl

theorem load_names (m : Memory) (call : Call) : m.Stored.Tell call (m.answer call).1 := by
  cases call with
  | load k id =>
    simp only [answer]
    cases h : (m.records k).get? id.text with
    | some record =>
      show (m.records k).has id.text = true
      rw [Assoc.has_eq, h]
      rfl
    | none =>
      intro _ hs
      have hs : (m.records k).has id.text = true := hs
      rw [Assoc.has_eq, h] at hs
      cases hs
  | _ => trivial

end Memory

/-! ## Table -/

namespace Table

def Stored (t : Table) : Names := fun k name => (t.rows.text? (bucketOf k) name).isSome = true

variable {t : Table} {R : Relation}

theorem bucketOf_inj {k l : Kind} : bucketOf k = bucketOf l ↔ k = l := by
  cases k <;> cases l <;> decide

/-- Changes to the bucket of a kind leave the sides as they are. -/
theorem Represents.ofRows (h : t.Represents R) {rows : Rows} (k : Kind)
    (hrows : ∀ c, bucketOf k ≠ c → rows.bucket c = t.rows.bucket c) :
    Represents { t with rows } R := by
  obtain ⟨ho, m, hk, hr⟩ := h
  refine ⟨ho, m, ⟨?_, ?_⟩, hr⟩
  · rw [hrows _ (Membership.groupsOfUsers_ne k).symm, hk.groups]
  · rw [hrows _ (Membership.usersOfGroups_ne k).symm, hk.users]

theorem answer_store (h : t.Represents R) (k : Kind) (record : Record k) :
    t.answer (.store k record) = (.ok (),
      { t with rows := t.rows.write (bucketOf k) record.id.text record.toJson.render }) := by
  show t.transact (Transaction.write (bucketOf k) record.id.text record.toJson.render) = _
  exact transact_ok h.isOpen rfl

theorem answer_erase (h : t.Represents R) (k : Kind) (id : Urn k) :
    t.answer (.erase k id) =
      (if (t.rows.text? (bucketOf k) id.text).isSome then (.ok () : Answer Unit)
        else .error (missing k),
        { t with rows := t.rows.remove (bucketOf k) id.text }) := by
  have hrun : (Transaction.remove (bucketOf k) id.text).run t.rows =
      .ok ((t.rows.text? (bucketOf k) id.text).isSome, t.rows.remove (bucketOf k) id.text) := rfl
  simp only [answer, transact_ok h.isOpen hrun]
  cases (t.rows.text? (bucketOf k) id.text).isSome <;> rfl

theorem answer_follows (h : t.Represents R) (call : Call) :
    (t.answer call).2.Represents (R.after call) := by
  cases call with
  | load k id => simp only [answer]; split <;> exact h
  | store k record =>
    rw [answer_store h]
    exact h.ofRows k fun c hc => by unfold Rows.write; rw [Rows.bucket_put, if_neg hc]
  | erase k id =>
    rw [answer_erase h]
    exact h.ofRows k fun c hc => by unfold Rows.remove; rw [Rows.bucket_put, if_neg hc]
  | list k => exact h
  | join user group => exact (answer_inquiry h (.join user group)).2.1
  | part user group => exact (answer_inquiry h (.part user group)).2.1
  | disband group => exact (answer_inquiry h (.disband group)).2.1
  | memberships user => exact h
  | members group => exact h

/-- Calls about memberships leave the names as they are. -/
theorem stored_inquiry (h : t.Represents R) (q : Inquiry) (l : Kind) (name : String) :
    (t.answer q.call).2.Stored l name ↔ t.Stored l name := by
  unfold Stored Rows.text?
  rw [(answer_inquiry h q).2.2 l]

theorem stored_write (t : Table) (k : Kind) (name text : String) (l : Kind) (n : String) :
    Stored { t with rows := t.rows.write (bucketOf k) name text } l n ↔
      (l = k ∧ n = name) ∨ t.Stored l n := by
  unfold Stored
  rw [Rows.text?_write]
  simp only [bucketOf_inj]
  by_cases hl : k = l <;> by_cases hn : name = n <;> simp [hl, hn, Ne.symm]

theorem stored_remove (t : Table) (k : Kind) (name : String) (l : Kind) (n : String) :
    Stored { t with rows := t.rows.remove (bucketOf k) name } l n ↔
      t.Stored l n ∧ ¬(l = k ∧ n = name) := by
  unfold Stored
  rw [Rows.text?_remove]
  simp only [bucketOf_inj]
  by_cases hl : k = l <;> by_cases hn : name = n <;> simp [hl, hn, Ne.symm]

theorem answer_names (h : t.Represents R) (call : Call) (l : Kind) (name : String) :
    (t.answer call).2.Stored l name ↔ t.Stored.after call (t.answer call).1 l name := by
  cases call with
  | load k id => simp only [answer]; split <;> rfl
  | store k record =>
    rw [answer_store h]
    exact stored_write t k record.id.text _ l name
  | erase k id =>
    rw [answer_erase h]
    show Stored { t with rows := t.rows.remove (bucketOf k) id.text } l name ↔ _
    rw [stored_remove]
    by_cases hs : (t.rows.text? (bucketOf k) id.text).isSome = true
    · rw [if_pos hs]
      rfl
    · -- a record that is not there is removed all the same, but the answer is that it is missing
      rw [if_neg hs]
      refine ⟨And.left, fun hl => ⟨hl, ?_⟩⟩
      rintro ⟨rfl, rfl⟩
      exact hs hl
  | list k => rfl
  | join user group => exact stored_inquiry h (.join user group) l name
  | part user group => exact stored_inquiry h (.part user group) l name
  | disband group => exact stored_inquiry h (.disband group) l name
  | memberships user => rfl
  | members group => rfl

theorem load_names (h : t.Represents R) (call : Call) : t.Stored.Tell call (t.answer call).1 := by
  cases call with
  | load k id =>
    simp only [answer, text?, peek_ok h.isOpen]
    cases hs : t.rows.text? (bucketOf k) id.text with
    | some text =>
      have hstored : t.Stored k id.text := Option.isSome_iff_exists.2 ⟨text, hs⟩
      show t.Stored.Tell (.load k id) (decode (Record.decoder k) text)
      unfold decode
      split
      · exact hstored
      · exact fun hf => Bool.noConfusion hf
    | none =>
      intro _ hstored
      have hstored : (t.rows.text? (bucketOf k) id.text).isSome = true := hstored
      rw [hs] at hstored
      cases hstored
  | _ => trivial

end Table

/-! ## Storages of either kind -/

namespace Backend

/-- There is a record of that name. -/
def Stored : Backend → Names
  | memory m => m.Stored
  | table t => t.Stored

variable {b : Backend} {R : Relation}

theorem answer_follows (h : b.Represents R) (call : Call) :
    (b.answer call).2.Represents (R.after call) := by
  cases b with
  | memory m => exact Memory.represents_answer h call
  | table t => exact Table.answer_follows h call

theorem answer_names (h : b.Represents R) (call : Call) :
    (b.answer call).2.Stored = b.Stored.after call (b.answer call).1 := by
  funext l name
  cases b with
  | memory m => exact propext (Memory.answer_names m call l name)
  | table t => exact propext (Table.answer_names h call l name)

theorem load_names (h : b.Represents R) (call : Call) : b.Stored.Tell call (b.answer call).1 := by
  cases b with
  | memory m => exact Memory.load_names m call
  | table t => exact Table.load_names h call

end Backend

end AccessControl.Storage
