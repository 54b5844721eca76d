/-
What a storage of either kind holds, told as the contents of a memory: a memory holds itself, and a
table holds the memory that its rows are the texts of. Main statement: a storage answers what the
memory that it holds answers, and holds what that memory becomes, as long as it gives back the
records that it is given (`Backend.Holds.answer`).
-/
import AccessControl.Proofs.Record
import AccessControl.Proofs.Storage.Names

namespace AccessControl.Storage

/-! ## Tables -/

namespace Table

/-- The rows of each kind are the texts of the records of the memory, and the memberships of both
are the same. -/
structure Writes (t : Table) (m : Memory) : Prop where
  rows : ∀ k, t.rows.bucket (bucketOf k) =
    (m.records k).mapValues fun record => record.toJson.render
  memberships : ∃ R, t.Represents R ∧ m.memberships.Represents R

/-- The text of the record is read as the record. -/
def Reads {k : Kind} (record : Record k) : Prop :=
  decode (Record.decoder k) record.toJson.render = .ok record

variable {t : Table} {m : Memory}

theorem Writes.isOpen (h : t.Writes m) : t.isOpen = true := by
  obtain ⟨R, hR, -⟩ := h.memberships
  exact hR.isOpen

theorem Writes.text? (h : t.Writes m) (k : Kind) (name : String) :
    t.rows.text? (bucketOf k) name =
      ((m.records k).get? name).map fun record => record.toJson.render := by
  unfold Rows.text?
  rw [h.rows, Assoc.get?_mapValues]

/-- The rows of a kind change, and with them the records of that kind. -/
theorem Writes.setRecords (h : t.Writes m) (k : Kind) {records : Assoc (Record k)}
    {texts : Assoc String} (htexts : texts = records.mapValues fun record => record.toJson.render) :
    Writes { t with rows := Assoc.put (bucketOf k) texts t.rows } (m.setRecords k records) := by
  obtain ⟨R, hR, hm⟩ := h.memberships
  refine ⟨fun l => ?_, R, hR.ofRows k fun c hc => ?_, ?_⟩
  · rw [Rows.bucket_put, Memory.records_setRecords]
    by_cases hl : k = l
    · subst hl
      rw [if_pos rfl, dif_pos rfl, htexts]
    · rw [if_neg fun he => hl (bucketOf_inj.1 he), h.rows, dif_neg hl]
  · rw [Rows.bucket_put, if_neg hc]
  · rwa [Memory.memberships_setRecords]

theorem recordsOf_texts {k : Kind} {records : Assoc (Record k)}
    (hreads : ∀ e ∈ records, Reads e.2) :
    recordsOf k (records.mapValues fun record => record.toJson.render) =
      .ok (records.map fun e => e.2.listed ⟨e.1⟩) := by
  unfold recordsOf
  induction records with
  | nil => rfl
  | cons e records ih =>
    have hfirst : decode (Record.decoder k) e.2.toJson.render = .ok e.2 :=
      hreads e List.mem_cons_self
    have hrest := ih fun e he => hreads e (List.mem_cons_of_mem _ he)
    unfold Assoc.mapValues at hrest ⊢
    rw [List.map_cons, List.mapM_cons, hrest, hfirst]
    rfl

theorem recordsOf_singleton {k : Kind} (name : String) {text : String} {record : Record k}
    (h : Json.Decoder.decode (Record.decoder k) text = .ok record) :
    recordsOf k [(name, text)] = .ok [record.listed ⟨name⟩] := by
  unfold recordsOf decode
  rw [List.mapM_cons, h]
  rfl

/-- Calls about memberships leave the records as they are. -/
theorem Writes.membership (h : t.Writes m) (q : Inquiry) :
    (t.answer q.call).1 = (m.answer q.call).1 ∧
      (t.answer q.call).2.Writes (m.answer q.call).2 := by
  obtain ⟨R, hR, hm⟩ := h.memberships
  obtain ⟨hanswer, hafter, hsame⟩ := answer_inquiry hR q
  have hkept (k : Kind) : (m.answer q.call).2.records k = m.records k := by
    cases q with
    | part user group =>
      simp only [Inquiry.call, Memory.answer]
      split <;> cases k <;> rfl
    | memberships _ | members _ => rfl
    | join _ _ | disband _ => cases k <;> rfl
  refine ⟨hanswer.trans (Memory.answer_inquiry hm q).symm, fun k => ?_,
    R.after q.call, hafter, Memory.represents_answer hm q.call⟩
  rw [hsame k, h.rows, hkept]

/-- Where no record of a name is stored there is none to erase. -/
theorem Writes.erase (h : t.Writes m) (k : Kind) (id : Urn k) :
    (t.answer (.erase k id)).1 = (m.answer (.erase k id)).1 ∧
      (t.answer (.erase k id)).2.Writes (m.answer (.erase k id)).2 := by
  obtain ⟨R, hR, -⟩ := h.memberships
  have htexts := Assoc.erase_mapValues (fun record : Record k => record.toJson.render)
    (m.records k) id.text
  have hstored : (t.rows.text? (bucketOf k) id.text).isSome = (m.records k).has id.text := by
    rw [h.text?, Option.isSome_map, Assoc.has_eq]
  have hremoved : Writes { t with rows := t.rows.remove (bucketOf k) id.text }
      (m.setRecords k ((m.records k).erase id.text)) := by
    refine h.setRecords k ?_
    rw [h.rows, htexts]
  rw [answer_erase hR, hstored]
  simp only [Memory.answer]
  by_cases hhas : (m.records k).has id.text = true
  · rw [if_pos hhas, if_pos hhas]
    exact ⟨rfl, hremoved⟩
  · -- what is not there is removed from the rows all the same
    rw [if_neg hhas, if_neg hhas]
    refine ⟨rfl, ?_⟩
    have hnone : (m.records k).get? id.text = none := by
      rwa [Assoc.has_eq, Bool.not_eq_true, Option.isSome_eq_false_iff, Option.isNone_iff_eq_none]
        at hhas
    rw [Assoc.erase_of_get?_none hnone] at hremoved
    have hsame : m.setRecords k (m.records k) = m := by cases k <;> rfl
    rwa [hsame] at hremoved

theorem Writes.store (h : t.Writes m) (k : Kind) (record : Record k) :
    (t.answer (.store k record)).1 = .ok () ∧
      (t.answer (.store k record)).2.Writes (m.answer (.store k record)).2 := by
  obtain ⟨R, hR, -⟩ := h.memberships
  have htexts := Assoc.put_mapValues (fun record : Record k => record.toJson.render)
    (m.records k) record.id.text record
  rw [answer_store hR]
  refine ⟨rfl, h.setRecords k ?_⟩
  rw [h.rows, htexts]

theorem Writes.load (h : t.Writes m) {k : Kind} (id : Urn k) :
    (t.answer (.load k id)).1 = match (m.records k).get? id.text with
      | some record => decode (Record.decoder k) record.toJson.render
      | none => .error (missing k) := by
  simp only [Table.answer, Table.text?, peek_ok h.isOpen, h.text?]
  cases (m.records k).get? id.text <;> rfl

theorem Writes.list (h : t.Writes m) (k : Kind) :
    (t.answer (.list k)).1 =
      recordsOf k ((m.records k).mapValues fun record => record.toJson.render) := by
  simp only [Table.answer, scan, peek_ok h.isOpen, h.rows]
  rfl

/-- Whatever a table is asked it writes down what the memory becomes, also where it cannot read
what it has written. -/
theorem Writes.follow (h : t.Writes m) (call : Call) :
    (t.answer call).2.Writes (m.answer call).2 := by
  cases call with
  | load k id =>
    have htable : (t.answer (.load k id)).2 = t := by simp only [Table.answer]; split <;> rfl
    have hmemory : (m.answer (.load k id)).2 = m := by simp only [Memory.answer]; split <;> rfl
    rwa [htable, hmemory]
  | store k record => exact (h.store k record).2
  | erase k id => exact (h.erase k id).2
  | list k => exact h
  | join user group => exact (h.membership (.join user group)).2
  | part user group => exact (h.membership (.part user group)).2
  | disband group => exact (h.membership (.disband group)).2
  | memberships user => exact (h.membership (.memberships user)).2
  | members group => exact (h.membership (.members group)).2

/-- A table answers what the memory answers whose records it writes down, where it reads them. -/
theorem Writes.answer (h : t.Writes m) (hreads : ∀ k, ∀ e ∈ m.records k, Reads e.2) (call : Call) :
    (t.answer call).1 = (m.answer call).1 ∧ (t.answer call).2.Writes (m.answer call).2 := by
  refine ⟨?_, h.follow call⟩
  cases call with
  | load k id =>
    rw [h.load]
    simp only [Memory.answer]
    cases hrecord : (m.records k).get? id.text with
    | none => rfl
    | some record => exact hreads k (id.text, record) (Assoc.mem_of_get? hrecord)
  | store k record => exact (h.store k record).1
  | erase k id => exact (h.erase k id).1
  | list k => exact (h.list k).trans (recordsOf_texts (hreads k))
  | join user group => exact (h.membership (.join user group)).1
  | part user group => exact (h.membership (.part user group)).1
  | disband group => exact (h.membership (.disband group)).1
  | memberships user => exact (h.membership (.memberships user)).1
  | members group => exact (h.membership (.members group)).1

/-! ### Texts that cannot be read -/

/-- The text of the record cannot be read. -/
def Loses {k : Kind} (record : Record k) : Prop :=
  decode (Record.decoder k) record.toJson.render = .error undecodable

theorem loses_of_deep {k : Kind} {record : Record k} (hproper : record.Proper)
    (hnumbers : Json.Legible record.toJson)
    (hdeep : Json.Decoder.maxDepth < record.toJson.nesting) : Loses record := by
  unfold Loses decode
  rw [Record.decode_render hproper hnumbers, Json.Decoder.within, if_neg (Nat.not_le.2 hdeep)]

theorem Writes.load_lost (h : t.Writes m) {k : Kind} {id : Urn k} {record : Record k}
    (hrecord : (m.records k).get? id.text = some record) (hlost : Loses record) :
    (t.answer (.load k id)).1 = .error undecodable := by
  rw [h.load, hrecord]
  exact hlost

theorem recordsOf_lost {k : Kind} {records : Assoc (Record k)} {e : String × Record k}
    (he : e ∈ records) (hlost : Loses e.2) :
    recordsOf k (records.mapValues fun record => record.toJson.render) = .error undecodable := by
  unfold recordsOf
  induction records with
  | nil => cases he
  | cons f rest ih =>
    unfold Assoc.mapValues at ih ⊢
    rw [List.map_cons, List.mapM_cons]
    -- whatever text is the first that cannot be read, the failure is the same
    cases hfirst : decode (Record.decoder k) f.2.toJson.render with
    | error failure =>
      have hfailure : failure = undecodable := by
        unfold decode at hfirst
        split at hfirst
        · cases hfirst
        · exact (Except.error.inj hfirst).symm
      rw [hfailure]
      rfl
    | ok value =>
      rcases List.mem_cons.1 he with rfl | he
      · cases hfirst.symm.trans hlost
      · rw [ih he]
        rfl

/-- One text that cannot be read keeps all records of its kind from being listed. -/
theorem Writes.list_lost (h : t.Writes m) {k : Kind} {e : String × Record k}
    (he : e ∈ m.records k) (hlost : Loses e.2) :
    (t.answer (.list k)).1 = .error undecodable := by
  rw [h.list]
  exact recordsOf_lost he hlost

end Table

/-- Each record of a memory after a call has been there before, or the call stores it. -/
theorem Memory.mem_records_answer {m : Memory} {call : Call} {k : Kind} {e : String × Record k}
    (he : e ∈ (m.answer call).2.records k) :
    e ∈ m.records k ∨ call = .store k e.2 := by
  cases call with
  | store l record =>
    simp only [answer, records_setRecords] at he
    by_cases hl : l = k
    · subst hl
      rw [dif_pos rfl] at he
      rcases Assoc.mem_put he with rfl | he
      · exact .inr rfl
      · exact .inl he
    · rw [dif_neg hl] at he
      exact .inl he
  | erase l id =>
    left
    simp only [answer] at he
    split at he
    · rw [records_setRecords] at he
      by_cases hl : l = k
      · subst hl
        rw [dif_pos rfl] at he
        exact Assoc.mem_erase he
      · rwa [dif_neg hl] at he
    · exact he
  | load l id => simp only [answer] at he; split at he <;> exact .inl he
  | part user group => simp only [answer] at he; split at he <;> cases k <;> exact .inl he
  | list _ | memberships _ | members _ => exact .inl he
  | join _ _ | disband _ => cases k <;> exact .inl he

/-! ## Storages of either kind -/

/-- What a storage keeps its records in. -/
inductive Medium
  | memory
  | table

/-- An empty storage. -/
def Medium.empty : Medium → Backend
  | memory => .memory .empty
  | table => .table .empty

/-- A record that is given back as it is stored. -/
def Medium.Accepts : Medium → {k : Kind} → Record k → Prop
  | memory, _, _ => True
  | table, _, record => Table.Reads record

/-- Any storage gives back a record that its text gives back. -/
theorem Medium.accepts {k : Kind} {record : Record k} (h : record.Storable) (medium : Medium) :
    medium.Accepts record := by
  cases medium with
  | memory => trivial
  | table =>
    show Table.decode _ _ = _
    unfold Table.decode
    rw [h.decode]

namespace Backend

/-- What is in a storage of a medium is what is in a memory. -/
inductive Holds : Medium → Backend → Memory → Prop
  | memory (m : Memory) : Holds .memory (.memory m) m
  | table {t : Table} {m : Memory} (writes : t.Writes m)
      (reads : ∀ k, ∀ e ∈ m.records k, Table.Reads e.2) : Holds .table (.table t) m

/-- A storage answers what the memory that it holds answers, and holds what that becomes. -/
theorem Holds.answer {medium : Medium} {b : Backend} {m : Memory} (h : Holds medium b m)
    (call : Call) (hstored : ∀ k record, call = .store k record → medium.Accepts record) :
    (b.answer call).1 = (m.answer call).1 ∧ Holds medium (b.answer call).2 (m.answer call).2 := by
  cases h with
  | memory m => exact ⟨rfl, .memory _⟩
  | @table t m writes reads =>
    obtain ⟨hanswer, hwrites⟩ := writes.answer reads call
    refine ⟨hanswer, .table hwrites fun k e he => ?_⟩
    rcases Memory.mem_records_answer he with he | hcall
    · exact reads k e he
    · exact hstored k e.2 hcall

theorem holds_table : Holds .table (.table .empty) .empty := by
  refine .table ⟨fun k => ?_, ∅, Table.Represents.empty, Memberships.Represents.none⟩
    fun k e he => ?_
  · cases k <;> rfl
  · cases k <;> cases he

end Backend

end AccessControl.Storage
