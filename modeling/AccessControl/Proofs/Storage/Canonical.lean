/-
Storages in which every record stands under the name that belongs to it. Such a storage stays one as
long as only such records are stored (`Backend.Canonical.answer`), what it tells of a name is a
record of that name (`Backend.Canonical.load`), and every record that it lists can be loaded under
its name (`Backend.Canonical.list`). Nothing is asked of what a table can read: numbers may come
back as others and records that nest too deep not at all, but no name changes on the way.
-/
import AccessControl.Proofs.Storage.Entries
import AccessControl.Proofs.Storage.Interchange
import AccessControl.Proofs.Urn

namespace AccessControl

/-! ## Records -/

/-- A user has the name of its account, and nothing is known about locking. -/
structure User.Canonical (user : User) : Prop where
  id : user.id = .ofAccount user.account
  locked : user.locked = none

/-- A group has the name that is made of its own, which is one that can be read off it. -/
structure Group.Canonical (group : Group) : Prop where
  id : group.id = .ofLocal .group group.name
  nonempty : group.name ≠ ""
  isLocal : Urn.isLocal group.name = true

/-- A policy has a name of a policy. -/
structure Policy.Canonical (policy : Policy) : Prop where
  valid : policy.id.isValid = true
  nonempty : policy.id.name ≠ ""

namespace Record

/-- The name of a record is the one that belongs to it. -/
def Canonical : {k : Kind} → Record k → Prop
  | .user, user => User.Canonical user
  | .group, group => Group.Canonical group
  | .policy, policy => Policy.Canonical policy

theorem canonical_ofAccount (account : Int) (username : String) (attributes : Option Attributes) :
    @Canonical .user (User.ofAccount account username attributes) := ⟨rfl, rfl⟩

theorem canonical_ofName {name : String} (hname : name ≠ "")
    (hread : (Urn.ofLocal .group name).name = name) (comment : Option String) :
    @Canonical .group (Group.ofName name comment) :=
  ⟨rfl, hname, hread ▸ Urn.isLocal_name (Urn.ofLocal .group name)⟩

theorem canonical_policy {id : Urn .policy} (hname : id.name ≠ "") (policy : Policy) :
    @Canonical .policy ({ policy with id } : Policy) := ⟨id.isValid_of_name hname, hname⟩

theorem listed_id {k : Kind} (record : Record k) : record.listed record.id = record := by
  cases k <;> rfl

theorem storable_group (group : Group) : @Storable .group group := by
  refine ⟨trivial, ?_, (Group.nesting_toJson group).le.trans (by decide)⟩
  obtain ⟨id, name, comment⟩ := group
  cases comment with
  | none => exact ⟨trivial, trivial, trivial⟩
  | some comment => exact ⟨trivial, trivial, trivial, trivial⟩

/-- What is read of the text of a record has its name, which belongs to it if it belonged to the
record. -/
theorem Canonical.decode {k : Kind} {record read : Record k} (h : record.Canonical)
    (hread : Json.Decoder.decode (decoder k) record.toJson.render = .ok read) :
    read.Canonical ∧ read.id = record.id := by
  cases k with
  | user =>
    have h : User.Canonical record := h
    obtain ⟨attributes, rfl⟩ := User.decode_toJson_ok h.locked hread
    exact ⟨⟨h.id, h.locked⟩, rfl⟩
  | group =>
    obtain rfl := Except.ok.inj (hread.symm.trans (storable_group record).decode)
    exact ⟨h, rfl⟩
  | policy =>
    have h : Policy.Canonical record := h
    have hid : Policy.id read = Policy.id record := Policy.id_of_decode_toJson hread
    exact ⟨⟨hid ▸ h.valid, hid ▸ h.nonempty⟩, hid⟩

end Record

namespace Storage

variable {b : Backend} {m : Memory} {k : Kind}

theorem Table.decode_ok {α : Type} {decoder : Json.Decoder α} {text : String} {value : α}
    (h : Table.decode decoder text = .ok value) :
    Json.Decoder.decode decoder text = .ok value := by
  unfold Table.decode at h
  split at h
  · obtain rfl := Except.ok.inj h
    assumption
  · cases h

/-- What is listed has been read, row by row. -/
theorem Table.recordsOf_ok {rows : List (String × String)} {records : List (Record k)}
    (h : recordsOf k rows = .ok records) {record : Record k} (hrecord : record ∈ records) :
    ∃ row ∈ rows, ∃ read, decode (Record.decoder k) row.2 = .ok read ∧
      record = read.listed ⟨row.1⟩ := by
  unfold recordsOf at h
  induction rows generalizing records with
  | nil =>
    obtain rfl := Except.ok.inj h
    cases hrecord
  | cons row rows ih =>
    rw [List.mapM_cons] at h
    obtain ⟨first, hfirst, h⟩ := bind_ok_iff.1 h
    obtain ⟨read, hread, hfirst⟩ := bind_ok_iff.1 hfirst
    obtain ⟨rest, hrest, h⟩ := bind_ok_iff.1 h
    obtain rfl := Except.ok.inj h
    obtain rfl := Except.ok.inj hfirst
    rcases List.mem_cons.1 hrecord with rfl | hrecord
    · exact ⟨row, List.mem_cons_self, read, hread, rfl⟩
    · obtain ⟨other, hother, found⟩ := ih hrest hrecord
      exact ⟨other, List.mem_cons_of_mem _ hother, found⟩

/-! ## Entries -/

/-- What is kept is the record, as it is or as its text. -/
def Entry.Holds : Entry k → Record k → Prop
  | .record kept, given => kept = given
  | .text written, given => written = given.toJson.render

namespace Backend

/-- A storage keeps the records of a memory: as they are or as their texts, which it may not be able
to read. -/
inductive Keeps : Backend → Memory → Prop
  | memory (m : Memory) : Keeps (.memory m) m
  | table {t : Table} {m : Memory} (writes : t.Writes m) : Keeps (.table t) m

theorem Keeps.answer (h : b.Keeps m) (call : Call) : (b.answer call).2.Keeps (m.answer call).2 := by
  cases h with
  | memory m => exact .memory _
  | table writes => exact .table (writes.follow call)

theorem Keeps.entry (h : b.Keeps m) {name : String} {entry : Entry k}
    (hentry : b.entry k name = some entry) :
    ∃ record, (m.records k).get? name = some record ∧ entry.Holds record := by
  cases h with
  | memory m =>
    obtain ⟨record, hrecord, rfl⟩ := Option.map_eq_some_iff.1 hentry
    exact ⟨record, hrecord, rfl⟩
  | table writes =>
    obtain ⟨text, htext, rfl⟩ := Option.map_eq_some_iff.1 hentry
    rw [writes.text?] at htext
    obtain ⟨record, hrecord, rfl⟩ := Option.map_eq_some_iff.1 htext
    exact ⟨record, hrecord, rfl⟩

/-! ## Storages -/

/-- Each record of a kind stands under its name, once, and the name belongs to it. -/
def Canonical (b : Backend) : Prop :=
  ∃ m : Memory, b.Keeps m ∧ m.Filed ∧ ∀ (k : Kind), ∀ e ∈ m.records k, e.2.Canonical

theorem keeps_empty (medium : Medium) : medium.empty.Keeps .empty := by
  cases medium with
  | memory => exact .memory _
  | table =>
    cases holds_table with
    | table writes _ => exact .table writes

theorem canonical_empty (medium : Medium) : medium.empty.Canonical :=
  ⟨.empty, keeps_empty medium, Memory.filed_empty, fun k e he => by cases k <;> cases he⟩

namespace Canonical

/-- The storage stays so, as long as what is stored has the name that belongs to it. -/
theorem answer (h : b.Canonical) {call : Call}
    (hstore : ∀ (k : Kind) (record : Record k), call = .store k record → record.Canonical) :
    (b.answer call).2.Canonical := by
  obtain ⟨m, hkeeps, hfiled, hcanonical⟩ := h
  refine ⟨_, hkeeps.answer call, hfiled.answer call, fun k e he => ?_⟩
  rcases Memory.mem_records_answer he with he | hcall
  · exact hcanonical k e he
  · exact hstore k e.2 hcall

theorem entry (h : b.Canonical) {name : String} {entry : Entry k}
    (hentry : b.entry k name = some entry) :
    ∃ record : Record k, entry.Holds record ∧ record.id.text = name ∧ record.Canonical := by
  obtain ⟨m, hkeeps, hfiled, hcanonical⟩ := h
  obtain ⟨record, hrecord, hholds⟩ := hkeeps.entry hentry
  have hmem := Assoc.mem_of_get? hrecord
  exact ⟨record, hholds, (hfiled k).2 _ hmem, hcanonical k _ hmem⟩

/-- What is loaded under a name is a record of that name. -/
theorem load (h : b.Canonical) {id : Urn k} {record : Record k}
    (hload : (b.answer (.load k id)).1 = .ok record) : record.id = id ∧ record.Canonical := by
  obtain ⟨m, hkeeps, hfiled, hcanonical⟩ := h
  have hfound {stored : Record k} (hstored : (m.records k).get? id.text = some stored) :
      stored.id = id ∧ stored.Canonical := by
    have hmem := Assoc.mem_of_get? hstored
    exact ⟨congrArg Urn.mk ((hfiled k).2 _ hmem), hcanonical k _ hmem⟩
  cases hkeeps with
  | memory m =>
    simp only [Backend.answer, Memory.answer] at hload
    split at hload
    · rename_i stored hstored
      obtain rfl := Except.ok.inj hload
      exact hfound hstored
    · cases hload
  | table writes =>
    have hload := (writes.load id).symm.trans hload
    split at hload
    · rename_i stored hstored
      obtain ⟨hid, hstored⟩ := hfound hstored
      obtain ⟨hread, hsame⟩ := hstored.decode (Table.decode_ok hload)
      exact ⟨hsame.trans hid, hread⟩
    · cases hload

/-- What is listed can be loaded under its name. -/
theorem list (h : b.Canonical) {records : List (Record k)}
    (hlist : (b.answer (.list k)).1 = .ok records) {record : Record k} (hmem : record ∈ records) :
    (b.answer (.load k record.id)).1 = .ok record := by
  obtain ⟨m, hkeeps, hfiled, hcanonical⟩ := h
  cases hkeeps with
  | memory m =>
    obtain rfl := Except.ok.inj hlist
    obtain ⟨⟨name, stored⟩, he, rfl⟩ := List.mem_map.1 hmem
    obtain rfl : stored.id.text = name := (hfiled k).2 _ he
    have hstored := (hfiled k).1.get?_of_mem he
    dsimp only
    rw [show (⟨stored.id.text⟩ : Urn k) = stored.id from rfl, stored.listed_id]
    simp only [Backend.answer, Memory.answer, hstored]
  | @table t m writes =>
    have hlist := (writes.list k).symm.trans hlist
    obtain ⟨row, hrow, read, hread, rfl⟩ := Table.recordsOf_ok hlist hmem
    obtain ⟨⟨name, stored⟩, he, rfl⟩ := List.mem_map.1 hrow
    obtain rfl : stored.id.text = name := (hfiled k).2 _ he
    obtain ⟨-, hid⟩ := (hcanonical k _ he).decode (Table.decode_ok hread)
    have hstored := (hfiled k).1.get?_of_mem he
    have hlisted : read.listed ⟨stored.id.text⟩ = read := by
      rw [show (⟨stored.id.text⟩ : Urn k) = read.id from hid.symm, read.listed_id]
    dsimp only at hlisted ⊢
    rw [hlisted, hid]
    refine (writes.load stored.id).trans ?_
    rw [hstored]
    exact hread

end Canonical

end Backend

end Storage

end AccessControl
