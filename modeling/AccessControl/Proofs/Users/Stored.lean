/-
Users in a table that can be read back. Main statements: a record reads back if its attributes leave
room for it (`User.Lasting.reads`), and a table of such records answers as if it kept the records
themselves (`Shelved.load`, `Shelved.list`, `Shelved.store`, `Shelved.erase`).
-/
import AccessControl.Proofs.Json.Lasting
import AccessControl.Proofs.Storage.Contents
import AccessControl.Proofs.Urn

namespace AccessControl

/-! ## What may be written -/

/-- Attributes that stay readable in the record of a user. -/
abbrev LastingAttributes (attributes : Attributes) : Prop := Json.Lasting 126 (.object attributes)

namespace User

variable {user : User}

/-- The record is as good as its attributes, and opens one container more. -/
theorem proper_of_lasting (hlower : -(Nat.pow 2 63 : Int) ≤ user.account)
    (hupper : user.account < Nat.pow 2 63) {depth : Nat}
    (hattributes : ∀ a, user.attributes = some a → Json.Lasting depth (.object a)) :
    user.Proper ∧ Json.Legible user.toJson ∧ user.toJson.nesting ≤ depth + 1 := by
  have hwhole : Number.isWhole user.account = true := by
    have hwide : (Nat.pow 2 63 : Int) ≤ Nat.pow 2 64 := by decide
    unfold Number.isWhole
    rw [Bool.and_eq_true, decide_eq_true_iff, decide_eq_true_iff]
    omega
  have hnumber := Json.legibleNumber_whole hwhole
  rw [User.nesting_toJson]
  obtain ⟨account, username, id, locked, attributes⟩ := user
  refine ⟨⟨hlower, hupper, fun a ha => (hattributes a ha).ordered⟩, ?_, Nat.succ_le_succ ?_⟩
  · -- only the number and the attributes may hold numbers
    refine Json.legibleFields_iff.2 fun e he => ?_
    simp only [List.mem_append, List.mem_cons, List.not_mem_nil, or_false, Option.mem_toList,
      Option.map_eq_some_iff] at he
    rcases he with ((rfl | rfl | rfl) | ⟨_, -, rfl⟩) | ⟨a, ha, rfl⟩
    · exact hnumber
    · exact trivial
    · exact trivial
    · exact trivial
    · exact (hattributes a ha).numbers
  · cases attributes with
    | none => exact Nat.zero_le _
    | some a => exact (hattributes a rfl).nesting

/-- A record under the name of its account that stays readable. -/
structure Lasting (user : User) : Prop where
  id : user.id = Urn.ofAccount user.account
  lower : -(Nat.pow 2 63 : Int) ≤ user.account
  upper : user.account < Nat.pow 2 63
  attributes : ∀ a, user.attributes = some a → LastingAttributes a

theorem Lasting.reads (h : user.Lasting) : @Storage.Table.Reads .user user := by
  obtain ⟨hproper, hnumbers, hnesting⟩ := proper_of_lasting h.lower h.upper h.attributes
  have hstorable : @Record.Storable .user user := ⟨hproper, hnumbers, hnesting⟩
  exact Storage.Medium.accepts hstorable .table

theorem Lasting.accountOf? (h : user.Lasting) : Users.accountOf? user.id = some user.account := by
  rw [h.id, Users.accountOf?_ofAccount, if_pos ⟨h.lower, h.upper⟩]

theorem lasting_ofAccount {account : Int} (username : String) {attributes : Option Attributes}
    (haccount : (Users.accountOf? (Urn.ofAccount account)).isSome = true)
    (hattributes : ∀ a, attributes = some a → LastingAttributes a) :
    (ofAccount account username attributes).Lasting := by
  rw [Users.accountOf?_ofAccount] at haccount
  split at haccount
  · rename_i hrange
    exact ⟨rfl, hrange.1, hrange.2, hattributes⟩
  · cases haccount

theorem Lasting.getD (h : user.Lasting) : LastingAttributes (user.attributes.getD []) := by
  cases hattributes : user.attributes with
  | none => exact Json.lasting_empty 125
  | some a => exact h.attributes a hattributes

end User

namespace Users

/-! ## Stored users -/

open Storage (Backend Memory)

variable {b : Backend} {users : Assoc User} {user : Urn .user} {record : User}

/-- A table of users that stay readable, each under its name. -/
structure Shelved (b : Backend) (users : Assoc User) : Prop where
  holds : ∃ m : Memory, Backend.Holds .table b m ∧ m.users = users
  lasting : ∀ e ∈ users, e.1 = e.2.id.text ∧ e.2.Lasting

theorem shelved_empty : Shelved (.table .empty) [] where
  holds := ⟨.empty, Backend.holds_table, rfl⟩
  lasting := nofun

namespace Shelved

theorem found (h : Shelved b users) (hfound : users.get? user.text = some record) :
    record.id = user ∧ record.Lasting := by
  obtain ⟨hname, hlasting⟩ := h.lasting _ (Assoc.mem_of_get? hfound)
  exact ⟨congrArg Urn.mk hname.symm, hlasting⟩

theorem load (h : Shelved b users) (hfound : users.get? user.text = some record) :
    (b.answer (.load .user user)).1 = .ok record := by
  obtain ⟨⟨m, hholds, rfl⟩, -⟩ := h
  rw [(hholds.answer (.load .user user) nofun).1]
  have hrecord : (m.records .user).get? user.text = some record := hfound
  simp only [Memory.answer, hrecord]

theorem load_missing (h : Shelved b users) (hnone : users.get? user.text = none) :
    (b.answer (.load .user user)).1 = .error (Storage.missing .user) := by
  obtain ⟨⟨m, hholds, rfl⟩, -⟩ := h
  rw [(hholds.answer (.load .user user) nofun).1]
  have hrecord : (m.records .user).get? user.text = none := hnone
  simp only [Memory.answer, hrecord]

theorem list (h : Shelved b users) : (b.answer (.list .user)).1 = .ok (users.map Prod.snd) := by
  obtain ⟨⟨m, hholds, rfl⟩, -⟩ := h
  exact (hholds.answer (.list .user) nofun).1

theorem store (h : Shelved b users) (hrecord : record.Lasting) :
    (b.answer (.store .user record)).1 = .ok () ∧
      Shelved (b.answer (.store .user record)).2 (users.put record.id.text record) := by
  obtain ⟨⟨m, hholds, rfl⟩, hlasting⟩ := h
  obtain ⟨hanswer, hafter⟩ := hholds.answer (.store .user record) fun k stored hcall => by
    cases hcall
    exact hrecord.reads
  refine ⟨hanswer, ⟨_, hafter, rfl⟩, fun e he => ?_⟩
  rcases Assoc.mem_put he with rfl | he
  · exact ⟨rfl, hrecord⟩
  · exact hlasting e he

/-- A table stores any record, because to write it takes no reader. -/
theorem store_any (h : Shelved b users) (record : User) :
    (b.answer (.store .user record)).1 = .ok () ∧
      ∃ t m, (b.answer (.store .user record)).2 = .table t ∧ t.Writes m ∧
        m.users = users.put record.id.text record := by
  obtain ⟨⟨m, hholds, rfl⟩, -⟩ := h
  cases hholds with
  | @table t m writes _ =>
    obtain ⟨hanswer, hwrites⟩ := writes.store .user record
    exact ⟨hanswer, _, _, rfl, hwrites, rfl⟩

theorem erase (h : Shelved b users) (hfound : users.get? user.text = some record) :
    (b.answer (.erase .user user)).1 = .ok () ∧
      Shelved (b.answer (.erase .user user)).2 (users.erase user.text) := by
  obtain ⟨⟨m, hholds, rfl⟩, hlasting⟩ := h
  obtain ⟨hanswer, hafter⟩ := hholds.answer (.erase .user user) nofun
  have hstored : (m.records .user).has user.text = true := by
    rw [Assoc.has_eq]
    exact Option.isSome_iff_exists.2 ⟨record, hfound⟩
  have herase : m.answer (.erase .user user) =
      (.ok (), m.setRecords .user ((m.records .user).erase user.text)) := if_pos hstored
  rw [herase] at hanswer hafter
  exact ⟨hanswer, ⟨_, hafter, rfl⟩, fun e he => hlasting e (Assoc.mem_erase he)⟩

end Shelved

end Users

end AccessControl
