/-
Memberships as a plain relation between users and groups, and what the two sides kept in memory have
to do with it. Main statements: what a side holds after a link, an unlink and an erasure
(`Holds.link`, `Holds.unlink`, `Holds.erase`), and that memory answers as the relation does and
follows it (`Memory.answer_inquiry`, `Memory.represents_answer`).
-/
import AccessControl.Proofs.Ordered
import AccessControl.Storage.Memory
import Mathlib.Data.Finset.Sort

namespace AccessControl.Storage

/-! ## The relation -/

/-- Who belongs to which group: pairs of the texts that name a user and a group. -/
abbrev Relation := Finset (String × String)

/-- What can be asked about memberships. -/
inductive Inquiry
  | join (user : Urn .user) (group : Urn .group)
  | part (user : Urn .user) (group : Urn .group)
  | disband (group : Urn .group)
  | memberships (user : Urn .user)
  | members (group : Urn .group)
deriving DecidableEq, Repr

/-- The call to a storage that asks it. -/
def Inquiry.call : Inquiry → Call
  | join user group => .join user group
  | part user group => .part user group
  | disband group => .disband group
  | memberships user => .memberships user
  | members group => .members group

namespace Relation

/-- The groups of a user, ascending. -/
def groupsOf (R : Relation) (user : String) : Roster :=
  ((R.filter fun p => p.1 = user).image Prod.snd).sort

/-- The users of a group, ascending. -/
def usersOf (R : Relation) (group : String) : Roster :=
  ((R.filter fun p => p.2 = group).image Prod.fst).sort

/-- What a relation answers. -/
def answer (R : Relation) : (q : Inquiry) → Answer q.call.Reply
  | .join _ _ => .ok ()
  | .part user group => if (user.text, group.text) ∈ R then .ok () else .error noMember
  | .disband group => .ok (urns (R.usersOf group.text))
  | .memberships user => .ok (urns (R.groupsOf user.text))
  | .members group => .ok (urns (R.usersOf group.text))

/-- What a relation becomes by a call; calls about records do not concern it. -/
def after (R : Relation) : Call → Relation
  | .join user group => insert (user.text, group.text) R
  | .part user group => R.erase (user.text, group.text)
  | .disband group => R.filter fun p => p.2 ≠ group.text
  | _ => R

theorem mem_groupsOf {R : Relation} {user group : String} :
    group ∈ R.groupsOf user ↔ (user, group) ∈ R := by
  simp [groupsOf]

theorem mem_usersOf {R : Relation} {user group : String} :
    user ∈ R.usersOf group ↔ (user, group) ∈ R := by
  simp [usersOf]

theorem ascending_groupsOf (R : Relation) (user : String) : (R.groupsOf user).Ascending :=
  (Finset.sortedLT_sort _).pairwise

theorem ascending_usersOf (R : Relation) (group : String) : (R.usersOf group).Ascending :=
  (Finset.sortedLT_sort _).pairwise

end Relation

theorem mem_urns {k : Kind} {names : Roster} {id : Urn k} : id ∈ urns names ↔ id.text ∈ names := by
  unfold urns
  rw [List.mem_map]
  constructor
  · rintro ⟨name, hname, rfl⟩
    exact hname
  · exact fun h => ⟨id.text, h, rfl⟩

/-! ## One side -/

namespace Memberships

/-- A side holds `rel`: what belongs to a name are the names related to it, in order, and a name to
which none is related is left out. -/
structure Holds (side : Assoc Roster) (rel : String → String → Prop) : Prop where
  sorted : side.Sorted
  ascending : ∀ e ∈ side, e.2.Ascending
  filled : ∀ e ∈ side, e.2 ≠ []
  mem : ∀ name other, other ∈ of side name ↔ rel name other

variable {side : Assoc Roster} {rel : String → String → Prop}

theorem Holds.congr (h : Holds side rel) {rel' : String → String → Prop}
    (hr : ∀ name other, rel name other ↔ rel' name other) : Holds side rel' :=
  ⟨h.sorted, h.ascending, h.filled, fun name other => (h.mem name other).trans (hr name other)⟩

theorem Holds.nil : Holds [] fun _ _ => False :=
  ⟨.nil, by simp, by simp, by simp [of, Assoc.get?_nil]⟩

theorem Holds.of_ascending (h : Holds side rel) (name : String) : (of side name).Ascending := by
  unfold of
  cases hs : side.get? name with
  | none => exact Roster.ascending_nil
  | some others => exact h.ascending _ (Assoc.mem_of_get? hs)

/-- The side with a roster for a name, or without the name where the roster is empty. -/
def setRoster (side : Assoc Roster) (name : String) (names : Roster) : Assoc Roster :=
  if names.isEmpty then side.erase name else side.put name names

theorem link_eq (side : Assoc Roster) (name other : String) :
    link side name other = setRoster side name ((of side name).insert other) := by
  unfold link setRoster
  rw [if_neg (fun h => Roster.insert_ne_nil (List.isEmpty_iff.1 h))]

theorem unlink_eq (side : Assoc Roster) (name other : String) :
    unlink side name other = setRoster side name ((of side name).erase other) := by
  unfold unlink setRoster of
  cases hs : side.get? name with
  | none => exact (Assoc.erase_of_get?_none hs).symm
  | some others => rfl

theorem Holds.setRoster (h : Holds side rel) {rel' : String → String → Prop} (name : String)
    {names : Roster} (hn : names.Ascending)
    (hmem : ∀ n m, m ∈ of (setRoster side name names) n ↔ rel' n m) :
    Holds (setRoster side name names) rel' := by
  unfold Memberships.setRoster at hmem ⊢
  by_cases he : names.isEmpty
  · rw [if_pos he] at hmem ⊢
    exact ⟨h.sorted.erase name, fun e hm => h.ascending e (Assoc.mem_erase hm),
      fun e hm => h.filled e (Assoc.mem_erase hm), hmem⟩
  · rw [if_neg he] at hmem ⊢
    refine ⟨h.sorted.put name names, fun e hm => ?_, fun e hm => ?_, hmem⟩
    · rcases Assoc.mem_put hm with rfl | hm
      · exact hn
      · exact h.ascending e hm
    · rcases Assoc.mem_put hm with rfl | hm
      · exact fun hnil => he (List.isEmpty_iff.2 hnil)
      · exact h.filled e hm

theorem Holds.link (h : Holds side rel) (name other : String) :
    Holds (Memberships.link side name other) fun n m => (n = name ∧ m = other) ∨ rel n m := by
  have hmem : ∀ n m, m ∈ of (Memberships.link side name other) n ↔
      (n = name ∧ m = other) ∨ rel n m := fun n m => by rw [mem_of_link, h.mem]
  rw [link_eq] at hmem ⊢
  exact h.setRoster name ((h.of_ascending name).insert other) hmem

theorem Holds.unlink (h : Holds side rel) (name other : String) :
    Holds (Memberships.unlink side name other) fun n m => rel n m ∧ ¬(n = name ∧ m = other) := by
  have hmem : ∀ n m, m ∈ of (Memberships.unlink side name other) n ↔
      rel n m ∧ ¬(n = name ∧ m = other) := fun n m => by rw [mem_of_unlink, h.mem]
  rw [unlink_eq] at hmem ⊢
  exact h.setRoster name ((h.of_ascending name).erase other) hmem

/-- One name after the other is taken out of what it holds. -/
theorem Holds.unlinkAll (h : Holds side rel) (names : List String) (other : String) :
    Holds (names.foldl (fun side name => Memberships.unlink side name other) side) fun n m =>
      rel n m ∧ ¬(n ∈ names ∧ m = other) := by
  induction names generalizing side rel with
  | nil => exact h.congr fun n m => by simp
  | cons name names ih =>
    refine (ih (h.unlink name other)).congr fun n m => ?_
    rw [List.mem_cons]
    tauto

theorem Holds.erase (h : Holds side rel) (name : String) :
    Holds (side.erase name) fun n m => rel n m ∧ n ≠ name := by
  refine ⟨h.sorted.erase name, fun e hm => h.ascending e (Assoc.mem_erase hm),
    fun e hm => h.filled e (Assoc.mem_erase hm), fun n m => ?_⟩
  rw [← h.mem]
  unfold of
  rw [Assoc.get?_erase]
  by_cases hn : name = n
  · simp [hn]
  · simp [hn, Ne.symm hn]

/-- Linking names that are linked changes nothing. -/
theorem Holds.link_of_rel (h : Holds side rel) {name other : String} (hr : rel name other) :
    Memberships.link side name other = side := by
  have hmem : other ∈ of side name := (h.mem name other).2 hr
  unfold Memberships.link
  rw [Roster.insert_of_mem (h.of_ascending name) hmem]
  unfold of at hmem ⊢
  cases hs : side.get? name with
  | none => rw [hs] at hmem; cases hmem
  | some others => exact h.sorted.put_of_get? hs

/-! ## Both sides -/

/-- Both sides hold the relation, each from its own end. -/
structure Represents (m : Memberships) (R : Relation) : Prop where
  groups : Holds m.groups fun user group => (user, group) ∈ R
  users : Holds m.users fun group user => (user, group) ∈ R

variable {m : Memberships} {R : Relation}

theorem Represents.none : Represents .none ∅ :=
  ⟨Holds.nil.congr (by simp), Holds.nil.congr (by simp)⟩

theorem Represents.groupsOf (h : m.Represents R) (user : String) :
    of m.groups user = R.groupsOf user :=
  (h.groups.of_ascending user).eq_of_mem_iff (R.ascending_groupsOf user) fun group => by
    rw [h.groups.mem, Relation.mem_groupsOf]

theorem Represents.usersOf (h : m.Represents R) (group : String) :
    of m.users group = R.usersOf group :=
  (h.users.of_ascending group).eq_of_mem_iff (R.ascending_usersOf group) fun user => by
    rw [h.users.mem, Relation.mem_usersOf]

theorem Represents.join (h : m.Represents R) (user group : String) :
    (m.join user group).Represents (insert (user, group) R) :=
  ⟨(h.groups.link user group).congr (by simp), (h.users.link group user).congr (by simp [and_comm])⟩

theorem Represents.part (h : m.Represents R) (user group : String) :
    (m.part user group).Represents (R.erase (user, group)) :=
  ⟨(h.groups.unlink user group).congr (by simp; tauto),
    (h.users.unlink group user).congr (by simp; tauto)⟩

theorem Represents.disband (h : m.Represents R) (group : String) :
    (m.disband group).2.Represents (R.filter fun p => p.2 ≠ group) := by
  refine ⟨(h.groups.unlinkAll (of m.users group) group).congr fun u g => ?_,
    (h.users.erase group).congr fun g u => by simp⟩
  -- a user that is not on the other side of the group has not been in it on this side either
  rw [h.users.mem, Finset.mem_filter]
  refine and_congr_right fun hug => ?_
  constructor
  · rintro hn rfl
    exact hn ⟨hug, rfl⟩
  · rintro hn ⟨-, rfl⟩
    exact hn rfl

end Memberships

/-! ## Memory -/

namespace Memory

open Memberships (of)

variable {m : Memory} {R : Relation}

theorem memberships_setRecords (m : Memory) (k : Kind) (records : Assoc (Record k)) :
    (m.setRecords k records).memberships = m.memberships := by
  cases k <;> rfl

/-- Whatever is asked, what memory holds of memberships follows the relation. -/
theorem represents_answer (h : m.memberships.Represents R) (call : Call) :
    (m.answer call).2.memberships.Represents (R.after call) := by
  cases call with
  | load k id => simp only [answer]; split <;> exact h
  | store k record =>
    show (m.setRecords k _).memberships.Represents R
    rwa [memberships_setRecords]
  | erase k id =>
    simp only [answer]
    split
    · show (m.setRecords k _).memberships.Represents R
      rwa [memberships_setRecords]
    · exact h
  | list k => exact h
  | join user group => exact h.join user.text group.text
  | part user group =>
    simp only [answer]
    split
    · exact h.part user.text group.text
    · rename_i hc
      have : (user.text, group.text) ∉ R := fun hm =>
        hc (List.contains_iff_mem.2 ((h.groups.mem _ _).2 hm))
      rwa [Relation.after, Finset.erase_eq_of_notMem this]
  | disband group => exact h.disband group.text
  | memberships user => exact h
  | members group => exact h

/-- Memory answers what the relation answers. -/
theorem answer_inquiry (h : m.memberships.Represents R) (q : Inquiry) :
    (m.answer q.call).1 = R.answer q := by
  cases q with
  | join user group => rfl
  | part user group =>
    show (answer m (.part user group)).1 = R.answer (.part user group)
    simp only [answer, Relation.answer]
    rw [h.groupsOf]
    by_cases hm : (user.text, group.text) ∈ R
    · rw [if_pos hm, if_pos (List.contains_iff_mem.2 (Relation.mem_groupsOf.2 hm))]
      rfl
    · rw [if_neg hm, if_neg fun hc => hm (Relation.mem_groupsOf.1 (List.contains_iff_mem.1 hc))]
      rfl
  | disband group =>
    show Except.ok (urns (of m.memberships.users group.text)) = _
    rw [h.usersOf]
    rfl
  | memberships user =>
    show Except.ok (urns (of m.memberships.groups user.text)) = _
    rw [h.groupsOf]
    rfl
  | members group =>
    show Except.ok (urns (of m.memberships.users group.text)) = _
    rw [h.usersOf]
    rfl

end Memory

end AccessControl.Storage
