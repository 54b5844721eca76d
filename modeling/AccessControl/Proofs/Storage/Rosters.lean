/-
Memberships in a table. A table keeps the two sides as texts, one bucket for each side, and its
transactions do to the texts what memory does to the sides (`join_run`, `part_run`, `disband_run`).
So a table answers as the relation does and follows it, and calls about memberships leave the
records alone (`Table.answer_inquiry`).
-/
import AccessControl.Proofs.Json.Document
import AccessControl.Proofs.Storage.Relation
import AccessControl.Storage.Table

namespace AccessControl.Storage

open Memberships (of Holds)

namespace Table

/-! ## One side -/

/-- A roster comes back as it was written. -/
theorem rosterOf_rosterText {names : Roster} (h : names.Ascending) :
    rosterOf (some (rosterText names)) = .ok names := by
  have hd : decode (Json.Decoder.list Json.Decoder.text) (rosterText names) = .ok names := by
    unfold decode rosterText
    rw [Json.Decoder.decode_texts]
  show (decode _ _ >>= fun names => pure (Roster.ofList names)) = _
  rw [hd]
  exact congrArg Except.ok (Roster.ofList_of_ascending h)

theorem rosterOf_get? {side : Assoc Roster} {rel : String → String → Prop} (h : Holds side rel)
    (name : String) :
    rosterOf ((side.mapValues rosterText).get? name) = .ok (of side name) := by
  rw [Assoc.get?_mapValues]
  unfold of
  cases hs : side.get? name with
  | none => rfl
  | some names => exact rosterOf_rosterText (h.ascending _ (Assoc.mem_of_get? hs))

/-- The rows with a roster in a row, or without the row where the roster is empty. -/
def setRoster (rows : Rows) (bucket key : String) (names : Roster) : Rows :=
  if names.isEmpty then rows.remove bucket key else rows.write bucket key (rosterText names)

theorem bucket_setRoster (rows : Rows) (bucket key : String) (names : Roster)
    {side : Assoc Roster} (h : rows.bucket bucket = side.mapValues rosterText) :
    (setRoster rows bucket key names).bucket bucket =
      (Memberships.setRoster side key names).mapValues rosterText := by
  unfold setRoster Memberships.setRoster
  split
  · rw [Rows.remove, Rows.bucket_put, if_pos rfl, h, Assoc.erase_mapValues]
  · rw [Rows.write, Rows.bucket_put, if_pos rfl, h, Assoc.put_mapValues]

theorem bucket_setRoster_ne (rows : Rows) {bucket c : String} (key : String) (names : Roster)
    (h : bucket ≠ c) : (setRoster rows bucket key names).bucket c = rows.bucket c := by
  unfold setRoster
  split
  · rw [Rows.remove, Rows.bucket_put, if_neg h]
  · rw [Rows.write, Rows.bucket_put, if_neg h]

namespace Membership

variable {rows : Rows} {side : Assoc Roster} {rel : String → String → Prop}

/-- A transaction goes on with what its first step answers, on the rows that it leaves. -/
theorem run_bind {α β : Type} {first : Transaction α} {next : α → Transaction β} {a : α}
    {rows' : Rows} (h : first.run rows = .ok (a, rows')) :
    (first >>= next).run rows = (next a).run rows' := by
  rw [StateT.run_bind, h]
  rfl

theorem readRoster_run {bucket : String} (hb : rows.bucket bucket = side.mapValues rosterText)
    (h : Holds side rel) (key : String) :
    (readRoster bucket key).run rows = .ok (of side key, rows) := by
  show (rosterOf ((rows.bucket bucket).get? key) >>= fun r => pure (r, rows)) = _
  rw [hb, rosterOf_get? h]
  rfl

theorem writeRoster_run (rows : Rows) (bucket key : String) (names : Roster) :
    (writeRoster bucket key names).run rows = .ok ((), setRoster rows bucket key names) := by
  unfold writeRoster setRoster
  split <;> rfl

/-! ## Both sides -/

/-- The rows keep the two sides as texts. -/
structure Keep (rows : Rows) (m : Memberships) : Prop where
  groups : rows.bucket groupsOfUsers = m.groups.mapValues rosterText
  users : rows.bucket usersOfGroups = m.users.mapValues rosterText

/-- The records of every kind are the same. -/
def SameRecords (rows rows' : Rows) : Prop :=
  ∀ k, rows'.bucket (bucketOf k) = rows.bucket (bucketOf k)

theorem groupsOfUsers_ne (k : Kind) : groupsOfUsers ≠ bucketOf k := by
  cases k <;> decide

theorem usersOfGroups_ne (k : Kind) : usersOfGroups ≠ bucketOf k := by
  cases k <;> decide

theorem sides_ne : groupsOfUsers ≠ usersOfGroups := by decide

variable {m : Memberships} {R : Relation}

/-- Writing a roster of the one side and a roster of the other. -/
theorem Keep.setRosters (h : Keep rows m) (user group : String) (groups users : Roster) :
    Keep (setRoster (setRoster rows groupsOfUsers user groups) usersOfGroups group users)
      ⟨Memberships.setRoster m.groups user groups, Memberships.setRoster m.users group users⟩ where
  groups := by
    rw [bucket_setRoster_ne _ _ _ sides_ne.symm, bucket_setRoster _ _ _ _ h.groups]
  users := by
    rw [bucket_setRoster _ _ _ _ ((bucket_setRoster_ne _ _ _ sides_ne).trans h.users)]

theorem sameRecords_setRosters (rows : Rows) (user group : String) (groups users : Roster) :
    SameRecords rows
      (setRoster (setRoster rows groupsOfUsers user groups) usersOfGroups group users) :=
  fun k => by
    rw [bucket_setRoster_ne _ _ _ (usersOfGroups_ne k),
      bucket_setRoster_ne _ _ _ (groupsOfUsers_ne k)]

theorem join_run (hk : Keep rows m) (hr : m.Represents R) (user group : String) :
    ∃ rows', (join user group).run rows = .ok ((), rows') ∧ Keep rows' (m.join user group) ∧
      SameRecords rows rows' := by
  unfold join
  rw [run_bind (readRoster_run hk.groups hr.groups user),
    run_bind (readRoster_run hk.users hr.users group)]
  by_cases hc : (of m.groups user).contains group && (of m.users group).contains user
  · -- both sides have the pair already, so memory writes what is there
    rw [if_pos hc]
    simp only [Bool.and_eq_true, List.contains_iff_mem] at hc
    refine ⟨rows, rfl, ?_, fun _ => rfl⟩
    unfold Memberships.join
    rwa [hr.groups.link_of_rel ((hr.groups.mem _ _).1 hc.1),
      hr.users.link_of_rel ((hr.users.mem _ _).1 hc.2)]
  · rw [if_neg hc, run_bind (writeRoster_run _ _ _ _), writeRoster_run]
    refine ⟨_, rfl, ?_, sameRecords_setRosters _ _ _ _ _⟩
    unfold Memberships.join
    rw [Memberships.link_eq, Memberships.link_eq]
    exact hk.setRosters ..

theorem part_run (hk : Keep rows m) (hr : m.Represents R) (user group : String) :
    if (of m.groups user).contains group then
      ∃ rows', (part user group).run rows = .ok ((), rows') ∧ Keep rows' (m.part user group) ∧
        SameRecords rows rows'
    else (part user group).run rows = .error noMember := by
  unfold part
  rw [run_bind (readRoster_run hk.groups hr.groups user)]
  split
  · dsimp only
    rw [run_bind (readRoster_run hk.users hr.users group),
      run_bind (writeRoster_run _ _ _ _), writeRoster_run]
    refine ⟨_, rfl, ?_, sameRecords_setRosters _ _ _ _ _⟩
    unfold Memberships.part
    rw [Memberships.unlink_eq, Memberships.unlink_eq]
    exact hk.setRosters ..
  · rfl

/-- Each of the users loses the group on its side; nothing else in the rows changes. -/
theorem retract_run (group : String) (users : List String) :
    ∀ {rows : Rows} {side : Assoc Roster} {rel : String → String → Prop},
      rows.bucket groupsOfUsers = side.mapValues rosterText → Holds side rel →
      ∃ rows', (retract group users).run rows = .ok ((), rows') ∧
        rows'.bucket groupsOfUsers =
          (users.foldl (fun side user => Memberships.unlink side user group) side).mapValues
            rosterText ∧
        ∀ c, groupsOfUsers ≠ c → rows'.bucket c = rows.bucket c := by
  induction users with
  | nil => exact fun hb _ => ⟨_, rfl, hb, fun _ _ => rfl⟩
  | cons user users ih =>
    intro rows side rel hb h
    -- after the first user the rows keep the side that memory has by then
    have hb' : (setRoster rows groupsOfUsers user ((of side user).erase group)).bucket
        groupsOfUsers = (Memberships.unlink side user group).mapValues rosterText := by
      rw [bucket_setRoster _ _ _ _ hb, Memberships.unlink_eq]
    obtain ⟨rows', hrun, hbucket, hother⟩ := ih hb' (h.unlink user group)
    refine ⟨rows', ?_, hbucket, fun c hc => ?_⟩
    · unfold retract
      rw [run_bind (readRoster_run hb h user), run_bind (writeRoster_run _ _ _ _), hrun]
    · rw [hother c hc, bucket_setRoster_ne _ _ _ hc]

theorem disband_run (hk : Keep rows m) (hr : m.Represents R) (group : String) :
    ∃ rows', (disband group).run rows = .ok ((m.disband group).1, rows') ∧
      Keep rows' (m.disband group).2 ∧ SameRecords rows rows' := by
  -- the loop works on the one side, so the roster of the group can be removed from the other after
  obtain ⟨rows', hrun, hbucket, hother⟩ :=
    retract_run group (of m.users group) hk.groups hr.groups
  refine ⟨rows'.remove usersOfGroups group, ?_, ⟨?_, ?_⟩, fun k => ?_⟩
  · unfold disband
    rw [run_bind (readRoster_run hk.users hr.users group), run_bind hrun]
    rfl
  · rw [Rows.remove, Rows.bucket_put, if_neg sides_ne.symm]
    exact hbucket
  · rw [Rows.remove, Rows.bucket_put, if_pos rfl, hother _ sides_ne, hk.users,
      Assoc.erase_mapValues]
    rfl
  · rw [Rows.remove, Rows.bucket_put, if_neg (usersOfGroups_ne k), hother _ (groupsOfUsers_ne k)]

end Membership

/-! ## The table -/

/-- An open table that keeps two sides which hold the relation. -/
structure Represents (t : Table) (R : Relation) : Prop where
  isOpen : t.isOpen
  keeps : ∃ m : Memberships, Membership.Keep t.rows m ∧ m.Represents R

variable {t : Table} {R : Relation}

theorem Represents.empty : Represents .empty ∅ :=
  ⟨rfl, .none, ⟨rfl, rfl⟩, .none⟩

theorem transact_ok {α : Type} {steps : Transaction α} {value : α} {rows : Rows}
    (h : t.isOpen) (hs : steps.run t.rows = .ok (value, rows)) :
    t.transact steps = (.ok value, { t with rows }) := by
  unfold transact
  rw [if_pos h, hs]

theorem transact_error {α : Type} {steps : Transaction α} {failure : Failure} (h : t.isOpen)
    (hs : steps.run t.rows = .error failure) : t.transact steps = (.error failure, t) := by
  unfold transact
  rw [if_pos h, hs]

theorem peek_ok {α : Type} (h : t.isOpen) (operation : String) (look : Rows → α) :
    t.peek operation look = .ok (look t.rows) := by
  unfold peek
  rw [if_pos h]

/-- A call about memberships is answered as by the relation, leaves a table that follows it, and
does not touch the records. -/
theorem answer_inquiry (h : t.Represents R) (q : Inquiry) :
    (t.answer q.call).1 = R.answer q ∧ (t.answer q.call).2.Represents (R.after q.call) ∧
      Membership.SameRecords t.rows (t.answer q.call).2.rows := by
  obtain ⟨ho, m, hk, hr⟩ := h
  cases q with
  | join user group =>
    obtain ⟨rows, hrun, hk', hs⟩ := Membership.join_run hk hr user.text group.text
    have ha : t.answer (.join user group) = (.ok (), { t with rows }) := transact_ok ho hrun
    exact ⟨congrArg Prod.fst ha, ha ▸ ⟨ho, _, hk', hr.join ..⟩, ha ▸ hs⟩
  | part user group =>
    have hp := Membership.part_run hk hr user.text group.text
    by_cases hm : (user.text, group.text) ∈ R
    · rw [if_pos (List.contains_iff_mem.2 ((hr.groups.mem _ _).2 hm))] at hp
      obtain ⟨rows, hrun, hk', hs⟩ := hp
      have ha : t.answer (.part user group) = (.ok (), { t with rows }) := transact_ok ho hrun
      exact ⟨(congrArg Prod.fst ha).trans (if_pos hm).symm, ha ▸ ⟨ho, _, hk', hr.part ..⟩, ha ▸ hs⟩
    · rw [if_neg fun hc => hm ((hr.groups.mem _ _).1 (List.contains_iff_mem.1 hc))] at hp
      have ha : t.answer (.part user group) = (.error noMember, t) := transact_error ho hp
      refine ⟨(congrArg Prod.fst ha).trans (if_neg hm).symm, ha ▸ ⟨ho, m, hk, ?_⟩,
        ha ▸ fun _ => rfl⟩
      show m.Represents (R.erase _)
      rwa [Finset.erase_eq_of_notMem hm]
  | disband group =>
    obtain ⟨rows, hrun, hk', hs⟩ := Membership.disband_run hk hr group.text
    have ha : t.answer (.disband group) =
        (.ok (urns (of m.users group.text)), { t with rows }) := by
      simp only [answer, transact_ok ho hrun]
      rfl
    refine ⟨(congrArg Prod.fst ha).trans ?_, ha ▸ ⟨ho, _, hk', hr.disband _⟩, ha ▸ hs⟩
    rw [hr.usersOf]
    rfl
  | memberships user =>
    refine ⟨?_, ⟨ho, m, hk, hr⟩, fun _ => rfl⟩
    show urns <$> (t.text? groupsOfUsers user.text >>= rosterOf) = _
    rw [text?, peek_ok ho]
    show urns <$> rosterOf ((t.rows.bucket groupsOfUsers).get? user.text) = _
    rw [hk.groups, rosterOf_get? hr.groups, hr.groupsOf]
    rfl
  | members group =>
    refine ⟨?_, ⟨ho, m, hk, hr⟩, fun _ => rfl⟩
    show urns <$> (t.text? usersOfGroups group.text >>= rosterOf) = _
    rw [text?, peek_ok ho]
    show urns <$> rosterOf ((t.rows.bucket usersOfGroups).get? group.text) = _
    rw [hk.users, rosterOf_get? hr.users, hr.usersOf]
    rfl

end Table

end AccessControl.Storage
