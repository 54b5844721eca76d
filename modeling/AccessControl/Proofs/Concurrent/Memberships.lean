/-
No membership dangles, however programs run side by side. Main statement: after any moves from an
empty storage, each membership has the record of its group, and the record of its user or a task
that is going to end it; once all tasks have finished, both records are there, and a group that has
just been created has no members (`memberships_never_dangle`).
-/
import AccessControl.Proofs.Concurrent.Soundness

namespace AccessControl.World

open Storage (Relation)

variable {w : World} {R : Relation} {stance : Nat → Option Stance}

/-! ## What is seen -/

theorem member_iff (h : w.realm.storage.Represents R) {user : Urn .user} {group : Urn .group} :
    w.Member user group ↔ (user.text, group.text) ∈ R := by
  have hanswer : (w.realm.storage.answer (.memberships user)).1 =
      .ok (Storage.urns (R.groupsOf user.text)) :=
    (Storage.Backend.answer_inquiry h (.memberships user)).1
  rw [← Storage.Relation.mem_groupsOf, ← Storage.mem_urns]
  constructor
  · rintro ⟨groups, hgroups, hmem⟩
    rw [hanswer] at hgroups
    exact Except.ok.inj hgroups ▸ hmem
  · exact fun hmem => ⟨_, hanswer, hmem⟩

/-- The storage lists the memberships from both ends. -/
theorem listed (h : w.realm.storage.Represents R) (user : Urn .user) (group : Urn .group) :
    ∃ (groups : List (Urn .group)) (users : List (Urn .user)),
      (w.realm.storage.answer (.memberships user)).1 = .ok groups ∧
      (w.realm.storage.answer (.members group)).1 = .ok users ∧
      (group ∈ groups ↔ user ∈ users) := by
  refine ⟨_, _, (Storage.Backend.answer_inquiry h (.memberships user)).1,
    (Storage.Backend.answer_inquiry h (.members group)).1, ?_⟩
  rw [Storage.mem_urns, Storage.mem_urns, Storage.Relation.mem_groupsOf,
    Storage.Relation.mem_usersOf]

/-- Who owes something for the end of a user has not finished. -/
theorem Sound.ending_of_duty (h : w.Sound R stance) {id : Nat} {s : Stance} {user : Urn .user}
    (hs : stance id = some s) (hsub : s.subject = some user.text) (hd : s.duty ≠ .none) :
    w.Ending user := by
  cases ht : w.tasks id with
  | none =>
    rw [h.nobody id ht] at hs
    cases hs
  | some t =>
    obtain ⟨s', hs', hf⟩ := h.follows id t ht
    rw [hs] at hs'
    obtain rfl := Option.some.inj hs'
    refine .inr ⟨id, t, ht, Errand.eq_of_subject (hf.subject.symm.trans hsub), ?_⟩
    rintro ⟨answer, hdone⟩
    -- an errand that has ended owes nothing
    have hends := hf.safe
    rw [hdone] at hends
    exact hd (Errand.duty_of_ends hends)

/-- Each membership has the record of its group, and its user has one or is about to end. -/
theorem Sound.backed (h : w.Sound R stance) {user : Urn .user} {group : Urn .group}
    (hm : w.Member user group) : w.HasGroup group ∧ (w.HasUser user ∨ w.Ending user) := by
  have hp := (member_iff h.represents).1 hm
  refine ⟨h.good.backed user.text group.text hp, ?_⟩
  rcases h.good.covered user.text group.text hp with
    (hu | hann | ⟨id, s, hs, hdue⟩) | ⟨id, s, hs, htakes⟩
  · exact .inl hu
  · exact .inr (.inl hann)
  · exact .inr (h.ending_of_duty hs hdue.1 hdue.duty_ne)
  · exact .inr (h.ending_of_duty hs htakes.1 htakes.duty_ne)

theorem Settled.not_ending (hw : w.Settled) (user : Urn .user) : ¬ w.Ending user := by
  rintro (⟨n, hn⟩ | ⟨id, t, ht, -, hdone⟩)
  · exact hw.2 n user hn
  · exact hdone (hw.1 id t ht)

/-! ## New groups -/

theorem answer_storage_cases (realm : Realm) (givenUp : Bool) (origin : Origin) (call : Call) :
    (realm.answer givenUp origin call).2.storage = realm.storage ∨
      ∃ c, (realm.answer givenUp origin call).2.storage = (realm.storage.answer c).2 := by
  cases call with
  | storage call =>
    cases hr : givenUp && origin == .caller with
    | true => exact .inl (by simp only [Realm.answer, hr]; rfl)
    | false => exact .inr ⟨call, by simp only [Realm.answer, hr]; rfl⟩
  | accounts call =>
    left
    cases hr : givenUp && origin == .caller <;> simp only [Realm.answer, hr] <;> rfl
  | _ => exact .inl rfl

/-- A move makes at most one call to the storage. -/
theorem step_storage (w : World) (move : Move) :
    (w.step move).realm.storage = w.realm.storage ∨
      ∃ call, (w.step move).realm.storage = (w.realm.storage.answer call).2 := by
  cases move with
  | proceed id =>
    cases ht : w.tasks id with
    | none =>
      simp only [step, ht]
      exact .inl trivial
    | some t =>
      obtain ⟨errand, left, givenUp⟩ := t
      simp only [step, ht]
      cases left with
      | done answer => exact .inl rfl
      | ask origin call next =>
        by_cases ha : w.admits givenUp origin call = true
        · rw [proceed_ask w id ha]
          exact answer_storage_cases w.realm givenUp origin call
        · rw [proceed_waits w id ha]
          exact .inl rfl
  | outside accounts now => exact .inl rfl
  | begin id errand =>
    simp only [step]
    split
    · split <;> exact .inl rfl
    · exact .inl rfl
  | giveUp id =>
    simp only [step]
    split <;> exact .inl rfl
  | abandon id =>
    simp only [step]
    split
    · split <;> exact .inl rfl
    · exact .inl rfl
  | hear place id =>
    simp only [step]
    split <;> exact .inl rfl

/-- A move that makes the record of a group leaves it without members. -/
theorem Sound.appears (h : w.Sound R stance) {move : Move} {group : Urn .group}
    (hbefore : ¬ w.HasGroup group) (hafter : (w.step move).HasGroup group) (user : Urn .user) :
    ¬ (w.step move).Member user group := by
  have hnone : (user.text, group.text) ∉ R := fun hp =>
    hbefore (h.backed ((member_iff h.represents).2 hp)).1
  unfold HasGroup at hbefore hafter
  rcases step_storage w move with hsame | ⟨call, hcall⟩
  · rw [hsame] at hafter
    exact absurd hafter hbefore
  · rw [hcall, Storage.Backend.answer_names h.represents call] at hafter
    have hfollows := Storage.Backend.answer_follows h.represents call
    rw [← hcall] at hfollows
    rw [member_iff hfollows]
    rcases Storage.Names.of_after hafter with hafter | ⟨record, rfl⟩
    · exact absurd hafter hbefore
    -- the call that stores the record leaves the memberships alone
    · exact hnone

/-- When a task has made a group, nobody is in it. -/
theorem Sound.created (h : w.Sound R stance) {id : Nat} {t : Task} (ht : w.tasks id = some t)
    (hleft : ¬ t.Done) {name : String} {comment : Option String} {group : Urn .group}
    {givenUp : Bool} (hmade : (w.step (.proceed id)).tasks id =
      some ⟨.createGroup name comment, .done (.ok group), givenUp⟩) :
    (w.step (.proceed id)).HasGroup group ∧ ∀ user, ¬ (w.step (.proceed id)).Member user group := by
  obtain ⟨s, hs, hf⟩ := h.follows id t ht
  obtain ⟨errand, left, gaveUp⟩ := t
  have hstep : w.step (.proceed id) = w.proceed id ⟨errand, left, gaveUp⟩ := by
    simp only [World.step, ht]
  rw [hstep] at hmade ⊢
  cases left with
  | done answer => exact absurd ⟨answer, rfl⟩ hleft
  | ask origin call next =>
    by_cases ha : w.admits gaveUp origin call = true
    · obtain ⟨hp, hnext⟩ := hf.safe
      obtain ⟨R', hr⟩ := h.answered hs hp ha
      have hsafe := hnext _ hr.possible
      rw [proceed_ask w id ha] at hmade ⊢
      have hmade : some (Task.mk errand (next (w.realm.answer gaveUp origin call).1) gaveUp) =
          some ⟨.createGroup name comment, .done (.ok group), givenUp⟩ := by
        rw [← hmade]
        exact (if_pos rfl).symm
      obtain ⟨rfl, hdone, -⟩ := Task.mk.inj (Option.some.inj hmade)
      rw [eq_of_heq hdone] at hsafe
      obtain ⟨hduty, hgroup⟩ := hsafe
      obtain ⟨hlast, hvacant, hpresent⟩ := hgroup group rfl
      -- the last thing the task did was to leave the gate, inside which its knowledge holds
      obtain rfl : call = .leave .group := by
        unfold Stance.after at hlast
        split at hlast
        · rfl
        · cases hlast
      have hduty : s.duty = .none := hduty
      have hinside : s.inside = true := by
        unfold Stance.permits at hp
        rw [hduty] at hp
        exact hp
      have hknows := h.good.knows id s hs hinside
      -- to leave the gate changes nothing in the storage
      refine ⟨hknows.present group.text hpresent, fun user hm => ?_⟩
      have hm : w.Member user group := hm
      exact hknows.vacant group.text hvacant user.text ((member_iff h.represents).1 hm)
    · rw [proceed_waits w id ha, ht] at hmade
      obtain ⟨rfl, hdone, -⟩ := Task.mk.inj (Option.some.inj hmade)
      cases eq_of_heq hdone

/-! ## No membership dangles -/

/-- What a world shows of its memberships, and keeps to when it moves on. -/
structure NeverDangles (w : World) : Prop where
  /-- Both ends of the memberships can be listed. -/
  listed : ∀ user group, ∃ (groups : List (Urn .group)) (users : List (Urn .user)),
    (w.realm.storage.answer (.memberships user)).1 = .ok groups ∧
      (w.realm.storage.answer (.members group)).1 = .ok users ∧ (group ∈ groups ↔ user ∈ users)
  backed : ∀ user group, w.Member user group →
    w.HasGroup group ∧ (w.HasUser user ∨ w.Ending user)
  settled : w.Settled → ∀ user group, w.Member user group → w.HasGroup group ∧ w.HasUser user
  /-- The record of a group comes without members. -/
  appears : ∀ move group, ¬ w.HasGroup group → (w.step move).HasGroup group →
    ∀ user, ¬ (w.step move).Member user group
  /-- A group that a task has just made has none when its caller hears of it. -/
  created : ∀ id t name comment group givenUp, w.tasks id = some t → ¬ t.Done →
    (w.step (.proceed id)).tasks id =
      some ⟨.createGroup name comment, .done (.ok group), givenUp⟩ →
    (w.step (.proceed id)).HasGroup group ∧ ∀ user, ¬ (w.step (.proceed id)).Member user group

theorem Sound.neverDangles (h : w.Sound R stance) : w.NeverDangles where
  listed := World.listed h.represents
  backed _ _ := h.backed
  settled hw user _ hm :=
    ⟨(h.backed hm).1, (h.backed hm).2.resolve_right (hw.not_ending user)⟩
  appears _ _ := h.appears
  created _ _ _ _ _ _ ht hleft := h.created ht hleft

/-- Over an empty storage of either kind no membership ever dangles. -/
theorem memberships_never_dangle (accounts : Accounts.Store) (now : Nat) (moves : List Move) :
    ((start (.start (.memory .empty) accounts now)).run moves).NeverDangles ∧
      ((start (.start (.table .empty) accounts now)).run moves).NeverDangles := by
  have hmemory : (Storage.Backend.memory .empty).Represents ∅ := Storage.Memberships.Represents.none
  have htable : (Storage.Backend.table .empty).Represents ∅ := Storage.Table.Represents.empty
  obtain ⟨_, _, hmemory⟩ := (sound_start hmemory accounts now).run moves
  obtain ⟨_, _, htable⟩ := (sound_start htable accounts now).run moves
  exact ⟨hmemory.neverDangles, htable.neverDangles⟩

end AccessControl.World
