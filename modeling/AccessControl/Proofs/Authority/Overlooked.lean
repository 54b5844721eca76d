/-
Which users policies know nothing of. To tell nothing of a user is to let the policies decide
without it, and a policy that denies because of an attribute is then passed over. Main statement:
nothing is told of a stored user only where its name is that of no account or the account store says
that there is no such account; every other failure is a refusal, and where a request is granted the
policies have seen all that the users on its sides are described by (`stored_heeded`). That an
account store knows no such account is enough to pass over a policy that denies
(`denial_overlooked`).
-/
import AccessControl.Proofs.Authority.Told

namespace AccessControl

/-- A storage that fails to load a record never says that the name is malformed. -/
theorem Storage.Backend.load_failure {b : Backend} {k : Kind} {id : Urn k} {failure : Failure}
    (h : (b.answer (.load k id)).1 = .error failure) :
    failure = missing k ∨ failure = Table.closed "get" ∨ failure = Table.undecodable := by
  cases b with
  | memory m =>
    simp only [answer, Memory.answer] at h
    split at h <;> cases h
    exact .inl rfl
  | table t =>
    simp only [answer, Table.answer, Table.text?, Table.peek] at h
    cases hopen : t.isOpen with
    | false =>
      simp only [hopen] at h
      cases h
      exact .inr (.inl rfl)
    | true =>
      simp only [hopen, if_true] at h
      cases htext : t.rows.text? (Table.bucketOf k) id.text with
      | none =>
        rw [htext] at h
        cases h
        exact .inl rfl
      | some text =>
        simp only [htext, Table.decode] at h
        split at h <;> cases h
        exact .inr (.inr rfl)

namespace Authority

open Enforcement (placed)
open Realm (runVia)
open Users (accountOf?)

variable {σ : Type} {bridge : Accounts.Bridge σ} {givenUp : Bool} {s : Realm × σ} {u : Urn .user}
  {start : String} {context : Attributes} {record : User}

/-- Where a storage says that there is no such user nothing is kept under that name. -/
theorem entry_of_unknown {b : Storage.Backend} {failure : Failure}
    (h : (b.answer (.load .user u)).1 = .error failure) (hunknown : isUnknown failure = true) :
    b.entry .user u.text = none := by
  rcases Storage.Backend.load_failure h with rfl | rfl | rfl
  · exact b.entry_of_missing h rfl
  · cases hunknown
  · cases hunknown

/-- A stored user is disowned where its name is that of no account, or where the account store says
that there is no such account. -/
def Disowned (bridge : Accounts.Bridge σ) (s : Realm × σ) (u : Urn .user) (record : User) : Prop :=
  accountOf? u = none ∨ ∃ failure,
    (bridge false (.account record.account) s.2).1 = .error failure ∧ isUnknown failure = true

/-- What is told of a stored user that is not disowned is its description. -/
theorem Tells.described (h : Tells bridge givenUp start u s context)
    (hload : (s.1.storage.answer (.load .user u)).1 = .ok record)
    (howned : ¬ Disowned bridge s u record) :
    ∃ groups, (s.1.storage.answer (.memberships u)).1 = .ok groups ∧
      Describes start record groups context := by
  cases h with
  | unnamed named => exact absurd (.inl named) howned
  | missing _ _ loads _ => cases hload.symm.trans loads
  | unaccounted _ _ loads asks unknown =>
    obtain rfl := Except.ok.inj (hload.symm.trans loads)
    exact absurd (.inr ⟨_, asks, unknown⟩) howned
  | @full _ _ groups _ _ loads _ belongs =>
    obtain rfl := Except.ok.inj (hload.symm.trans loads)
    exact ⟨groups, belongs, describes_attributesOf start record groups⟩

/-- All that a stored user is described by is in the context of a request, unless it is disowned. -/
def Seen (bridge : Accounts.Bridge σ) (s : Realm × σ) (start name : String) (context : Attributes) :
    Prop :=
  ∀ record, Text.beginsWith name (Urn.compose .user "") = true →
    (s.1.storage.answer (.load .user ⟨name⟩)).1 = .ok record → ¬ Disowned bridge s ⟨name⟩ record →
    ∃ groups description, Describes start record groups description ∧
      ∀ key value, description.get? key = some value → context.get? key = some value

theorem seen_of_info {name : String} {told : Attributes}
    (h : (runVia bridge givenUp (info start name) s).1 = .ok told)
    (hall : ∀ key value, told.get? key = some value → context.get? key = some value) :
    Seen bridge s start name context := by
  intro record hbegins hload howned
  rw [info_eq, if_pos hbegins] at h
  obtain ⟨groups, -, hdescribes⟩ := (userInfo_ok_iff.1 h).described hload howned
  exact ⟨groups, told, hdescribes, hall⟩

/-- How stored users come into decisions, beside an account store that answers as it likes. -/
structure Heeded (bridge : Accounts.Bridge σ) (s : Realm × σ) : Prop where
  /-- Where nothing is told of a name there is no record of it, or it is that of a user that is
  disowned. -/
  nothing : ∀ (givenUp : Bool) (start : String) (u : Urn .user),
    (runVia bridge givenUp (userInfo start u.text) s).1 = .ok [] →
      s.1.storage.entry .user u.text = none ∨ accountOf? u = none ∨
        ∃ record, (s.1.storage.answer (.load .user u)).1 = .ok record ∧ Disowned bridge s u record
  /-- Of a user that is disowned nothing is told. -/
  disowned : ∀ (start : String) (u : Urn .user) (record : User),
    (s.1.storage.answer (.load .user u)).1 = .ok record → Disowned bridge s u record →
      (runVia bridge false (userInfo start u.text) s).1 = .ok []
  /-- Any other stored user is described in full, or else the point fails. -/
  owned : ∀ (givenUp : Bool) (start : String) (u : Urn .user) (record : User),
    (s.1.storage.answer (.load .user u)).1 = .ok record → ¬ Disowned bridge s u record →
      (∃ context groups, (runVia bridge givenUp (userInfo start u.text) s).1 = .ok context ∧
        (s.1.storage.answer (.memberships u)).1 = .ok groups ∧
          Describes start record groups context) ∨
      ∃ failure, (runVia bridge givenUp (userInfo start u.text) s).1 = .error failure
  /-- Where a request is granted, the policies have been asked about both of its sides with all that
  they are described by. -/
  granted : ∀ (givenUp : Bool) (scope : Scope), scope.context.Sorted →
    (runVia bridge givenUp (enforcer scope) s).1 = .ok () →
      ∃ request asked after, scope.subject = some request.subject ∧
        scope.resource = some request.resource ∧ asked.1 = s.1 ∧
        Seen bridge s "subject" request.subject request.context ∧
        Seen bridge asked "resource" request.resource request.context ∧
        (runVia bridge givenUp (decide request) after).1 = .ok .allow

theorem attributesOf_ne_nil (start : String) (user : User) (groups : List (Urn .group)) :
    attributesOf start user groups ≠ [] := by
  intro h
  have husername := (describes_attributesOf start user groups).username
  rw [h] at husername
  cases husername

/-- A stored user is never overlooked for another reason than that it is disowned. -/
theorem stored_heeded (bridge : Accounts.Bridge σ) (s : Realm × σ) : Heeded bridge s where
  nothing givenUp start u h := by
    have htold := userInfo_ok_iff.1 h
    generalize hnone : ([] : Attributes) = context at htold
    cases htold with
    | unnamed named => exact .inr (.inl named)
    | missing _ _ loads unknown => exact .inl (entry_of_unknown loads unknown)
    | unaccounted _ _ loads asks unknown =>
      exact .inr (.inr ⟨_, loads, .inr ⟨_, asks, unknown⟩⟩)
    | full => exact absurd hnone.symm (attributesOf_ne_nil _ _ _)
  disowned start u record hload hdisowned := by
    refine userInfo_ok_iff.2 ?_
    cases hnamed : accountOf? u with
    | none => exact .unnamed hnamed
    | some id =>
      rcases hdisowned with hunnamed | ⟨failure, hasks, hunknown⟩
      · cases hnamed.symm.trans hunnamed
      · exact .unaccounted (hnamed ▸ rfl) rfl hload hasks hunknown
  owned givenUp start u record hload howned := by
    cases h : (runVia bridge givenUp (userInfo start u.text) s).1 with
    | error failure => exact .inr ⟨failure, rfl⟩
    | ok context =>
      obtain ⟨groups, hgroups, hdescribes⟩ := (userInfo_ok_iff.1 h).described hload howned
      exact .inl ⟨context, groups, rfl, hgroups, hdescribes⟩
  granted givenUp scope hscope h := by
    have horderly (start : String) : ∀ point ∈ (some (info start)).map (placed bridge givenUp),
        Enforcement.Orderly point :=
      fun point hpoint => Option.some.inj hpoint ▸ orderly_info bridge givenUp start
    unfold enforcer at h
    rw [Enforcement.runVia_point] at h
    obtain ⟨request, after, hgathered, hallow⟩ :=
      (Enforcement.enforce_ok_iff (horderly "subject") (horderly "resource") hscope _ s).1 h
    obtain ⟨ofSubject, ofResource, asked, hsubject, hresource, -, -, -, -, hall⟩ :=
      hgathered.context
    have hsubject : runVia bridge givenUp (info "subject" request.subject) s =
        (.ok ofSubject, asked) := hsubject
    have hresource : runVia bridge givenUp (info "resource" request.resource) asked =
        (.ok ofResource, after) := hresource
    have hasked : asked.1 = s.1 := by
      have hrealm := @info_realm _ bridge givenUp s "subject" request.subject
      rwa [hsubject] at hrealm
    exact ⟨request, asked, after, hgathered.subject.1, hgathered.resource.1, hasked,
      seen_of_info (congrArg Prod.fst hsubject) fun key value hkey =>
        (hall key value).2 (.inr (.inl hkey)),
      seen_of_info (congrArg Prod.fst hresource) fun key value hkey =>
        (hall key value).2 (.inr (.inr hkey)), hallow⟩

/-! ## A policy that is passed over -/

/-- Allows a user to read a document. -/
def everyday : Policy :=
  { Policy.ofEffect .allow with
    id := ⟨"urn:iam::policy/everyday"⟩, subjects := [ada.id.text], actions := ["read"],
    resources := ["doc"] }

/-- Denies it to those who are suspended. -/
def suspension : Policy :=
  { Policy.ofEffect .deny with
    id := ⟨"urn:iam::policy/suspension"⟩, subjects := [ada.id.text], actions := ["read"],
    resources := ["doc"], conditions := [("subject.attrs.suspended", .boolean true)] }

/-- The stored user is suspended, which its description says and for which there is a policy that
denies; but its account is not known, nothing is told of it, and the request is granted. -/
theorem denial_overlooked :
    let s := orphaned [(everyday.id.text, everyday), (suspension.id.text, suspension)]
    let request : AccessRequest :=
      ⟨ada.id.text, "read", "doc", attributesOf "subject" ada [⟨"urn:iam::group/ops"⟩]⟩
    (s.storage.answer (.load .user ada.id)).1 = .ok ada ∧
      (s.run false (userInfo "subject" ada.id.text)).1 = .ok [] ∧
      (s.run false (enforcer ⟨some ada.id.text, some "read", some "doc", []⟩)).1 = .ok () ∧
      (Matcher.run (Decision.evaluate [everyday, suspension] request) []).1 =
        .ok (Decision.deniedBy suspension) := by
  refine ⟨by rfl, by rfl, ?_, ?_⟩
  · decide +kernel
  · decide +kernel

end Authority

end AccessControl
