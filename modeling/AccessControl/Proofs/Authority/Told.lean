/-
What the points tell of users, beside an account store of any kind. Main statements: of a user
everything is told or nothing, or the failure that came in the way (`userInfo_ok_iff`), enforcement
beside an account store is enforcement in the world that the realm and the store make up
(`runVia_point`), and no attribute can pass for another fact of a user, nor what is told of a
subject for what is told of a resource (`descriptions_unforgeable`).
-/
import AccessControl.Proofs.Authority
import AccessControl.Proofs.Authority.Description
import AccessControl.Proofs.Users.Written

namespace AccessControl

namespace Authority

/-! ## What the points tell -/

open Realm (runVia serveVia serveVia_bind serveVia_attempt serveVia_guarded)
open Users (accountOf? withRecord serveVia_withRecord)

variable {σ : Type} {bridge : Accounts.Bridge σ} {givenUp : Bool} {s : Realm × σ} {u : Urn .user}
  {start : String} {context : Attributes}

/-- Of a text that is the name of no account nothing is told. -/
theorem userInfo_unnamed (haccount : accountOf? u = none) :
    runVia bridge givenUp (userInfo start u.text) s = (.ok [], s) := by
  have hload : serveVia bridge givenUp (Users.load u) s =
      (.error (.invalidArgument s!"invalid user urn {Text.quoted u.text}"), s) := by
    unfold Users.load Users.named
    rw [serveVia_bind, haccount]
    rfl
  show serveVia bridge givenUp (Service.attempt (Users.load u) >>= _) s = _
  rw [serveVia_bind, serveVia_attempt, hload]
  rfl

theorem userInfo_givenUp {id : Int} (haccount : accountOf? u = some id) :
    runVia bridge true (userInfo start u.text) s = (.error .cancelled, s) := by
  have hload : serveVia bridge true (Users.load u) s = (.error .cancelled, s) := by
    unfold Users.load
    rw [serveVia_bind, Users.serveVia_named haccount]
    dsimp only
    rw [serveVia_guarded, if_pos rfl]
  show serveVia bridge true (Service.attempt (Users.load u) >>= _) s = _
  rw [serveVia_bind, serveVia_attempt, hload]
  rfl

theorem userInfo_live {id : Int} (haccount : accountOf? u = some id) :
    runVia bridge false (userInfo start u.text) s =
      match (s.1.storage.answer (.load .user u)).1 with
      | .error failure => (if isUnknown failure then .ok [] else .error failure, s)
      | .ok record =>
        match bridge false (.account record.account) s.2 with
        | (.error failure, memory) =>
          (if isUnknown failure then .ok [] else .error failure, (s.1, memory))
        | (.ok _, memory) =>
          ((s.1.storage.answer (.memberships u)).1.map (attributesOf start record),
            (s.1, memory)) := by
  show serveVia bridge false (Service.attempt (withRecord u Users.withLock) >>= _) s = _
  rw [serveVia_bind, serveVia_attempt, serveVia_withRecord haccount]
  cases hload : (s.1.storage.answer (.load .user u)).1 with
  | error failure =>
    dsimp only
    cases isUnknown failure <;> rfl
  | ok record =>
    have hlock : serveVia bridge false (Users.withLock record) s =
        ((bridge false (.account record.account) s.2).1.map fun account =>
          { record with locked := some account.locked },
        (s.1, (bridge false (.account record.account) s.2).2)) := by
      unfold Users.withLock
      rw [serveVia_bind, Users.serveVia_account]
      cases (bridge false (.account record.account) s.2).1 <;> rfl
    dsimp only
    rw [hlock]
    rcases bridge false (.account record.account) s.2 with ⟨answer, memory⟩
    cases answer with
    | error failure =>
      show serveVia bridge false (if isUnknown failure then pure [] else throw failure)
        (s.1, memory) = (if isUnknown failure then .ok [] else .error failure, (s.1, memory))
      cases isUnknown failure <;> rfl
    | ok account =>
      show serveVia bridge false (Service.storage (.memberships u) >>= _) (s.1, memory) = _
      rw [Users.serveVia_reads (.memberships u) trivial]
      cases (s.1.storage.answer (.memberships u)).1 <;> rfl

/-- What is told of a user: nothing where there is no account of that name, where there is no such
record, and where the account store says that there is no such account; else all there is. -/
inductive Tells (bridge : Accounts.Bridge σ) (givenUp : Bool) (start : String) (u : Urn .user)
    (s : Realm × σ) : Attributes → Prop
  | unnamed (named : accountOf? u = none) : Tells bridge givenUp start u s []
  | missing {failure : Failure} (named : (accountOf? u).isSome = true) (live : givenUp = false)
      (loads : (s.1.storage.answer (.load .user u)).1 = .error failure)
      (unknown : isUnknown failure = true) : Tells bridge givenUp start u s []
  | unaccounted {record : User} {failure : Failure} (named : (accountOf? u).isSome = true)
      (live : givenUp = false) (loads : (s.1.storage.answer (.load .user u)).1 = .ok record)
      (asks : (bridge false (.account record.account) s.2).1 = .error failure)
      (unknown : isUnknown failure = true) : Tells bridge givenUp start u s []
  | full {record : User} {account : Account} {groups : List (Urn .group)}
      (named : (accountOf? u).isSome = true) (live : givenUp = false)
      (loads : (s.1.storage.answer (.load .user u)).1 = .ok record)
      (asks : (bridge false (.account record.account) s.2).1 = .ok account)
      (belongs : (s.1.storage.answer (.memberships u)).1 = .ok groups) :
      Tells bridge givenUp start u s (attributesOf start record groups)

theorem userInfo_ok_iff :
    (runVia bridge givenUp (userInfo start u.text) s).1 = .ok context ↔
      Tells bridge givenUp start u s context := by
  constructor
  · intro h
    cases haccount : accountOf? u with
    | none =>
      rw [userInfo_unnamed haccount] at h
      cases h
      exact .unnamed haccount
    | some id =>
      have hnamed : (accountOf? u).isSome = true := haccount ▸ rfl
      cases givenUp with
      | true =>
        rw [userInfo_givenUp haccount] at h
        cases h
      | false =>
        rw [userInfo_live haccount] at h
        cases hload : (s.1.storage.answer (.load .user u)).1 with
        | error failure =>
          cases hunknown : isUnknown failure <;> simp only [hload, hunknown] at h <;> cases h
          exact .missing hnamed rfl hload hunknown
        | ok record =>
          rcases hasks : bridge false (.account record.account) s.2 with ⟨answer, memory⟩
          have hanswer := congrArg Prod.fst hasks
          cases answer with
          | error failure =>
            cases hunknown : isUnknown failure <;> simp only [hload, hasks, hunknown] at h <;>
              cases h
            exact .unaccounted hnamed rfl hload hanswer hunknown
          | ok account =>
            cases hgroups : (s.1.storage.answer (.memberships u)).1 <;>
              simp only [hload, hasks, hgroups] at h <;> cases h
            exact .full hnamed rfl hload hanswer hgroups
  · intro h
    cases h with
    | unnamed named => rw [userInfo_unnamed named]
    | missing named live loads unknown =>
      obtain ⟨id, haccount⟩ := Option.isSome_iff_exists.1 named
      rw [live, userInfo_live haccount, loads]
      exact if_pos unknown
    | @unaccounted record failure named live loads asks unknown =>
      obtain ⟨id, haccount⟩ := Option.isSome_iff_exists.1 named
      rcases hasks : bridge false (.account record.account) s.2 with ⟨answer, memory⟩
      obtain rfl : answer = .error failure := (congrArg Prod.fst hasks).symm.trans asks
      simp only [live, userInfo_live haccount, loads, hasks, unknown, if_true]
    | @full record account groups named live loads asks belongs =>
      obtain ⟨id, haccount⟩ := Option.isSome_iff_exists.1 named
      rcases hasks : bridge false (.account record.account) s.2 with ⟨answer, memory⟩
      obtain rfl : answer = .ok account := (congrArg Prod.fst hasks).symm.trans asks
      simp only [live, userInfo_live haccount, loads, hasks]
      exact congrArg (Except.map (attributesOf start record)) belongs

/-- To tell of a user changes nothing but what the account store remembers. -/
theorem userInfo_realm (start : String) (u : Urn .user) :
    (runVia bridge givenUp (userInfo start u.text) s).2.1 = s.1 := by
  cases haccount : accountOf? u with
  | none => rw [userInfo_unnamed haccount]
  | some id =>
    cases givenUp with
    | true => rw [userInfo_givenUp haccount]
    | false =>
      rw [userInfo_live haccount]
      cases (s.1.storage.answer (.load .user u)).1 with
      | error failure => rfl
      | ok record =>
        dsimp only
        rcases bridge false (.account (User.account record)) s.2 with ⟨_ | _, memory⟩ <;> rfl

/-- Only those are told of whose names begin as those of users do. -/
theorem info_eq (start name : String) :
    info start name = if Text.beginsWith name (Urn.compose .user "") then userInfo start name
      else pure (.ok []) := by
  unfold info InfoPoint.route
  rw [List.find?_cons]
  cases hbegins : Text.beginsWith name (Urn.compose .user "") <;>
    simp only [InfoPoint.Matcher.accepts, hbegins] <;> rfl

theorem info_realm (start name : String) :
    (runVia bridge givenUp (info start name) s).2.1 = s.1 := by
  rw [info_eq]
  split
  · exact userInfo_realm start ⟨name⟩
  · rfl

theorem Tells.keys (h : Tells bridge givenUp start u s context) :
    context.Sorted ∧ ∀ key, context.has key = true → ∃ rest, key = start ++ rest := by
  cases h with
  | unnamed | missing | unaccounted => exact ⟨Assoc.Sorted.nil, nofun⟩
  | @full record account groups =>
    refine ⟨sorted_attributesOf start record groups, fun key hkey => ?_⟩
    rcases (describes_attributesOf start record groups).only key hkey with rfl | rfl | ⟨name, rfl⟩
    · exact ⟨_, rfl⟩
    · exact ⟨_, rfl⟩
    · exact ⟨_, String.append_assoc⟩

theorem info_keys {name : String}
    (h : (runVia bridge givenUp (info start name) s).1 = .ok context) :
    context.Sorted ∧ ∀ key, context.has key = true → ∃ rest, key = start ++ rest := by
  rw [info_eq] at h
  split at h
  · exact (userInfo_ok_iff.1 h).keys
  · cases h
    exact ⟨Assoc.Sorted.nil, nofun⟩

/-- What is told of a subject is never bound to what something is told of a resource. -/
theorem info_apart {s t : Realm × σ} {subject resource : String} {context context' : Attributes}
    (hsubject : (runVia bridge givenUp (info "subject" subject) s).1 = .ok context)
    (hresource : (runVia bridge givenUp (info "resource" resource) t).1 = .ok context') :
    Assoc.Apart context context' := by
  intro key hkey
  obtain ⟨rest, rfl⟩ := (info_keys hsubject).2 key hkey
  refine Bool.eq_false_iff.2 fun hkey' => ?_
  obtain ⟨rest', hsame⟩ := (info_keys hresource).2 _ hkey'
  have hlist := congrArg String.toList hsame
  rw [String.toList_append, String.toList_append] at hlist
  cases hlist

end Authority

/-! ## Enforcement beside an account store -/

namespace Enforcement

open Realm (runVia runVia_bind)
open Assoc (Apart Joins)

variable {σ : Type}

/-- A point as it answers in a realm beside an account store. -/
def placed (bridge : Accounts.Bridge σ) (givenUp : Bool) (point : InfoPoint Program) :
    InfoPoint (StateM (Realm × σ)) := fun name s => runVia bridge givenUp (point name) s

variable (bridge : Accounts.Bridge σ) (givenUp : Bool)
  (subjectInfo resourceInfo : Option (InfoPoint Program)) (scope : Scope) (s : Realm × σ)

theorem runVia_informed (point : Option (InfoPoint Program)) (origin name : String)
    (context : Attributes) :
    runVia bridge givenUp (informed point origin name context) s =
      (informed (point.map (placed bridge givenUp)) origin name context).run s := by
  cases point with
  | none => rfl
  | some point =>
    exact runVia_bind (point name) fun answer => pure (answer.bind (addContext origin context))

theorem runVia_gather :
    runVia bridge givenUp (gather subjectInfo resourceInfo scope) s =
      (gather (subjectInfo.map (placed bridge givenUp)) (resourceInfo.map (placed bridge givenUp))
        scope).run s := by
  rw [gather_run]
  unfold gather
  cases required scope with
  | error failure => rfl
  | ok fields =>
    obtain ⟨subject, action, resource⟩ := fields
    dsimp only
    rw [runVia_bind, runVia_informed]
    rcases (informed (subjectInfo.map (placed bridge givenUp)) "subject" subject
      scope.context).run s with ⟨failure | context, asked⟩
    · rfl
    dsimp only
    rw [runVia_bind, runVia_informed]
    rcases (informed (resourceInfo.map (placed bridge givenUp)) "resource" resource
      context).run asked with ⟨failure | all, after⟩ <;> rfl

theorem runVia_byDecision (decide : AccessRequest → Program (Answer Decision)) :
    runVia bridge givenUp (byDecision decide subjectInfo resourceInfo scope) s =
      (byDecision (fun request s => runVia bridge givenUp (decide request) s)
        (subjectInfo.map (placed bridge givenUp)) (resourceInfo.map (placed bridge givenUp))
        scope).run s := by
  rw [byDecision_run]
  unfold byDecision
  rw [runVia_bind, runVia_gather]
  rcases (gather (subjectInfo.map (placed bridge givenUp))
    (resourceInfo.map (placed bridge givenUp)) scope).run s with ⟨failure | request, asked⟩
  · rfl
  · exact runVia_bind (decide request) fun answer => pure (ofDecision answer)

/-- Enforcement beside an account store is enforcement in the world that the realm and the store
make up. -/
theorem runVia_point (decide : AccessRequest → Program (Answer Decision)) :
    runVia bridge givenUp (point (byDecision decide subjectInfo resourceInfo) scope) s =
      (point (byDecision (fun request s => runVia bridge givenUp (decide request) s)
        (subjectInfo.map (placed bridge givenUp)) (resourceInfo.map (placed bridge givenUp)))
        scope).run s := by
  rw [point_run]
  unfold point
  cases required scope with
  | error failure => rfl
  | ok fields =>
    dsimp only
    rw [runVia_bind, runVia_byDecision]
    rfl

end Enforcement

namespace Authority

open Enforcement (gather placed required)
open Realm (runVia)
open Users (accountOf?)

variable {σ : Type} {bridge : Accounts.Bridge σ} {givenUp : Bool} {s : Realm × σ}

theorem orderly_info (bridge : Accounts.Bridge σ) (givenUp : Bool) (start : String) :
    Enforcement.Orderly (placed bridge givenUp (info start)) :=
  fun _ _ _ _ h => (info_keys (congrArg Prod.fst h)).1

/-- What is told of a subject and of a resource can always be put together, and with what the
request says itself as long as that is something else. -/
theorem gather_told {scope : Scope} {subject action resource : String}
    {ofSubject ofResource : Attributes} {asked after : Realm × σ}
    (hrequired : required scope = .ok (subject, action, resource)) (hscope : scope.context.Sorted)
    (hsubject : runVia bridge givenUp (info "subject" subject) s = (.ok ofSubject, asked))
    (hresource : runVia bridge givenUp (info "resource" resource) asked = (.ok ofResource, after))
    (hfirst : Assoc.Apart scope.context ofSubject)
    (hsecond : Assoc.Apart scope.context ofResource) :
    ∃ all, runVia bridge givenUp (gather (some (info "subject")) (some (info "resource")) scope) s =
        (.ok ⟨subject, action, resource, all⟩, after) ∧
      ∀ key value, all.get? key = some value ↔ scope.context.get? key = some value ∨
        ofSubject.get? key = some value ∨ ofResource.get? key = some value := by
  have hapart : Assoc.Apart ofSubject ofResource :=
    info_apart (congrArg Prod.fst hsubject) (congrArg Prod.fst hresource)
  obtain ⟨ha, hs, hr⟩ := Enforcement.required_ok_iff.1 hrequired
  -- both merges succeed, as what is told has no key in common with what is there already
  rcases Enforcement.merge_spec (info_keys (congrArg Prod.fst hsubject)).1 scope.context with
    ⟨-, both, -, hboth, hsorted⟩ | ⟨hclash, -⟩
  swap
  · exact absurd hfirst hclash
  rcases Enforcement.merge_spec (info_keys (congrArg Prod.fst hresource)).1 both with
    ⟨-, all, -, hall, hsorted'⟩ | ⟨hclash, -⟩
  swap
  · exact absurd ((Assoc.apart_joins hboth).2 ⟨hsecond, hapart⟩) hclash
  have hjoins := Assoc.joins_trans hboth hall
  refine ⟨all, ?_, hjoins⟩
  rw [Enforcement.runVia_gather]
  exact (Enforcement.gather_ok_iff (fun p hp => Option.some.inj hp ▸ orderly_info bridge givenUp _)
    (fun p hp => Option.some.inj hp ▸ orderly_info bridge givenUp _) hscope).2
    ⟨Enforcement.present_eq_some.1 ha, Enforcement.present_eq_some.1 hs,
      Enforcement.present_eq_some.1 hr, ofSubject, ofResource, asked, hsubject, hresource, hfirst,
      hsecond, hapart, hsorted' (hsorted hscope), hjoins⟩

/-- What is told of users beside an account store that answers as it likes. -/
structure Unforgeable (bridge : Accounts.Bridge σ) (s : Realm × σ) : Prop where
  /-- A stored user whose account is known is described in full. -/
  described : ∀ (start : String) (u : Urn .user) (record : User) (account : Account)
    (groups : List (Urn .group)), (accountOf? u).isSome = true →
      (s.1.storage.answer (.load .user u)).1 = .ok record →
      (bridge false (.account record.account) s.2).1 = .ok account →
      (s.1.storage.answer (.memberships u)).1 = .ok groups →
      ∃ context, (runVia bridge false (userInfo start u.text) s).1 = .ok context ∧
        Describes start record groups context
  /-- Of a stored user everything is told or nothing, and nothing only where it has the name of no
  account or the account store says that there is no such account. -/
  told : ∀ (givenUp : Bool) (start : String) (u : Urn .user) (record : User) (context : Attributes),
    (s.1.storage.answer (.load .user u)).1 = .ok record →
      (runVia bridge givenUp (userInfo start u.text) s).1 = .ok context →
      (∃ groups, (s.1.storage.answer (.memberships u)).1 = .ok groups ∧
        Describes start record groups context) ∨
      context = [] ∧ (accountOf? u = none ∨ ∃ failure,
        (bridge false (.account record.account) s.2).1 = .error failure ∧
          isUnknown failure = true)
  /-- Other attributes leave the name and the groups as they are told. -/
  steady : ∀ (start : String) (user : User) (attributes : Option Attributes)
    (groups : List (Urn .group)), ∀ key ∈ [s!"{start}.username", s!"{start}.groups"],
      (attributesOf start { user with attributes } groups).get? key =
        (attributesOf start user groups).get? key
  /-- No key is told of a subject and of a resource, whoever they are and whenever it is. -/
  apart : ∀ (givenUp : Bool) (subject resource : String) (t : Realm × σ)
    (ofSubject ofResource : Attributes),
      (runVia bridge givenUp (info "subject" subject) s).1 = .ok ofSubject →
      (runVia bridge givenUp (info "resource" resource) t).1 = .ok ofResource →
      Assoc.Apart ofSubject ofResource
  /-- A request that says nothing itself is put together wherever both points tell something. -/
  gathered : ∀ (givenUp : Bool) (scope : Scope) (subject action resource : String)
    (ofSubject ofResource : Attributes) (asked after : Realm × σ),
      required scope = .ok (subject, action, resource) → scope.context = [] →
      runVia bridge givenUp (info "subject" subject) s = (.ok ofSubject, asked) →
      runVia bridge givenUp (info "resource" resource) asked = (.ok ofResource, after) →
      ∃ all, runVia bridge givenUp
          (gather (some (info "subject")) (some (info "resource")) scope) s =
            (.ok ⟨subject, action, resource, all⟩, after) ∧ Assoc.Joins all ofSubject ofResource

/-- No attribute of a user can pass for its name or its groups, and nothing that is told of the one
side of a request for something that is told of the other. -/
theorem descriptions_unforgeable (bridge : Accounts.Bridge σ) (s : Realm × σ) :
    Unforgeable bridge s where
  described start u record account groups hnamed hload hasks hgroups :=
    ⟨attributesOf start record groups, userInfo_ok_iff.2 (.full hnamed rfl hload hasks hgroups),
      describes_attributesOf start record groups⟩
  told givenUp start u record context hload htold := by
    cases userInfo_ok_iff.1 htold with
    | unnamed named => exact .inr ⟨rfl, .inl named⟩
    | missing _ _ loads _ => cases hload.symm.trans loads
    | unaccounted _ _ loads asks unknown =>
      obtain rfl := Except.ok.inj (hload.symm.trans loads)
      exact .inr ⟨rfl, .inr ⟨_, asks, unknown⟩⟩
    | @full _ _ groups _ _ loads _ belongs =>
      obtain rfl := Except.ok.inj (hload.symm.trans loads)
      exact .inl ⟨groups, belongs, describes_attributesOf start record groups⟩
  steady start user attributes groups := by
    have hold := describes_attributesOf start user groups
    have hnew := describes_attributesOf start { user with attributes } groups
    simp only [List.mem_cons, List.not_mem_nil, or_false, forall_eq_or_imp, forall_eq]
    exact ⟨hnew.username.trans hold.username.symm, hnew.groups.trans hold.groups.symm⟩
  apart _ _ _ _ _ _ hsubject hresource := info_apart hsubject hresource
  gathered givenUp scope subject action resource ofSubject ofResource asked after hrequired hscope
      hsubject hresource := by
    have hnone (m : Attributes) : Assoc.Apart scope.context m := by
      rw [hscope]
      exact nofun
    obtain ⟨all, hgather, hall⟩ := gather_told hrequired (hscope ▸ Assoc.Sorted.nil) hsubject
      hresource (hnone _) (hnone _)
    refine ⟨all, hgather, fun key value => (hall key value).trans ?_⟩
    rw [hscope, Assoc.get?_nil]
    exact or_iff_right nofun

-- attributes that are called as the other facts are do not stand in for them
example :
    let created := (Realm.start (.memory .empty) (.register .empty) 0).run false
      (Users.create "ada" "pw" (some [("groups", .text "root"), ("username", .text "bob")])).run
    created.1 = .ok ⟨"urn:iam::user/1"⟩ ∧
      (created.2.run false (userInfo "subject" "urn:iam::user/1")).1 =
        .ok [("subject.attrs.groups", .text "root"), ("subject.attrs.username", .text "bob"),
          ("subject.groups", .array []), ("subject.username", .text "ada")] :=
  ⟨rfl, rfl⟩

/-- A user whose account is not in use any longer. -/
def ada : User := ⟨9, "ada", ⟨"urn:iam::user/9"⟩, none, some [("suspended", .bool true)]⟩

/-- A realm that has a user stored whose account its account store does not know. -/
def orphaned (policies : Assoc Policy) : Realm :=
  let memberships : Storage.Memberships :=
    ⟨[(ada.id.text, ["urn:iam::group/ops"])], [("urn:iam::group/ops", [ada.id.text])]⟩
  Realm.start (.memory ⟨[(ada.id.text, ada)], [], policies, memberships⟩) (.register .empty) 0

/-- The user is stored and belongs to a group, but nothing is told of it. -/
theorem stored_undescribed :
    let s := orphaned []
    (s.storage.answer (.load .user ada.id)).1 = .ok ada ∧
      (s.storage.answer (.memberships ada.id)).1 = .ok [⟨"urn:iam::group/ops"⟩] ∧
      (s.run false (userInfo "subject" ada.id.text)).1 = .ok [] ∧
      ¬ Describes "subject" ada [⟨"urn:iam::group/ops"⟩] [] := by
  refine ⟨by rfl, by rfl, by rfl, fun h => ?_⟩
  cases h.username

end Authority

end AccessControl
