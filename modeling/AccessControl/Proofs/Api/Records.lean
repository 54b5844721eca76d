/-
Who may change a record that is kept. Requests keep every record under the name that belongs to it
(`canonical_answered`). Main statement: after any requests, where a record that was kept is another
one after the next request, or gone, that request is granted on just that record, unless it creates
a policy of its name (`changed_granted`). That one needs no grant on the record that it replaces
(`changed_ungranted`).
-/
import AccessControl.Proofs.Api.Mediation
import AccessControl.Proofs.Service.Canonical

namespace AccessControl

open Storage (Entry)

/-- The call leaves what is kept under a name. -/
def Call.Spares (k : Kind) (name : String) : Call → Prop
  | storage call => ¬ call.Writes k name
  | enter _ | leave _ | accounts _ | decide _ _ | announce _ => True

variable {k : Kind} {name : String} {e : Entry k}

theorem Call.Reads.spares {call : Call} (h : call.Reads) : call.Spares k name := by
  cases call with
  | storage call => cases call <;> first | exact id | exact h.elim
  | enter _ | leave _ | accounts _ | decide _ _ | announce _ => trivial

theorem Call.Parts.spares {call : Call} (h : call.Parts) : call.Spares k name := by
  cases call with
  | storage call => cases call <;> first | exact id | exact h.elim
  | enter _ | leave _ | accounts _ | decide _ _ | announce _ => trivial

namespace Realm

theorem entry_answer {call : Call} (h : call.Spares k name) (givenUp : Bool) (origin : Origin)
    (s : Realm) :
    (s.answer givenUp origin call).2.storage.entry k name = s.storage.entry k name := by
  cases call with
  | enter _ | leave _ | decide _ _ | announce _ => rfl
  | storage call =>
    rcases answer_storage givenUp origin call s with hanswer | hanswer <;> rw [hanswer]
    exact s.storage.entry_answer h
  | accounts call =>
    rcases answer_accounts givenUp origin call s with hanswer | hanswer <;> rw [hanswer]
    rfl

/-- A program that spares an entry leaves it as it is. -/
theorem entry_run {α : Type} {p : Program α} (h : p.Only (Call.Spares k name)) (givenUp : Bool)
    (s : Realm) : (s.run givenUp p).2.storage.entry k name = s.storage.entry k name :=
  h.run_kept (I := fun t => t.storage.entry k name = s.storage.entry k name)
    (fun origin _ hcall t ht => (entry_answer hcall givenUp origin t).trans ht) rfl

/-- What is true before the subscribers do what they have to do, and stays so when one of them hears
of a deletion, is true after it. -/
theorem settle_kept {I : Realm → Prop} (hhear : ∀ s task, I s → I (s.hear task)) {s : Realm}
    (h : I { s with pending := [] }) : I s.settle := by
  have hfold (tasks : List (Nat × Listener × Urn .user)) (s : Realm) (hs : I s) :
      I (tasks.foldl Realm.hear s) := by
    induction tasks generalizing s with
    | nil => exact hs
    | cons task rest ih => exact ih _ (hhear s task hs)
  exact hfold s.pending _ h

/-- What deletions bring about leaves all records as they are. -/
theorem entry_settle (s : Realm) : s.settle.storage.entry k name = s.storage.entry k name := by
  refine settle_kept (I := fun t => t.storage.entry k name = s.storage.entry k name)
    (fun t task ht => ?_) rfl
  obtain ⟨id, listener, user⟩ := task
  cases listener with
  | reconciler =>
    have hparts : (Groups.reconcile user).run.Only (Call.Spares k name) :=
      Program.Only.mono (fun _ => Call.Parts.spares) (only_reconcile user)
    exact (entry_run hparts false t).trans ht
  | recorder => exact ht

end Realm

/-! ## Services -/

namespace Service

variable {α β : Type}

/-- Alone, the service leaves what is kept under a name as it is. -/
def Keeps (k : Kind) (name : String) (e : Entry k) (service : Service α) : Prop :=
  ∀ s : Realm, s.storage.entry k name = some e →
    (s.serve service).2.storage.entry k name = some e

theorem Only.keeps {service : Service α} (h : service.Only (Call.Spares k name)) :
    service.Keeps k name e := fun s hs => (s.entry_run h false).trans hs

theorem Keeps.bind {service : Service α} {next : α → Service β} (h : service.Keeps k name e)
    (hnext : ∀ a, (next a).Keeps k name e) : (service >>= next).Keeps k name e := by
  intro s hs
  have hfirst := h s hs
  rw [Realm.serve_bind]
  rcases hserve : s.serve service with ⟨answer, t⟩
  rw [hserve] at hfirst
  cases answer with
  | error failure => exact hfirst
  | ok a => exact hnext a t hfirst

theorem Keeps.ite {c : Prop} [Decidable c] {first second : Service α}
    (hf : first.Keeps k name e) (hs : second.Keeps k name e) :
    Keeps k name e (if c then first else second) := by
  split
  · exact hf
  · exact hs

theorem keeps_throw_bind (failure : Failure) (next : α → Service β) :
    ((throw failure : Service α) >>= next).Keeps k name e := fun s hs => by
  rw [Realm.serve_bind_error (Realm.serve_throw failure s)]
  exact hs

theorem Keeps.attempt {service : Service α} (h : service.Keeps k name e) :
    service.attempt.Keeps k name e := fun s hs => by
  rw [Realm.serve_attempt]
  exact h s hs

theorem Keeps.guarded {service : Service α} (h : service.Keeps k name e) (gate : Kind) :
    (guarded gate service).Keeps k name e := fun s hs => by
  rw [Realm.serve_guarded]
  exact h s hs

theorem only_list (l : Kind) : (guarded l (storage (.list l))).Only (Call.Spares k name) :=
  Only.guarded trivial trivial (only_storage id)

/-- Alone, too, a service that keeps to the names leaves a storage of canonical names one. -/
theorem Files.serve {service : Service α} (h : service.Files) {s : Realm}
    (hs : s.storage.Canonical) : (s.serve service).2.storage.Canonical := by
  unfold Realm.serve
  rw [(Realm.run_eq_runVia false service.run s).2.realm]
  exact h.kept (Realm.ownBridge s.now) false (s, s.accounts) hs

/-- Storing what was missing leaves what is kept as it is. -/
theorem not_writes_new {s : Realm} (hs : s.storage.entry k name = some e) {l : Kind}
    {record : Record l} {failure : Failure}
    (hload : (s.storage.answer (.load l record.id)).1 = .error failure)
    (hmissing : failure.isNotFound = true) : ¬ Storage.Call.Writes k name (.store l record) := by
  rintro ⟨rfl, rfl⟩
  rw [Storage.Backend.entry_of_missing hload hmissing] at hs
  cases hs

end Service

namespace Realm

variable {β : Type} {l : Kind} {s : Realm}

/-- Loading a record changes nothing; what is done with it decides. -/
theorem entry_load {id : Urn l} {next : Record l → Service β}
    (h : ∀ record, (s.storage.answer (.load l id)).1 = .ok record →
      (s.serve (next record)).2.storage.entry k name = s.storage.entry k name) :
    (s.serve (Service.storage (.load l id) >>= next)).2.storage.entry k name =
      s.storage.entry k name := by
  refine (congrArg (fun r => r.2.storage.entry k name)
    (serve_reads (.load l id) trivial next s)).trans ?_
  cases hload : (s.storage.answer (.load l id)).1 with
  | error failure => rfl
  | ok record => exact h record hload

theorem entry_attempt_load {id : Urn l} {next : Answer (Record l) → Service β}
    (h : (s.serve (next (s.storage.answer (.load l id)).1)).2.storage.entry k name =
      s.storage.entry k name) :
    (s.serve (Service.attempt (Service.storage (.load l id)) >>= next)).2.storage.entry k name =
      s.storage.entry k name := by
  exact (congrArg (fun r => r.2.storage.entry k name)
    (serve_attempt_reads (.load l id) trivial next s)).trans h

theorem entry_store {record : Record l} (h : ¬ Storage.Call.Writes k name (.store l record)) :
    (s.askStorage (.store l record)).2.storage.entry k name = s.storage.entry k name :=
  s.storage.entry_answer h

end Realm

namespace Users

open Service

theorem keeps_storeNew (user : User) : (storeNew user).Keeps k name e := by
  intro s hs
  refine (Realm.entry_attempt_load (l := .user) ?_).trans hs
  cases hload : (s.storage.answer (.load .user user.id)).1 with
  | ok record => rfl
  | error failure =>
    cases hmissing : failure.isNotFound with
    | false => simp [hmissing]
    | true =>
      simp only [hmissing]
      exact Realm.entry_store (l := .user) (not_writes_new hs hload hmissing)

theorem keeps_create (username password : String) (attributes : Option Attributes) :
    (create username password attributes).Keeps k name e := by
  refine Keeps.guarded (Keeps.bind (only_accounts trivial).keeps fun account => ?_) .user
  refine Keeps.bind (keeps_storeNew _).attempt fun answer => ?_
  cases answer with
  | ok _ => exact (only_pure _).keeps
  | error failure =>
    refine Only.keeps (Only.bind (Only.discard (Only.attempt (Only.detached ?_))) fun _ => ?_)
    · exact only_accounts trivial
    · exact only_throw failure

theorem only_named (user : Urn .user) : (named user).Only (Call.Spares k name) :=
  Only.ite (only_pure ()) (only_throw _)

theorem only_load (user : Urn .user) : (load user).Only (Call.Spares k name) :=
  Program.Only.mono (fun _ h => h.1.spares) (only_look user)

theorem only_withLocks (users : List User) : (withLocks users).Only (Call.Spares k name) := by
  induction users with
  | nil => exact only_pure _
  | cons user rest ih =>
    refine Only.bind ((only_accounts trivial).bind fun _ => only_pure _) fun user => ?_
    exact ih.bind fun users => only_pure _

theorem only_list : list.Only (Call.Spares k name) :=
  Only.guarded trivial trivial ((only_storage id).bind fun users => only_withLocks users)

theorem only_delete {user : Urn .user} (h : ¬(k = .user ∧ name = user.text)) :
    (delete user).Only (Call.Spares k name) := by
  refine Only.bind (only_named user) fun _ => Only.guarded trivial trivial ?_
  refine (only_storage id).bind fun record => (only_accounts trivial).bind fun _ => ?_
  exact (only_storage h).bind fun _ => only_announce trivial

theorem only_setLocked (user : Urn .user) (locked : Bool) :
    (setLocked user locked).Only (Call.Spares k name) := by
  refine Only.bind (only_named user) fun _ => Only.guarded trivial trivial ?_
  exact (only_storage id).bind fun record =>
    Only.ite (only_accounts trivial) (only_accounts trivial)

/-- Only the record is changed whose name the record of the user carries. -/
theorem entry_modify {s : Realm} {user : Urn .user}
    (hname : ∀ record : User, (s.storage.answer (.load .user user)).1 = .ok record →
      ¬(k = .user ∧ name = record.id.text)) {change : User → User}
    (hchange : ∀ record, (change record).id = record.id) :
    (s.serve (modify user change)).2.storage.entry k name = s.storage.entry k name := by
  unfold modify named
  by_cases haccount : (accountOf? user).isSome = true
  · rw [if_pos haccount, Realm.serve_bind_ok (Realm.serve_pure () s), Realm.serve_guarded]
    refine Realm.entry_load (l := .user) fun record hload => ?_
    refine Realm.entry_store (l := .user) fun hwrites => hname record hload ⟨hwrites.1, ?_⟩
    rw [hwrites.2, ← hchange record]
    rfl
  · rw [if_neg haccount, Realm.serve_bind_error (Realm.serve_throw _ s)]

end Users

namespace Groups

open Service

theorem keeps_create (groupName : String) (comment : Option String) :
    (create groupName comment).Keeps k name e := by
  refine Keeps.ite (keeps_throw_bind _ _) (Keeps.ite (keeps_throw_bind _ _) ?_)
  refine Keeps.guarded (fun s hs => ?_) .group
  refine (Realm.entry_attempt_load (l := .group) ?_).trans hs
  cases hload : (s.storage.answer (.load .group (Group.ofName groupName comment).id)).1 with
  | ok record => rfl
  | error failure =>
    cases hmissing : failure.isNotFound with
    | false =>
      simp only [hmissing]
      rfl
    | true =>
      simp only [hmissing]
      have hstore : (storage (.store .group (Group.ofName groupName comment))).Keeps k name e :=
        (only_storage (not_writes_new hs hload hmissing)).keeps
      exact (Keeps.bind hstore (fun _ => (only_pure _).keeps) s hs).trans hs.symm

theorem only_named (group : Urn .group) : (named group).Only (Call.Spares k name) :=
  Only.ite (only_throw _) (only_pure ())

theorem only_guarded {α : Type} (group : Urn .group) {service : Service α}
    (h : service.Only (Call.Spares k name)) :
    (do named group; guarded .group service : Service α).Only (Call.Spares k name) :=
  Only.bind (only_named group) fun _ => Only.guarded trivial trivial h

theorem only_load (group : Urn .group) : (load group).Only (Call.Spares k name) :=
  only_guarded group (only_storage id)

theorem only_members (group : Urn .group) : (members group).Only (Call.Spares k name) :=
  only_guarded group ((Only.discard (only_storage id)).bind fun _ => only_storage id)

theorem only_addMember (group : Urn .group) (user : Urn .user) :
    (addMember group user).Only (Call.Spares k name) :=
  only_guarded group <| (Only.discard (only_storage id)).bind fun _ =>
    (Only.discard (Users.only_load user)).bind fun _ => only_storage id

theorem only_removeMember (group : Urn .group) (user : Urn .user) :
    (removeMember group user).Only (Call.Spares k name) :=
  only_guarded group ((Only.discard (only_storage id)).bind fun _ => only_storage id)

theorem only_delete {group : Urn .group} (h : ¬(k = .group ∧ name = group.text)) :
    (delete group).Only (Call.Spares k name) :=
  only_guarded group <| (Only.discard (only_storage id)).bind fun _ =>
    (Only.discard (only_storage id)).bind fun _ => only_storage h

/-- Only the record is changed whose name the record of the group carries. -/
theorem entry_setComment {s : Realm} {group : Urn .group}
    (hname : ∀ record : Group, (s.storage.answer (.load .group group)).1 = .ok record →
      ¬(k = .group ∧ name = record.id.text)) (comment : Option String) :
    (s.serve (setComment group comment)).2.storage.entry k name = s.storage.entry k name := by
  unfold setComment named
  by_cases hempty : group.name.isEmpty = true
  · rw [if_pos hempty, Realm.serve_bind_error (Realm.serve_throw _ s)]
  · rw [if_neg hempty, Realm.serve_bind_ok (Realm.serve_pure () s), Realm.serve_guarded]
    refine Realm.entry_load (l := .group) fun record hload => ?_
    exact Realm.entry_store (l := .group) fun hwrites => hname record hload hwrites

end Groups

namespace Policies

open Service

theorem only_named (policy : Urn .policy) : (named policy).Only (Call.Spares k name) :=
  Only.ite (only_throw _) (only_pure ())

theorem only_guarded {α : Type} (policy : Urn .policy) {service : Service α}
    (h : service.Only (Call.Spares k name)) :
    (do named policy; guarded .policy service : Service α).Only (Call.Spares k name) :=
  Only.bind (only_named policy) fun _ => Only.guarded trivial trivial h

theorem only_create {new : String} (h : ¬(k = .policy ∧ name = (Urn.ofLocal .policy new).text))
    (policy : Policy) : (create new policy).Only (Call.Spares k name) :=
  Only.ite (only_throw_bind _ _) <| Only.ite (only_throw_bind _ _) <|
    Only.guarded trivial trivial ((only_storage h).bind fun _ => only_pure _)

theorem only_load (policy : Urn .policy) : (load policy).Only (Call.Spares k name) :=
  only_guarded policy (only_storage id)

theorem only_update {policy : Urn .policy} (h : ¬(k = .policy ∧ name = policy.text))
    (record : Policy) : (update policy record).Only (Call.Spares k name) :=
  only_guarded policy (only_storage h)

theorem only_delete {policy : Urn .policy} (h : ¬(k = .policy ∧ name = policy.text)) :
    (delete policy).Only (Call.Spares k name) :=
  only_guarded policy (only_storage h)

theorem only_listPage (limit offset : Nat) :
    (listPage limit offset).Only (Call.Spares k name) :=
  Only.ite (Only.guarded trivial trivial (only_storage id)) (only_throw _)

end Policies

namespace Api

open Service

variable {s : Realm}

theorem keeps_record {l : Kind} (status : Nat) {service : Service (Record l)}
    (h : service.Keeps k name e) : (Operation.record status service).Keeps k name e :=
  h.bind fun _ => (only_pure _).keeps

theorem keeps_items {α : Type} (write : α → Json) {service : Service (List α)}
    (h : service.Only (Call.Spares k name)) : (Operation.items write service).Keeps k name e :=
  h.keeps.bind fun _ => (only_pure _).keeps

theorem keeps_accepted {service : Service Unit} (h : service.Only (Call.Spares k name)) :
    (Operation.accepted service).Keeps k name e :=
  h.keeps.bind fun _ => (only_pure _).keeps

theorem serve_accepted (service : Service Unit) (s : Realm) :
    (s.serve (Operation.accepted service)).2 = (s.serve service).2 := by
  unfold Operation.accepted
  rw [Realm.serve_bind]
  rcases s.serve service with ⟨answer, t⟩
  cases answer <;> rfl

/-- The records that an operation may change when it is granted on a resource: that of the resource
itself, and that of the policy that is created, which it replaces if there is one. -/
inductive Operation.Touches (operation : Operation) (resource : String) : Kind → String → Prop
  | own {k : Kind} : Touches operation resource k resource
  | replaced {new : NewPolicy} (creates : operation = .createPolicy new)
      (collection : resource = "urn:iam::policy/") :
      Touches operation resource .policy ("urn:iam::policy/" ++ new.name)

/-- An operation leaves what it does not touch. -/
theorem entry_perform (subject : Urn .user) {operation : Operation}
    (hcanonical : s.storage.Canonical) (hs : s.storage.entry k name = some e)
    (hother : ∀ action resource, operation.permission = some (action, resource) →
      ¬ operation.Touches resource k name) :
    (s.serve (operation.perform subject)).2.storage.entry k name = some e := by
  -- the name of the entity that the operation is granted on is another one
  have hnot {l : Kind} {id : Urn l} {action : String}
      (h : operation.permission = some (action, id.text)) : ¬(k = l ∧ name = id.text) := by
    rintro ⟨rfl, rfl⟩
    exact hother _ _ h .own
  -- what is loaded under that name is no record of another one
  have hloaded {l : Kind} {id : Urn l} {action : String}
      (h : operation.permission = some (action, id.text)) (record : Record l)
      (hload : (s.storage.answer (.load l id)).1 = .ok record) :
      ¬(k = l ∧ name = record.id.text) := (hcanonical.load hload).1 ▸ hnot h
  have hmodify {user : Urn .user} {change : User → User} {action : String}
      (h : operation.permission = some (action, user.text))
      (hchange : ∀ record, (change record).id = record.id) :
      (s.serve (Operation.accepted (Users.modify user change))).2.storage.entry k name =
        some e := by
    rw [serve_accepted, Users.entry_modify (hloaded (l := .user) h) hchange]
    exact hs
  cases operation <;> simp only [Operation.perform]
  case whoami => exact hs
  case listUsers => exact keeps_items _ Users.only_list s hs
  case createUser user =>
    exact keeps_record (l := .user) 201 (Keeps.bind (Users.keeps_create _ _ _) fun id =>
      (Users.only_load id).keeps) s hs
  case loadUser user => exact keeps_record (l := .user) 200 (Users.only_load user).keeps s hs
  case deleteUser user => exact keeps_accepted (Users.only_delete (hnot rfl)) s hs
  case setLocked user locked => exact keeps_accepted (Users.only_setLocked user locked) s hs
  case setAttributes user attributes => exact hmodify rfl fun _ => rfl
  case setAttribute user key value => exact hmodify rfl fun _ => rfl
  case eraseAttribute user key => exact hmodify rfl fun _ => rfl
  case listGroups => exact keeps_items _ (only_list .group) s hs
  case createGroup group =>
    exact keeps_record (l := .group) 201 (Keeps.bind (Groups.keeps_create _ _) fun id =>
      (Groups.only_load id).keeps) s hs
  case loadGroup group => exact keeps_record (l := .group) 200 (Groups.only_load group).keeps s hs
  case setComment group new =>
    show (s.serve (Operation.accepted (Groups.setComment group new.comment))).2.storage.entry k
      name = some e
    rw [serve_accepted, Groups.entry_setComment (hloaded (l := .group) rfl)]
    exact hs
  case deleteGroup group => exact keeps_accepted (Groups.only_delete (hnot rfl)) s hs
  case listMembers group => exact keeps_items _ (Groups.only_members group) s hs
  case addMember group user => exact keeps_accepted (Groups.only_addMember group user) s hs
  case removeMember group user => exact keeps_accepted (Groups.only_removeMember group user) s hs
  case listPolicies limit offset => exact keeps_items _ (Policies.only_listPage limit offset) s hs
  case createPolicy new =>
    have hvacant : ¬(k = .policy ∧ name = (Urn.ofLocal .policy new.name).text) := by
      rintro ⟨rfl, rfl⟩
      rw [Operation.text_ofLocal, Operation.all_policy] at hother
      exact hother _ _ rfl (.replaced rfl Operation.all_policy)
    exact keeps_record (l := .policy) 201 (Keeps.bind (Policies.only_create hvacant _).keeps
      fun id => (Policies.only_load id).keeps) s hs
  case loadPolicy policy =>
    exact keeps_record (l := .policy) 200 (Policies.only_load policy).keeps s hs
  case updatePolicy id policy => exact keeps_accepted (Policies.only_update (hnot rfl) policy) s hs
  case deletePolicy policy => exact keeps_accepted (Policies.only_delete (hnot rfl)) s hs

/-! ## Names -/

theorem files_record {l : Kind} (status : Nat) {service : Service (Record l)} (h : service.Files) :
    (Operation.record status service).Files := h.bind fun _ => (only_pure _).files

theorem files_items {α : Type} (write : α → Json) {service : Service (List α)} (h : service.Files) :
    (Operation.items write service).Files := h.bind fun _ => (only_pure _).files

theorem files_accepted {service : Service Unit} (h : service.Files) :
    (Operation.accepted service).Files := h.bind fun _ => (only_pure _).files

/-- Every operation leaves a storage of canonical names one. -/
theorem Operation.files (subject : Urn .user) (operation : Operation) :
    (operation.perform subject).Files := by
  cases operation with
  | whoami => exact (only_pure _).files
  | listUsers => exact files_items _ (Errand.files .listUsers)
  | createUser user =>
    exact files_record (l := .user) 201 ((Users.files_create _ _ _).bind fun id =>
      (Errand.loadUser id).files)
  | loadUser user => exact files_record (l := .user) 200 (Errand.loadUser user).files
  | deleteUser user => exact files_accepted (Errand.deleteUser user).files
  | setLocked user locked => exact files_accepted (Errand.setLocked user locked).files
  | setAttributes user attributes =>
    exact files_accepted (Errand.setAttributes user attributes).files
  | setAttribute user key value => exact files_accepted (Errand.setAttribute user key value).files
  | eraseAttribute user key => exact files_accepted (Errand.eraseAttribute user key).files
  | listGroups => exact files_items _ Groups.files_list
  | createGroup group =>
    exact files_record (l := .group) 201 ((Groups.files_create _ _).bind fun id =>
      (Errand.loadGroup id).files)
  | loadGroup group => exact files_record (l := .group) 200 (Errand.loadGroup group).files
  | setComment group new => exact files_accepted (Groups.files_setComment group new.comment)
  | deleteGroup group => exact files_accepted (Groups.files_delete group)
  | listMembers group => exact files_items _ (Errand.members group).files
  | addMember group user => exact files_accepted (Groups.files_addMember group user)
  | removeMember group user => exact files_accepted (Errand.removeMember group user).files
  | listPolicies limit offset => exact files_items _ (Wish.pagePolicies limit offset).files
  | createPolicy new =>
    exact files_record (l := .policy) 201 ((Policies.files_create _ _).bind fun id =>
      (Wish.loadPolicy id).files)
  | loadPolicy id => exact files_record (l := .policy) 200 (Wish.loadPolicy id).files
  | updatePolicy id policy => exact files_accepted (Wish.updatePolicy id policy).files
  | deletePolicy id => exact files_accepted (Wish.deletePolicy id).files

/-- A request leaves a storage of canonical names one. -/
theorem canonical_after (issuer : String) (request : Request) (hs : s.storage.Canonical) :
    (after issuer s request).storage.Canonical := by
  obtain ⟨response, -, hcourse⟩ := course ⟨issuer, true⟩ s request
  refine Realm.settle_kept (I := fun t => t.storage.Canonical) (fun t task ht => ?_) ?_
  · obtain ⟨id, listener, user⟩ := task
    cases listener with
    | reconciler => exact (Groups.files_reconcile user).serve ht
    | recorder => exact ht
  · show (s.run false (Api.answer ⟨issuer, true⟩ request)).2.storage.Canonical
    rcases hcourse.alike_or_performance with halike | ⟨⟨performance⟩⟩
    · rwa [halike.storage]
    · rw [performance.performed]
      exact (performance.operation.files performance.user).serve (performance.alike.storage ▸ hs)

/-- Answers requests one after the other, each in its second. -/
def answered (issuer : String) (s : Realm) (requests : List (Nat × Request)) : Realm :=
  requests.foldl (fun s (now, request) => after issuer { s with now } request) s

theorem canonical_answered (issuer : String) (requests : List (Nat × Request))
    (hs : s.storage.Canonical) : (answered issuer s requests).storage.Canonical := by
  induction requests generalizing s with
  | nil => exact hs
  | cons first rest ih => exact ih (canonical_after issuer first.2 hs)

/-! ## Grants -/

/-- What one request changes is touched by its operation, which is granted. -/
theorem touched_of_changed (issuer : String) (request : Request) (hcanonical : s.storage.Canonical)
    (hs : s.storage.entry k name = some e)
    (hchanged : (after issuer s request).storage.entry k name ≠ some e) :
    ∃ (grant : Grant s request) (operation : Operation),
      Operation.ofRequest request = .ok operation ∧
        operation.permission = some (grant.action, grant.resource) ∧
        operation.Touches grant.resource k name := by
  obtain ⟨response, -, hcourse⟩ := course ⟨issuer, true⟩ s request
  have hafter : (after issuer s request).storage.entry k name =
      (s.run false (Api.answer ⟨issuer, true⟩ request)).2.storage.entry k name :=
    Realm.entry_settle _
  rw [hafter] at hchanged
  rcases hcourse.alike_or_performance with halike | ⟨⟨performance⟩⟩
  · rw [halike.storage] at hchanged
    exact absurd hs hchanged
  · -- what the operation does not touch would be as it was
    refine ⟨performance.toGrant, performance.operation, performance.asked, performance.permitted,
      Classical.byContradiction fun htouches => hchanged ?_⟩
    have hstorage := performance.alike.storage
    rw [performance.performed]
    refine entry_perform performance.user (hstorage ▸ hcanonical) (by rwa [hstorage])
      fun action resource hpermission => ?_
    cases Option.some.inj (performance.permitted.symm.trans hpermission)
    exact htouches

/-- After any requests, a record that the next request changes or takes away is the one that this
request is granted its action on, unless the request creates a policy of that name. -/
theorem changed_granted (issuer : String) (hs : s.storage.Canonical)
    (earlier : List (Nat × Request)) (now : Nat) (request : Request) :
    let reached : Realm := { answered issuer s earlier with now }
    ∀ (k : Kind) (name : String) (e : Entry k), reached.storage.entry k name = some e →
      (after issuer reached request).storage.entry k name ≠ some e →
      ∃ (grant : Grant reached request) (operation : Operation),
        Operation.ofRequest request = .ok operation ∧
          operation.permission = some (grant.action, grant.resource) ∧
          operation.Touches grant.resource k name := by
  intro reached k name e hkept hchanged
  exact touched_of_changed issuer request (canonical_answered issuer earlier hs) hkept hchanged

/-! ## Realms with one user -/

/-- A realm in memory in which one user has a token. -/
def keeping (groups : List Group) (policies : List Policy) : Realm :=
  .start (.memory ⟨[], groups.map fun group => (group.id.text, group),
      policies.map fun policy => (policy.id.text, policy), .none⟩)
    (.register ⟨1, [⟨⟨1, "ada", false, false⟩, "pass"⟩], [("token", 1)], false⟩) 0

/-- Records in the order of their names, each under its own. -/
theorem filed_map {records : List (Record k)}
    (hsorted : records.Pairwise fun a b => a.id.text < b.id.text)
    (hcanonical : ∀ record ∈ records, record.Canonical) :
    let filed : Assoc (Record k) := records.map fun record => (record.id.text, record)
    (filed.Sorted ∧ ∀ e ∈ filed, e.2.id.text = e.1) ∧ ∀ e ∈ filed, e.2.Canonical := by
  refine ⟨⟨List.pairwise_map.2 hsorted, fun e he => ?_⟩, fun e he => ?_⟩
  · obtain ⟨record, -, rfl⟩ := List.mem_map.1 he
    rfl
  · obtain ⟨record, hrecord, rfl⟩ := List.mem_map.1 he
    exact hcanonical record hrecord

theorem canonical_keeping {groups : List Group} {policies : List Policy}
    (hgroups : groups.Pairwise fun a b => a.id.text < b.id.text)
    (hgroup : ∀ group ∈ groups, Group.Canonical group)
    (hpolicies : policies.Pairwise fun a b => a.id.text < b.id.text)
    (hpolicy : ∀ policy ∈ policies, Policy.Canonical policy) :
    (keeping groups policies).storage.Canonical := by
  have husers := @filed_map .user [] .nil nofun
  have hgroups := @filed_map .group groups hgroups hgroup
  have hpolicies := @filed_map .policy policies hpolicies hpolicy
  refine ⟨_, .memory _, fun k => ?_, fun k => ?_⟩
  · cases k
    · exact husers.1
    · exact hgroups.1
    · exact hpolicies.1
  · cases k
    · exact husers.2
    · exact hgroups.2
    · exact hpolicies.2

/-- The policy of a name by which that user may do one thing. -/
def permitting (name action resource : String) : Policy :=
  { Policy.ofEffect .allow with
    id := .ofLocal .policy name, subjects := ["urn:iam::user/1"], actions := [action],
    resources := [resource] }

/-- What that user asks for. -/
def asking (method : Method) (path : List String) (body : String) : Request :=
  ⟨method, path, "", some "Bearer token", some "application/json", body⟩

/-- A group whose comment has been changed is gone after its deletion, which is granted on it. -/
theorem changed_granted_deletion :
    let team := keeping [.ofName "dev" none]
      [permitting "team" "iam:groups.write" "urn:iam::group/dev"]
    let change := asking .patch ["v1", "groups", "dev"] "\x7b\"comment\":\"us\"\x7d"
    let deletion := asking .delete ["v1", "groups", "dev"] ""
    let reached : Realm := { answered localIssuer team [(1, change)] with now := 2 }
    team.storage.Canonical ∧
      (reached.storage.entry .group "urn:iam::group/dev").isSome = true ∧
      (after localIssuer reached deletion).storage.entry .group "urn:iam::group/dev" = none ∧
      ∃ (grant : Grant reached deletion) (operation : Operation),
        Operation.ofRequest deletion = .ok operation ∧
          operation.permission = some (grant.action, grant.resource) ∧
          operation.Touches grant.resource .group "urn:iam::group/dev" := by
  intro team change deletion reached
  have hteam : team.storage.Canonical := canonical_keeping (List.pairwise_singleton _ _)
    (List.forall_mem_singleton.2 (Record.canonical_ofName (by decide) (by decide) none))
    (List.pairwise_singleton _ _) (List.forall_mem_singleton.2 ⟨by decide, by decide⟩)
  have hkept : (reached.storage.entry .group "urn:iam::group/dev").isSome = true := by
    decide +kernel
  have hgone : (after localIssuer reached deletion).storage.entry .group "urn:iam::group/dev" =
      none := Option.isNone_iff_eq_none.1 (by decide +kernel)
  obtain ⟨e, he⟩ := Option.isSome_iff_exists.1 hkept
  refine ⟨hteam, hkept, hgone,
    changed_granted localIssuer hteam [(1, change)] 2 deletion _ _ e he ?_⟩
  rw [hgone]
  exact nofun

/-- A policy that denies. -/
def guard : Policy :=
  { Policy.ofEffect .deny with
    id := .ofLocal .policy "guard", subjects := ["urn:iam::user/1"],
    actions := ["iam:user:delete"], resources := ["urn:iam::user/2"] }

/-- Policies may be made, but nothing may be done with the one that denies. -/
def guarded : Realm :=
  keeping [] [guard, permitting "writers" "iam:policy:write" "urn:iam::policy/"]

theorem canonical_guarded : guarded.storage.Canonical :=
  canonical_keeping .nil nofun (by decide) (List.forall_mem_cons.2 ⟨⟨by decide, by decide⟩,
    List.forall_mem_singleton.2 ⟨by decide, by decide⟩⟩)

def creation : Request :=
  asking .post ["v1", "policies"]
    "\x7b\"name\":\"guard\",\"policy\":\x7b\"effect\":\"deny\"\x7d\x7d"

/-- Who may make policies may replace each of them: the policy that denies becomes one that denies
nothing, though nobody is granted anything on it. -/
theorem changed_ungranted :
    guarded.storage.Canonical ∧
      (∃ e, guarded.storage.entry .policy "urn:iam::policy/guard" = some e ∧
        (after localIssuer guarded creation).storage.entry .policy "urn:iam::policy/guard" ≠
          some e) ∧
      ∀ subject action, (guarded.run false
        (Authority.enforcer ⟨some subject, some action, some "urn:iam::policy/guard", []⟩)).1 ≠
          .ok () := by
  refine ⟨canonical_guarded, ⟨.record (k := .policy) guard, rfl, fun hkept => ?_⟩, ?_⟩
  · have hnow : ((after localIssuer guarded creation).storage.entry .policy
        "urn:iam::policy/guard").any (fun
          | .record policy => Policy.subjects policy |>.isEmpty
          | .text _ => false) = true := by decide +kernel
    rw [hkept] at hnow
    cases hnow
  · refine Authority.not_granted_of_resources Matcher.sound_nil rfl
      (List.forall_mem_cons.2 ⟨nofun, List.forall_mem_cons.2 ⟨fun _ => ?_, nofun⟩⟩)
    decide

end Api

end AccessControl
