/-
Nothing is done at the interface that is not granted. Main statement: every request is mediated
(`mediated`). What a request needs to be granted is told twice, by the operation that is made of it
and by tables of the places and methods (`Place.action?`, `Place.resource?`); they agree
(`Operation.ofRequest_permission`).
-/
import AccessControl.Proofs.Api.Course
import AccessControl.Proofs.Authority

namespace AccessControl.Api

/-! ## What is asked for -/

namespace Place

/-- The action that a method at a place needs to be granted. -/
def action? : Place → Method → Option String
  | users, .get | users, .head => some "iam:user:list"
  | users, .post => some "iam:user:write"
  | user _, .get | user _, .head => some "iam:user:load"
  | user _, .delete => some "iam:user:delete"
  | locked _, .put | locked _, .delete => some "iam:user:lock-unlock"
  | allAttributes _, .put => some "iam:user:write-attr"
  | oneAttribute _ _, .put | oneAttribute _ _, .delete => some "iam:user:write-attr"
  | groups, .get | groups, .head => some "iam:groups.read"
  | groups, .post => some "iam:groups.write"
  | group _, .get | group _, .head => some "iam:groups.read"
  | group _, .put | group _, .patch | group _, .delete => some "iam:groups.write"
  | members _, .get | members _, .head => some "iam:groups.read"
  | member _ _, .put | member _ _, .delete => some "iam:groups.write"
  | policies, .get | policies, .head => some "iam:policy:list"
  | policies, .post => some "iam:policy:write"
  | policy _, .get | policy _, .head => some "iam:policy:load"
  | policy _, .put => some "iam:policy:write"
  | policy _, .delete => some "iam:policy:delete"
  | _, _ => none

/-- What a place is about: the entity that a segment of its path names, or all of a kind. -/
def resource? : Place → Option String
  | whoami => none
  | users => some "urn:iam::user/"
  | user id | locked id | allAttributes id | oneAttribute id _ =>
    (Text.Percent.decode? id).map ("urn:iam::user/" ++ ·)
  | groups => some "urn:iam::group/"
  | group id | members id | member id _ =>
    (Text.Percent.decode? id).map ("urn:iam::group/" ++ ·)
  | policies => some "urn:iam::policy/"
  | policy id => (Text.Percent.decode? id).map ("urn:iam::policy/" ++ ·)

end Place

namespace Operation

theorem entity_ok_iff {k : Kind} {segment : String} {urn : Urn k} :
    entity k segment = .ok urn ↔
      ∃ name, Text.Percent.decode? segment = some name ∧ Urn.ofLocal k name = urn := by
  unfold entity
  cases Text.Percent.decode? segment <;> simp

theorem all_user : all .user = "urn:iam::user/" := by decide

theorem all_group : all .group = "urn:iam::group/" := by decide

theorem all_policy : all .policy = "urn:iam::policy/" := by decide

theorem text_ofLocal (k : Kind) (name : String) : (Urn.ofLocal k name).text = all k ++ name := by
  simp [Urn.ofLocal, Urn.compose, toString, all]

theorem ofPlace_permission {place : Place} {method : Method} {request : Request}
    {operation : Operation} {action resource : String}
    (h : ofPlace place (if method = .head then .get else method) request = .ok operation)
    (hpermission : operation.permission = some (action, resource)) :
    place.action? method = some action ∧ place.resource? = some resource := by
  cases place <;> cases method <;>
    simp only [ofPlace, ofPlace.changeComment, bind_ok_iff, entity_ok_iff, reduceCtorEq, if_true,
      if_false, pure, Except.pure, Except.ok.injEq] at h
  all_goals
    simp only [Place.action?, Place.resource?]
    grind [permission, text_ofLocal, all_user, all_group, all_policy]

/-- Only to ask who one is needs no grant. -/
theorem permission_eq_none {operation : Operation} (h : operation.permission = none) :
    operation = whoami := by
  cases operation <;> first | rfl | cases h

theorem ofPlace_whoami {place : Place} {method : Method} {request : Request}
    (h : ofPlace place (if method = .head then .get else method) request = .ok whoami) :
    place = .whoami := by
  cases place <;> cases method <;>
    simp only [ofPlace, ofPlace.changeComment, bind_ok_iff, reduceCtorEq, if_true, if_false, pure,
      Except.pure, Except.ok.injEq, and_false, exists_false] at h
  all_goals rfl

end Operation

theorem Place.path_of_whoami {path : List String} (h : ofPath? path = some whoami) :
    path = ["v1", "whoami"] := by
  unfold ofPath? at h
  split at h
  · cases h
  · split at h <;> first | rfl | cases h

/-- The operation of a request with what it needs, as its place and its method tell. -/
theorem Operation.ofRequest_permission {request : Request} {operation : Operation}
    {action resource : String} (h : ofRequest request = .ok operation)
    (hpermission : operation.permission = some (action, resource)) :
    ∃ place, Place.ofPath? request.path = some place ∧
      place.action? request.method = some action ∧ place.resource? = some resource := by
  unfold ofRequest at h
  cases hplace : Place.ofPath? request.path with
  | none => simp [hplace] at h
  | some place =>
    rw [hplace] at h
    exact ⟨place, rfl, ofPlace_permission h hpermission⟩

theorem Operation.path_of_whoami {request : Request} (h : ofRequest request = .ok whoami) :
    request.path = ["v1", "whoami"] := by
  unfold ofRequest at h
  cases hplace : Place.ofPath? request.path with
  | none => simp [hplace] at h
  | some place =>
    rw [hplace] at h
    cases ofPlace_whoami h
    exact Place.path_of_whoami hplace

/-! ## What is only read -/

theorem only_authenticate (api : Api) (header : Option String) :
    (api.authenticate header).Only Call.Reads := by
  unfold Api.authenticate Authentication.authenticate
  split
  · exact Program.only_pure _
  · exact Program.Only.bind (Service.only_accounts trivial) fun _ => Program.only_pure _

theorem only_authorize (api : Api) (subject : Urn .user) (operation : Operation) :
    (api.authorize subject operation).Only Call.Reads := by
  unfold Api.authorize Api.enforcer
  split
  · exact Program.only_pure _
  · split
    · exact Authority.only_enforcer _
    · exact Enforcement.only_point (fun _ => Program.only_pure _) _

/-! ## Grants -/

/-- The request is for one of the entities that the interface keeps. -/
def Request.isGuarded (request : Request) : Prop :=
  request.path.take 2 ∈ [["v1", "users"], ["v1", "groups"], ["v1", "policies"]]

/-- Has the account store verify a token. -/
def verify (s : Realm) (token : String) : Answer String × Realm := s.askAccounts (.subject token)

/-- That a request is granted: the account store verifies the token that it shows, and whom that
names is granted the action that the method asks for on what the path is about. The grant is looked
for before anything is done, in the realm as the verification leaves it. -/
structure Grant (s : Realm) (request : Request) where
  token : String
  subject : String
  place : Place
  action : String
  resource : String
  shown : Authentication.bearer request.authorization = .ok token
  verified : (verify s token).1 = .ok subject
  unchanged : Realm.Alike (verify s token).2 s
  placed : Place.ofPath? request.path = some place
  needed : place.action? request.method = some action
  about : place.resource? = some resource
  granted : ((verify s token).2.run false (Authority.enforcer
    ⟨some ("urn:iam::user/" ++ subject), some action, some resource, []⟩)).1 = .ok ()

variable {issuer : String} {s t u : Realm} {request : Request}

theorem run_authenticate (api : Api) (header : Option String) (s : Realm) :
    s.run false (api.authenticate header) =
      match Authentication.bearer header with
      | .error failure => (.error failure, s)
      | .ok token => (Authentication.named api.issuer (verify s token).1,
          (verify s token).2) := by
  unfold Api.authenticate Authentication.authenticate
  cases Authentication.bearer header <;> rfl

/-- A header authenticates the user that its token is verified for. -/
theorem authenticate_ok {api : Api} {header : Option String} {user : Urn .user}
    (h : s.run false (api.authenticate header) = (.ok user, t)) :
    ∃ token subject, Authentication.bearer header = .ok token ∧
      verify s token = (.ok subject, t) ∧ user = .ofLocal .user subject := by
  rw [run_authenticate] at h
  cases hbearer : Authentication.bearer header with
  | error failure => simp [hbearer] at h
  | ok token =>
    rw [hbearer] at h
    rcases hanswer : verify s token with ⟨answer, t'⟩
    simp only [hanswer] at h
    obtain ⟨hnamed, rfl⟩ := Prod.mk.inj h
    cases answer with
    | error failure => simp [Authentication.named] at hnamed
    | ok subject => exact ⟨token, subject, rfl, hanswer, (Except.ok.inj hnamed).symm⟩

theorem alike_authenticated {answer : Answer (Urn .user)} (h : s.run false
    (Api.authenticate ⟨issuer, true⟩ request.authorization) = (answer, t)) : Realm.Alike t s := by
  have halike := Realm.alike_run (only_authenticate ⟨issuer, true⟩ request.authorization) false s
  rwa [h] at halike

theorem alike_authorized {subject : Urn .user} {operation : Operation} {answer : Answer Unit}
    (h : t.run false (Api.authorize ⟨issuer, true⟩ subject operation) = (answer, u)) :
    Realm.Alike u t := by
  have halike := Realm.alike_run (only_authorize ⟨issuer, true⟩ subject operation) false t
  rwa [h] at halike

/-- How a request that is granted was performed, up to the realm that it leaves. -/
structure Performance (s : Realm) (request : Request) (u : Realm) extends Grant s request where
  user : Urn .user
  operation : Operation
  before : Realm
  alike : Realm.Alike before s
  asked : Operation.ofRequest request = .ok operation
  permitted : operation.permission = some (action, resource)
  performed : u = (before.serve (operation.perform user)).2

/-- What is performed is granted, unless it is only to ask who one is. -/
theorem whoami_or_performance {subject : Urn .user} {operation : Operation}
    (hsubject : s.run false (Api.authenticate ⟨issuer, true⟩ request.authorization) =
      (.ok subject, t))
    (hoperation : Operation.ofRequest request = .ok operation)
    (hgrant : t.run false (Api.authorize ⟨issuer, true⟩ subject operation) = (.ok (), u)) :
    operation = .whoami ∨
      Nonempty (Performance s request (u.serve (operation.perform subject)).2) := by
  have halike : Realm.Alike u s := (alike_authorized hgrant).trans (alike_authenticated hsubject)
  cases hpermission : operation.permission with
  | none => exact .inl (Operation.permission_eq_none hpermission)
  | some needed =>
    obtain ⟨action, resource⟩ := needed
    obtain ⟨token, name, hshown, hverified, rfl⟩ := authenticate_ok hsubject
    obtain ⟨place, hplaced, hneeded, habout⟩ :=
      Operation.ofRequest_permission hoperation hpermission
    have hunchanged : Realm.Alike (verify s token).2 s :=
      Realm.alike_run (p := Program.call .caller (.accounts (.subject token)))
        (Program.only_call trivial) false s
    simp only [Api.authorize, hpermission] at hgrant
    rw [Operation.text_ofLocal, Operation.all_user] at hgrant
    have hgranted : ((verify s token).2.run false (Authority.enforcer
        ⟨some ("urn:iam::user/" ++ name), some action, some resource, []⟩)).1 = .ok () := by
      rw [hverified]
      exact congrArg Prod.fst hgrant
    exact .inr ⟨⟨⟨token, name, place, action, resource, hshown, by rw [hverified], hunchanged,
      hplaced, hneeded, habout, hgranted⟩, _, operation, u, halike, hoperation, hpermission, rfl⟩⟩

/-- Whatever course a request takes, it leaves the realm as it is or it is granted and performed. -/
theorem Course.alike_or_performance {response : Response}
    (h : Course ⟨issuer, true⟩ s request response u) :
    Realm.Alike u s ∨ Nonempty (Performance s request u) := by
  cases h with
  | health _ => exact .inl (.refl s)
  | unknown _ h => exact .inl (alike_authenticated h)
  | faulty hsubject _ => exact .inl (alike_authenticated hsubject)
  | refused hsubject _ h => exact .inl ((alike_authorized h).trans (alike_authenticated hsubject))
  | performed hsubject hoperation h =>
    rcases whoami_or_performance hsubject hoperation h with rfl | hperformance
    · exact .inl ((alike_authorized h).trans (alike_authenticated hsubject))
    · exact .inr hperformance

theorem le_status_ofFailure (failure : Failure) : 300 ≤ (Response.ofFailure failure).status := by
  cases failure <;> simp [Response.ofFailure, Response.withBody, Response.statusOf]

theorem le_status_fault (fault : Operation.Fault) : 300 ≤ (Response.bare fault.status).status := by
  cases fault <;> decide

/-- A request for an entity that succeeds is granted. -/
theorem Course.grant_of_success {response : Response}
    (h : Course ⟨issuer, true⟩ s request response u) (hguarded : request.isGuarded)
    (hsuccess : response.status < 300) : Nonempty (Grant s request) := by
  cases h with
  | health h => simp [Request.isGuarded, h] at hguarded
  | unknown _ _ | refused _ _ _ => exact absurd (le_status_ofFailure _) (Nat.not_le.2 hsuccess)
  | faulty _ _ => exact absurd (le_status_fault _) (Nat.not_le.2 hsuccess)
  | performed hsubject hoperation h =>
    rcases whoami_or_performance hsubject hoperation h with rfl | hperformance
    · simp [Request.isGuarded, Operation.path_of_whoami hoperation] at hguarded
    · exact hperformance.elim fun performance => ⟨performance.toGrant⟩

/-! ## Mediation -/

/-- What has come of a request when the subscribers have done what it gave them to do. -/
def after (issuer : String) (s : Realm) (request : Request) : Realm :=
  (s.perform false (Api.answer ⟨issuer, true⟩ request)).2

def status (issuer : String) (s : Realm) (request : Request) : Nat :=
  (s.perform false (Api.answer ⟨issuer, true⟩ request)).1.status

/-- Someone is known to ask, but the request is malformed or what it asks for is not granted. -/
def Refused (issuer : String) (s : Realm) (request : Request) : Prop :=
  ∃ subject t, s.run false (Api.authenticate ⟨issuer, true⟩ request.authorization) =
      (.ok subject, t) ∧
    ((∃ fault, Operation.ofRequest request = .error fault) ∨
      ∃ operation failure, Operation.ofRequest request = .ok operation ∧
        (t.run false (Api.authorize ⟨issuer, true⟩ subject operation)).1 = .error failure)

/-- Nothing is done for a request, and nothing is told about the entities, unless it is granted. The
realm is compared with what it becomes anyway, by what its subscribers still have to do. -/
structure Mediated (issuer : String) (s : Realm) (request : Request) : Prop where
  changed : ¬ Realm.Alike (after issuer s request) s.settle → Nonempty (Grant s request)
  succeeded : request.isGuarded → 200 ≤ status issuer s request → status issuer s request < 300 →
    Nonempty (Grant s request)
  unknown : ∀ failure t, request.path ≠ ["health"] →
    s.run false (Api.authenticate ⟨issuer, true⟩ request.authorization) = (.error failure, t) →
      status issuer s request = (Response.statusOf failure).1 ∧
        after issuer s request = t.settle ∧ Realm.Alike t s
  refused : Refused issuer s request → Realm.Alike (after issuer s request) s.settle

theorem Course.of_unknown {response : Response} {failure : Failure}
    (h : Course ⟨issuer, true⟩ s request response u) (hpath : request.path ≠ ["health"])
    (hfailed : s.run false (Api.authenticate ⟨issuer, true⟩ request.authorization) =
      (.error failure, t)) : response = .ofFailure failure ∧ u = t := by
  cases h with
  | health h => exact absurd h hpath
  | unknown _ h =>
    rw [hfailed] at h
    cases h
    exact ⟨rfl, rfl⟩
  | faulty hsubject _ | refused hsubject _ _ | performed hsubject _ _ =>
    rw [hfailed] at hsubject
    cases hsubject

theorem Course.alike_of_refused {response : Response}
    (h : Course ⟨issuer, true⟩ s request response u) (hrefused : Refused issuer s request) :
    Realm.Alike u s := by
  cases h with
  | health _ => exact .refl s
  | unknown _ h => exact alike_authenticated h
  | faulty hsubject _ => exact alike_authenticated hsubject
  | refused hsubject _ h => exact (alike_authorized h).trans (alike_authenticated hsubject)
  | performed hsubject hoperation h =>
    obtain ⟨subject, t, hsubject', hrefused⟩ := hrefused
    rw [hsubject'] at hsubject
    cases hsubject
    rcases hrefused with ⟨fault, hfault⟩ | ⟨operation, failure, hoperation', hfailed⟩
    · rw [hfault] at hoperation
      cases hoperation
    · rw [hoperation'] at hoperation
      cases hoperation
      rw [h] at hfailed
      cases hfailed

/-- Every request is mediated. -/
theorem mediated (issuer : String) (s : Realm) (request : Request) :
    Mediated issuer s request := by
  obtain ⟨response, hstatus, hcourse⟩ := course ⟨issuer, true⟩ s request
  have hafter : after issuer s request =
      (s.run false (Api.answer ⟨issuer, true⟩ request)).2.settle := rfl
  have hstatus : status issuer s request = response.status := hstatus
  refine ⟨fun hchanged => ?_, fun hguarded _ hsuccess => ?_, fun failure t hpath hfailed => ?_,
    fun hrefused => (hcourse.alike_of_refused hrefused).settle⟩
  · rcases hcourse.alike_or_performance with halike | hperformance
    · exact absurd halike.settle hchanged
    · exact hperformance.elim fun performance => ⟨performance.toGrant⟩
  · exact hcourse.grant_of_success hguarded (hstatus ▸ hsuccess)
  · obtain ⟨rfl, rfl⟩ := hcourse.of_unknown hpath hfailed
    exact ⟨hstatus, hafter, alike_authenticated hfailed⟩

end AccessControl.Api
