/-
What it takes to be granted something. To find out whether a request is granted only reads
(`only_enforcer`), and a grant shows a stored policy that allows just what is asked for
(`allowed_of_granted`).
-/
import AccessControl.Proofs.Decision
import AccessControl.Proofs.Enforcement
import AccessControl.Proofs.Realm.Reading
import AccessControl.Service.Authority

namespace AccessControl

open Service

/-- The call reads, and decides nothing. -/
def Call.Looks (call : Call) : Prop :=
  call.Reads ∧ ∀ policies request, call ≠ .decide policies request

theorem Users.only_look (user : Urn .user) : (load user).Only Call.Looks := by
  refine Only.bind (Only.ite (only_pure ()) (only_throw _)) fun _ => ?_
  refine Only.guarded ⟨trivial, nofun⟩ ⟨trivial, nofun⟩ ?_
  exact (only_storage ⟨trivial, nofun⟩).bind fun record =>
    (only_accounts ⟨trivial, nofun⟩).bind fun _ => only_pure _

/-! ## Enforcement -/

namespace Enforcement

variable {allowed : Call → Prop} {subjectInfo resourceInfo : Option (InfoPoint Program)}
  {decide : AccessRequest → Program (Answer Decision)} {scope : Scope}

theorem only_informed {point : Option (InfoPoint Program)}
    (h : ∀ p ∈ point, ∀ name, (p name).Only allowed) (origin name : String)
    (context : Attributes) : (informed point origin name context).Only allowed := by
  cases point with
  | none => exact Program.only_pure _
  | some point => exact (h point rfl name).bind fun _ => Program.only_pure _

theorem only_gather (hsubject : ∀ p ∈ subjectInfo, ∀ name, (p name).Only allowed)
    (hresource : ∀ p ∈ resourceInfo, ∀ name, (p name).Only allowed) (scope : Scope) :
    (gather subjectInfo resourceInfo scope).Only allowed := by
  unfold gather
  split
  · exact Program.only_pure _
  · refine (only_informed hsubject _ _ _).bind fun context => ?_
    split
    · exact Program.only_pure _
    · refine (only_informed hresource _ _ _).bind fun context => ?_
      split <;> exact Program.only_pure _

theorem only_byDecision (hdecide : ∀ request, (decide request).Only allowed)
    (hgather : (gather subjectInfo resourceInfo scope).Only allowed) :
    (byDecision decide subjectInfo resourceInfo scope).Only allowed := by
  refine hgather.bind fun request => ?_
  split
  · exact Program.only_pure _
  · exact (hdecide _).bind fun _ => Program.only_pure _

theorem only_point {inner : Enforcer Program} (h : ∀ scope, (inner scope).Only allowed)
    (scope : Scope) : (point inner scope).Only allowed := by
  unfold point
  split
  · exact Program.only_pure _
  · exact (h scope).bind fun _ => Program.only_pure _

variable {s : Realm}

theorem granted_of_point {inner : Enforcer Program}
    (h : (s.run false (point inner scope)).1 = .ok ()) :
    (s.run false (inner scope)).1 = .ok () := by
  unfold point at h
  split at h
  · cases h
  · rw [Realm.run_bind] at h
    exact mapError_ok_iff.1 h

theorem allow_of_byDecision
    (h : (s.run false (byDecision decide subjectInfo resourceInfo scope)).1 = .ok ()) :
    ∃ request t, s.run false (gather subjectInfo resourceInfo scope) = (.ok request, t) ∧
      (t.run false (decide request)).1 = .ok .allow := by
  unfold byDecision at h
  rw [Realm.run_bind] at h
  rcases hgather : s.run false (gather subjectInfo resourceInfo scope) with ⟨answer, t⟩
  rw [hgather] at h
  cases answer with
  | error failure => cases h
  | ok request =>
    simp only [Realm.run_bind] at h
    exact ⟨request, t, rfl, ofDecision_ok_iff.1 h⟩

/-- The full request is the one that was made, with its three fields. -/
theorem fields_of_gather {request : AccessRequest} {t : Realm}
    (h : s.run false (gather subjectInfo resourceInfo scope) = (.ok request, t)) :
    scope.subject = some request.subject ∧ scope.action = some request.action ∧
      scope.resource = some request.resource := by
  unfold gather at h
  cases hrequired : required scope with
  | error failure => rw [hrequired] at h; cases h
  | ok fields =>
    obtain ⟨subject, action, resource⟩ := fields
    obtain ⟨ha, hs, hr⟩ := required_ok_iff.1 hrequired
    simp only [hrequired] at h
    rw [Realm.run_bind] at h
    rcases hsubject : s.run false (informed subjectInfo "subject" subject scope.context) with
      ⟨answer, u⟩
    rw [hsubject] at h
    cases answer with
    | error failure => cases h
    | ok context =>
      dsimp only at h
      rw [Realm.run_bind] at h
      rcases hresource : u.run false (informed resourceInfo "resource" resource context) with
        ⟨answer, v⟩
      rw [hresource] at h
      cases answer with
      | error failure => cases h
      | ok context =>
        cases h
        exact ⟨(present_eq_some.1 hs).1, (present_eq_some.1 ha).1, (present_eq_some.1 hr).1⟩

end Enforcement

namespace Authority

theorem only_userInfo (start name : String) : (userInfo start name).Only Call.Looks := by
  refine Service.Only.bind (Only.attempt (Users.only_look ⟨name⟩)) fun answer => ?_
  cases answer with
  | ok record =>
    exact (only_storage ⟨trivial, nofun⟩).bind fun groups => Service.only_pure _
  | error failure => exact Only.ite (Service.only_pure _) (only_throw _)

theorem only_info (start name : String) : (info start name).Only Call.Looks := by
  unfold info InfoPoint.route
  split
  · rename_i route hroute
    cases List.mem_singleton.1 (List.mem_of_find?_eq_some hroute)
    exact only_userInfo start name
  · exact Program.only_pure _

theorem only_gather (scope : Scope) :
    (Enforcement.gather (some (info "subject")) (some (info "resource")) scope).Only
      Call.Looks := by
  have hinfo (start : String) : ∀ p ∈ some (info start), ∀ name, (p name).Only Call.Looks := by
    rintro p hp name
    cases hp
    exact only_info start name
  exact Enforcement.only_gather (hinfo "subject") (hinfo "resource") scope

theorem only_decide (request : AccessRequest) : (decide request).Only Call.Reads :=
  Service.Only.bind (only_storage trivial) fun _ => Program.only_call trivial

/-- To find out whether a request is granted nothing is changed. -/
theorem only_enforcer (scope : Scope) : (enforcer scope).Only Call.Reads :=
  Enforcement.only_point (fun scope => Enforcement.only_byDecision only_decide
    (Program.Only.mono (fun _ h => h.1) (only_gather scope))) scope

/-- Looking changes neither what is stored nor the expressions that are known. -/
theorem looks_run {α : Type} {p : Program α} (hp : p.Only Call.Looks) (givenUp : Bool)
    (s : Realm) : (s.run givenUp p).2.storage = s.storage ∧
      (s.run givenUp p).2.expressions = s.expressions := by
  refine ⟨(Realm.alike_run (Program.Only.mono (fun _ h => h.1) hp) givenUp s).storage, ?_⟩
  refine hp.run_kept (I := fun t : Realm => t.expressions = s.expressions) ?_ rfl
  rintro origin call ⟨-, hcall⟩ t ht
  cases call with
  | enter _ | leave _ | announce _ => exact ht
  | decide policies request => exact absurd rfl (hcall policies request)
  | storage call =>
    rcases Realm.answer_storage givenUp origin call t with h | h <;> rw [h] <;> exact ht
  | accounts call =>
    rcases Realm.answer_accounts givenUp origin call t with h | h <;> rw [h] <;> exact ht

theorem evaluated_of_decide {s : Realm} (hsound : s.expressions.Sound) {request : AccessRequest}
    {decision : Decision} (h : (s.run false (decide request)).1 = .ok decision) :
    ∃ policies, (s.storage.answer (.list .policy)).1 = .ok policies ∧
      Decision.overriding (Decision.applicable · request) false policies = .ok decision := by
  have hserve : s.run false (decide request) = _ :=
    Realm.serve_reads (.list .policy) trivial
      (fun policies : List Policy => (Program.call .caller (.decide policies request) :
        Program (Answer Decision))) s
  rw [hserve] at h
  cases hlist : (s.storage.answer (.list .policy)).1 with
  | error failure => rw [hlist] at h; cases h
  | ok policies =>
    rw [hlist] at h
    have hevaluate := (Decision.evaluate_computes policies request s.expressions hsound).1
    exact ⟨policies, rfl, hevaluate.symm.trans h⟩

/-- A grant shows a stored policy that allows and that applies to what is asked for. -/
theorem allowed_of_granted {s : Realm} (hsound : s.expressions.Sound) {scope : Scope}
    (h : (s.run false (enforcer scope)).1 = .ok ()) :
    ∃ (policies : List Policy) (policy : Policy) (request : AccessRequest),
      (s.storage.answer (.list .policy)).1 = .ok policies ∧ policy ∈ policies ∧
        policy.effect = .allow ∧ Decision.applicable policy request = .ok true ∧
        scope.subject = some request.subject ∧ scope.action = some request.action ∧
        scope.resource = some request.resource := by
  obtain ⟨request, t, hgather, hdecide⟩ :=
    Enforcement.allow_of_byDecision (Enforcement.granted_of_point h)
  obtain ⟨hstorage, hexpressions⟩ := looks_run (only_gather scope) false s
  rw [hgather] at hstorage hexpressions
  obtain ⟨policies, hlist, hallow⟩ :=
    evaluated_of_decide (by rwa [hexpressions]) hdecide
  obtain ⟨hpasses, policy, hmem, happlies⟩ := Decision.overriding_allow_iff.1 hallow
  rw [hstorage] at hlist
  obtain ⟨applied, happlied, heffect⟩ := hpasses policy hmem
  exact ⟨policies, policy, request, hlist, hmem,
    heffect (Except.ok.inj (happlied.symm.trans happlies)), happlies,
    Enforcement.fields_of_gather hgather⟩

theorem resource_of_applicable {policy : Policy} {request : AccessRequest}
    (h : Decision.applicable policy request = .ok true) :
    Template.plainAny policy.resources request.resource = .ok true := by
  unfold Decision.applicable at h
  obtain ⟨action, -, h⟩ := bind_ok_iff.1 h
  cases action with
  | false => cases h
  | true =>
    obtain ⟨subject, -, h⟩ := bind_ok_iff.1 h
    cases subject with
    | false => cases h
    | true =>
      obtain ⟨resource, hresource, h⟩ := bind_ok_iff.1 h
      cases resource with
      | false => cases h
      | true => exact hresource

/-- Where no stored policy that allows names a resource, nothing is granted on it. -/
theorem not_granted_of_resources {s : Realm} (hsound : s.expressions.Sound) {policies : List Policy}
    (hlist : (s.storage.answer (.list .policy)).1 = .ok policies) {resource : String}
    (hother : ∀ policy ∈ policies, policy.effect = .allow →
      Template.plainAny policy.resources resource ≠ .ok true) (subject action : String) :
    (s.run false (enforcer ⟨some subject, some action, some resource, []⟩)).1 ≠ .ok () := by
  intro h
  obtain ⟨stored, policy, request, hstored, hmem, heffect, happlies, -, -, hresource⟩ :=
    allowed_of_granted hsound h
  cases hlist.symm.trans hstored
  have happlied := resource_of_applicable happlies
  rw [← Option.some.inj hresource] at happlied
  exact hother policy hmem heffect happlied

end Authority

end AccessControl
