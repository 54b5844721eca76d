/-
Decisions mind only the attributes that policies mention, those under the keys of their conditions.
Two requests that agree there are the same to every check (`evaluate_of_agrees`), and what a point
tells under other keys leaves a request in agreement with itself (`agreesOn_addContext`). Main
statement: an evaluator decides alike, and enforcement answers alike, whatever else is known
(`mindsMentioned`).
-/
import AccessControl.Proofs.Decision
import AccessControl.Proofs.Enforcement

namespace AccessControl

/-- Two requests are for the same, and under each of the keys they have the same attribute or
none. -/
structure AccessRequest.AgreesOn (keys : List String) (r s : AccessRequest) : Prop where
  subject : r.subject = s.subject
  action : r.action = s.action
  resource : r.resource = s.resource
  context : ∀ key ∈ keys, Assoc.get? r.context key = Assoc.get? s.context key

namespace Decision

/-- The keys under which some policy has a condition. -/
def mentioned (policies : List Policy) : List String := policies.flatMap (·.conditions.keys)

/-! ## Checks -/

section Checks

variable {r s : AccessRequest}

/-- The conditions are looked at one by one, each at the attribute under its key. -/
theorem conditionsHold_of_agrees {conditions : Assoc Condition}
    (h : r.AgreesOn conditions.keys s) :
    conditionsHold conditions r = conditionsHold conditions s := by
  induction conditions with
  | nil => rfl
  | cons e rest ih =>
    obtain ⟨key, condition⟩ := e
    have hhere : Assoc.get? r.context key = Assoc.get? s.context key :=
      h.context key List.mem_cons_self
    have hrest : conditionsHold rest r = conditionsHold rest s :=
      ih ⟨h.subject, h.action, h.resource, fun k hk => h.context k (List.mem_cons_of_mem _ hk)⟩
    simp only [conditionsHold, hhere, h.subject, hrest]

theorem applies_of_agrees {policy : Policy} (h : r.AgreesOn policy.conditions.keys s) :
    applies policy r = applies policy s := by
  unfold applies
  rw [h.action, h.subject, h.resource, conditionsHold_of_agrees h]

/-- The policies are gone through in step: each applies to both requests or to neither, or cannot be
checked for the same reason. -/
theorem evaluateFrom_of_agrees {policies : List Policy} (h : r.AgreesOn (mentioned policies) s)
    (allowed : Bool) : evaluateFrom allowed r policies = evaluateFrom allowed s policies := by
  induction policies generalizing allowed with
  | nil => rfl
  | cons policy rest ih =>
    have hsame : applies policy r = applies policy s := by
      refine applies_of_agrees ⟨h.subject, h.action, h.resource, fun key hkey => ?_⟩
      exact h.context key (List.mem_append_left _ hkey)
    have hrest : ∀ allowed, evaluateFrom allowed r rest = evaluateFrom allowed s rest := by
      refine ih ⟨h.subject, h.action, h.resource, fun key hkey => ?_⟩
      exact h.context key (List.mem_append_right _ hkey)
    simp only [evaluateFrom, hsame, hrest]

theorem evaluate_of_agrees {policies : List Policy} (h : r.AgreesOn (mentioned policies) s) :
    evaluate policies r = evaluate policies s := evaluateFrom_of_agrees h false

/-- What an evaluator has decided before does not tell the requests apart either. -/
theorem decided_of_agrees {policies : List Policy} (h : r.AgreesOn (mentioned policies) s)
    (history history' : List (List Policy × AccessRequest)) :
    decided history r policies = decided history' s policies := by
  have hhistory : decided history r = decided history' r := by
    rw [decided_eq, decided_eq, checked_eq, checked_eq]
  rw [hhistory]
  exact congrArg (fun computation => (Matcher.run computation (cached history')).1)
    (evaluate_of_agrees h)

end Checks

/-! ## Attributes that points tell -/

open Enforcement

/-- Attributes under other keys are added beside those under a key. -/
theorem get?_merge {into extra all : Attributes} (h : merge into extra = (all, none)) {key : String}
    (hkey : ∀ e ∈ extra, e.1 ≠ key) : Assoc.get? all key = Assoc.get? into key := by
  induction extra generalizing into with
  | nil =>
    cases h
    rfl
  | cons e rest ih =>
    obtain ⟨k, value⟩ := e
    obtain ⟨hk, hrest⟩ := List.forall_mem_cons.1 hkey
    rw [merge] at h
    split at h
    · cases h
    · rw [ih h hrest, Assoc.get?_put, if_neg hk]

/-- What a point tells under other keys leaves a request in agreement with itself. -/
theorem agreesOn_addContext {keys : List String} {origin : String} {request : AccessRequest}
    {extra all : Attributes} (h : addContext origin request.context extra = .ok all)
    (hextra : ∀ e ∈ extra, e.1 ∉ keys) :
    request.AgreesOn keys { request with context := all } := by
  refine ⟨rfl, rfl, rfl, fun key hkey => ?_⟩
  unfold addContext at h
  split at h
  · rename_i hmerge
    cases h
    refine (get?_merge hmerge fun e he hsame => ?_).symm
    exact hextra e he (hsame ▸ hkey)
  · cases h

section Points

variable {σ : Type} {subjectInfo resourceInfo : Option (InfoPoint (StateM σ))} {scope : Scope}
  {world after : σ} {request : AccessRequest}

theorem required_of_gather
    (h : (gather subjectInfo resourceInfo scope).run world = (.ok request, after)) :
    required scope = .ok (request.subject, request.action, request.resource) := by
  rw [gather_run] at h
  split at h
  · cases h
  · rename_i hrequired
    split at h
    · cases h
    · split at h
      · cases h
      · cases h
        exact hrequired

/-- Enforcement of a request that has been put together answers what is decided on it. -/
theorem enforced_of_gather (decide : AccessRequest → Answer Decision)
    (h : (gather subjectInfo resourceInfo scope).run world = (.ok request, after)) :
    ((point (byDecision (fun r => pure (decide r)) subjectInfo resourceInfo) scope).run world).1 =
      (ofDecision (decide request)).mapError closed := by
  rw [point_run, required_of_gather h]
  simp only [byDecision_run, h]
  rfl

end Points

/-! ## Decisions -/

/-- Decisions by some policies mind no attributes but those that the policies mention. -/
structure MindsMentioned (policies : List Policy) : Prop where
  /-- Requests that agree on these have the same outcome on every cache, and leave it the same. -/
  evaluated : ∀ r s : AccessRequest, r.AgreesOn (mentioned policies) s → ∀ cache,
    Matcher.run (evaluate policies r) cache = Matcher.run (evaluate policies s) cache
  /-- They are decided alike, whatever has been decided before. -/
  decided : ∀ r s : AccessRequest, r.AgreesOn (mentioned policies) s → ∀ history history',
    Decision.decided history r policies = Decision.decided history' s policies
  /-- What a point tells in addition, under other keys, does not change a decision. -/
  added : ∀ (origin : String) (request : AccessRequest) (extra all : Attributes),
    addContext origin request.context extra = .ok all → (∀ e ∈ extra, e.1 ∉ mentioned policies) →
    ∀ history, Decision.decided history { request with context := all } policies =
      Decision.decided history request policies
  /-- If two pairs of points put a request together for one scope, and what is known then is the
  same under the keys mentioned, enforcement gives one answer, with the one pair and the other. -/
  enforced : ∀ {σ τ : Type} (subjectInfo resourceInfo : Option (InfoPoint (StateM σ)))
    (subjectInfo' resourceInfo' : Option (InfoPoint (StateM τ))) (scope : Scope)
    (world after : σ) (world' after' : τ) (r s : AccessRequest),
    (gather subjectInfo resourceInfo scope).run world = (.ok r, after) →
    (gather subjectInfo' resourceInfo' scope).run world' = (.ok s, after') →
    (∀ key ∈ mentioned policies, Assoc.get? r.context key = Assoc.get? s.context key) →
    ∀ history history',
      ((point (byDecision (fun q => pure (Decision.decided history q policies)) subjectInfo
        resourceInfo) scope).run world).1 =
      ((point (byDecision (fun q => pure (Decision.decided history' q policies)) subjectInfo'
        resourceInfo') scope).run world').1

/-- Decisions by any policies mind no attributes but those that the policies mention. -/
theorem mindsMentioned (policies : List Policy) : MindsMentioned policies where
  evaluated r s h cache := congrArg (Matcher.run · cache) (evaluate_of_agrees h)
  decided _ _ h := decided_of_agrees h
  added _ _ _ _ h hextra history :=
    (decided_of_agrees (agreesOn_addContext h hextra) history history).symm
  enforced subjectInfo resourceInfo subjectInfo' resourceInfo' scope world after world' after' r s
      hr hs hagree history history' := by
    rw [enforced_of_gather _ hr, enforced_of_gather _ hs]
    have hsame := (required_of_gather hr).symm.trans (required_of_gather hs)
    simp only [Except.ok.injEq, Prod.mk.injEq] at hsame
    obtain ⟨hsubject, haction, hresource⟩ := hsame
    rw [decided_of_agrees ⟨hsubject, haction, hresource, hagree⟩ history history']

end Decision

end AccessControl
