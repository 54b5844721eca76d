/-
Deny overrides allow, whatever the order of the policies. A policy passes when checking it succeeds
and it does not deny; the first that does not pass decides, and without one the policies grant as
soon as one that applies allows. Main statement: for every list of policies and every request an
evaluator grants, names and fails as `DenyOverrides` says, whatever its cache holds
(`decided_denyOverrides`).
-/
import AccessControl.Decision
import AccessControl.Proofs.Matcher

namespace AccessControl.Decision

open Matcher (Computes computes_pure computes_fail matchingAny_computes)

/-! ## Evaluation without a cache -/

/-- Whether a policy applies to a request. -/
def applicable (policy : Policy) (request : AccessRequest) : Answer Bool := do
  if !(← Template.plainAny policy.actions request.action) then return false
  if !(← Template.plainAny policy.subjects request.subject) then return false
  if !(← Template.plainAny policy.resources request.resource) then return false
  conditionsHold policy.conditions request

/-- The decision of the policies from one on when `check` tells which of them apply. -/
def overriding (check : Policy → Answer Bool) (allowed : Bool) : List Policy → Answer Decision
  | [] => .ok (if allowed then allow else deniedByDefault)
  | policy :: rest => do
    if ← check policy then
      match policy.effect with
      | .deny => .ok (deniedBy policy)
      | .allow => overriding check true rest
    else overriding check allowed rest

theorem applies_computes (policy : Policy) (request : AccessRequest) :
    Computes (applies policy request) (applicable policy request) := by
  refine (matchingAny_computes _ _).bind fun action _ => ?_
  cases action with
  | false => exact computes_pure false
  | true =>
    refine (matchingAny_computes _ _).bind fun subject _ => ?_
    cases subject with
    | false => exact computes_pure false
    | true =>
      refine (matchingAny_computes _ _).bind fun resource _ => ?_
      cases resource with
      | false => exact computes_pure false
      | true =>
        cases conditionsHold policy.conditions request with
        | ok holds => exact computes_pure holds
        | error failure => exact computes_fail failure

theorem evaluateFrom_computes (request : AccessRequest) (policies : List Policy) (allowed : Bool) :
    Computes (evaluateFrom allowed request policies)
      (overriding (applicable · request) allowed policies) := by
  induction policies generalizing allowed with
  | nil => exact computes_pure _
  | cons policy rest ih =>
    refine (applies_computes policy request).bind fun applied _ => ?_
    cases applied with
    | false => exact ih allowed
    | true =>
      show Computes (match policy.effect with
        | .deny => pure (deniedBy policy)
        | .allow => evaluateFrom true request rest)
        (match policy.effect with
        | .deny => .ok (deniedBy policy)
        | .allow => overriding (applicable · request) true rest)
      cases policy.effect with
      | deny => exact computes_pure _
      | allow => exact ih true

theorem evaluate_computes (policies : List Policy) (request : AccessRequest) :
    Computes (evaluate policies request) (overriding (applicable · request) false policies) :=
  evaluateFrom_computes request policies false

/-! ## The policy that decides -/

section Overriding

variable {check : Policy → Answer Bool}

/-- Checking the policy succeeds, and it does not deny. -/
def Passes (check : Policy → Answer Bool) (policy : Policy) : Prop :=
  ∃ applied, check policy = .ok applied ∧ (applied = true → policy.effect = .allow)

/-- The policy denies, and all before it pass. -/
def DeniedAt (check : Policy → Answer Bool) (policies : List Policy) (policy : Policy) : Prop :=
  ∃ before after, policies = before ++ policy :: after ∧ (∀ p ∈ before, Passes check p) ∧
    check policy = .ok true ∧ policy.effect = .deny

/-- Checking some policy fails, and all before it pass. -/
def FailedWith (check : Policy → Answer Bool) (policies : List Policy) (failure : Failure) : Prop :=
  ∃ before policy after, policies = before ++ policy :: after ∧ (∀ p ∈ before, Passes check p) ∧
    check policy = .error failure

theorem passes_or_stops (check : Policy → Answer Bool) (policies : List Policy) :
    (∀ p ∈ policies, Passes check p) ∨ (∃ policy, DeniedAt check policies policy) ∨
      ∃ failure, FailedWith check policies failure := by
  -- a policy that passes goes before what stops the rest
  induction policies with
  | nil => exact .inl fun p hp => absurd hp List.not_mem_nil
  | cons policy rest ih =>
    cases hc : check policy with
    | error failure => exact .inr (.inr ⟨failure, [], policy, rest, rfl, by simp, hc⟩)
    | ok applied =>
      by_cases hp : applied = true → policy.effect = .allow
      · have hpass : Passes check policy := ⟨applied, hc, hp⟩
        have hcons : ∀ before, (∀ p ∈ before, Passes check p) →
            ∀ p ∈ policy :: before, Passes check p :=
          fun _ hb => List.forall_mem_cons.2 ⟨hpass, hb⟩
        rcases ih with hall | ⟨q, before, after, rfl, hb, h⟩ | ⟨f, before, q, after, rfl, hb, h⟩
        · exact .inl (hcons rest hall)
        · exact .inr (.inl ⟨q, policy :: before, after, rfl, hcons before hb, h⟩)
        · exact .inr (.inr ⟨f, policy :: before, q, after, rfl, hcons before hb, h⟩)
      · obtain ⟨ht, he⟩ := Classical.not_imp.1 hp
        have hd : policy.effect = .deny := by
          cases h : policy.effect with
          | deny => rfl
          | allow => exact absurd h he
        exact .inr (.inl ⟨policy, [], rest, rfl, by simp, ht ▸ hc, hd⟩)

theorem overriding_cons {policy : Policy} (h : Passes check policy) (allowed : Bool)
    (rest : List Policy) :
    ∃ allowed', overriding check allowed (policy :: rest) = overriding check allowed' rest ∧
      (allowed' = true ↔ allowed = true ∨ check policy = .ok true) := by
  obtain ⟨applied, hc, he⟩ := h
  cases applied with
  | false =>
    refine ⟨allowed, by simp only [overriding, hc]; rfl, ?_⟩
    simp [hc]
  | true =>
    refine ⟨true, by simp only [overriding, hc, he rfl]; rfl, ?_⟩
    simp [hc]

/-- Policies that pass only matter by whether one of them applies. -/
theorem overriding_append {before : List Policy} (h : ∀ p ∈ before, Passes check p)
    (allowed : Bool) (rest : List Policy) :
    ∃ allowed', overriding check allowed (before ++ rest) = overriding check allowed' rest ∧
      (allowed' = true ↔ allowed = true ∨ ∃ p ∈ before, check p = .ok true) := by
  induction before generalizing allowed with
  | nil => exact ⟨allowed, rfl, by simp⟩
  | cons policy before ih =>
    obtain ⟨hp, hb⟩ := List.forall_mem_cons.1 h
    obtain ⟨first, h1, hf⟩ := overriding_cons hp allowed (before ++ rest)
    obtain ⟨second, h2, hs⟩ := ih hb first
    refine ⟨second, h1.trans h2, ?_⟩
    rw [hs, hf]
    simp only [List.mem_cons, exists_eq_or_imp, or_assoc]

theorem overriding_pass {policies : List Policy} (h : ∀ p ∈ policies, Passes check p) :
    overriding check false policies = .ok allow ∧ (∃ p ∈ policies, check p = .ok true) ∨
      overriding check false policies = .ok deniedByDefault ∧
        ¬ ∃ p ∈ policies, check p = .ok true := by
  obtain ⟨allowed, hr, ha⟩ := overriding_append h false []
  rw [List.append_nil] at hr
  rw [hr]
  cases allowed with
  | true => exact .inl ⟨rfl, (ha.1 rfl).resolve_left Bool.noConfusion⟩
  | false => exact .inr ⟨rfl, fun hex => Bool.noConfusion (ha.2 (.inr hex))⟩

theorem overriding_denied {policies : List Policy} {policy : Policy}
    (h : DeniedAt check policies policy) (allowed : Bool) :
    overriding check allowed policies = .ok (deniedBy policy) := by
  obtain ⟨before, after, rfl, hb, hc, he⟩ := h
  obtain ⟨allowed', hr, -⟩ := overriding_append hb allowed (policy :: after)
  rw [hr]
  simp only [overriding, hc, he]
  rfl

theorem overriding_failed {policies : List Policy} {failure : Failure}
    (h : FailedWith check policies failure) (allowed : Bool) :
    overriding check allowed policies = .error failure := by
  obtain ⟨before, policy, after, rfl, hb, hc⟩ := h
  obtain ⟨allowed', hr, -⟩ := overriding_append hb allowed (policy :: after)
  rw [hr]
  simp only [overriding, hc]
  rfl

end Overriding

/-! ## An evaluator and its cache -/

/-- The cache of an evaluator that has made the given evaluations, the first of them first. -/
def cached (history : List (List Policy × AccessRequest)) : Matcher :=
  history.foldl (fun cache made => (Matcher.run (evaluate made.1 made.2) cache).2) []

/-- What an evaluator finds when it checks whether a policy applies. -/
def checked (history : List (List Policy × AccessRequest)) (request : AccessRequest)
    (policy : Policy) : Answer Bool :=
  (Matcher.run (applies policy request) (cached history)).1

/-- What an evaluator decides. -/
def decided (history : List (List Policy × AccessRequest)) (request : AccessRequest)
    (policies : List Policy) : Answer Decision :=
  (Matcher.run (evaluate policies request) (cached history)).1

theorem cached_sound (history : List (List Policy × AccessRequest)) : (cached history).Sound :=
  Matcher.Sound.foldl (fun made : List Policy × AccessRequest => evaluate_computes made.1 made.2)
    history Matcher.sound_nil

theorem checked_eq (history : List (List Policy × AccessRequest)) (request : AccessRequest) :
    checked history request = (applicable · request) :=
  funext fun policy => (applies_computes policy request _ (cached_sound history)).1

theorem decided_eq (history : List (List Policy × AccessRequest)) (request : AccessRequest) :
    decided history request = overriding (checked history request) false := by
  rw [checked_eq]
  exact funext fun policies => (evaluate_computes policies request _ (cached_sound history)).1

/-! ## Deny overrides allow -/

theorem deniedBy_eq (p : Policy) :
    deniedBy p = deny ("Request was denied by policy " ++ p.id.text) := rfl

theorem deniedBy_inj {p q : Policy} : deniedBy p = deniedBy q ↔ p.id = q.id := by
  rw [deniedBy_eq, deniedBy_eq, Decision.deny.injEq, String.append_right_inj]
  constructor
  · intro h
    cases hp : p.id
    cases hq : q.id
    rw [hp, hq] at h
    exact congrArg _ h
  · exact congrArg _

theorem deniedBy_ne_default (p : Policy) : deniedBy p ≠ deniedByDefault := by
  intro h
  rw [deniedBy_eq] at h
  -- both messages begin alike, up to "by p" and "by d"
  have hc := congrArg (fun s => s.toList[22]?) (Decision.deny.inj h)
  simp at hc

/-- Policies are decided on by overriding denials when `check` tells which of them apply. -/
structure DenyOverrides (check : Policy → Answer Bool)
    (decide : List Policy → Answer Decision) : Prop where
  /-- A request is granted if all checks succeed, nothing denies it and something allows it. -/
  granted : ∀ policies, decide policies = .ok allow ↔
    (∀ p ∈ policies, ∃ applied, check p = .ok applied) ∧
    (∀ p ∈ policies, p.effect = .deny → check p ≠ .ok true) ∧
    ∃ p ∈ policies, p.effect = .allow ∧ check p = .ok true
  /-- A denial names the first policy that denies, if no check before it fails. -/
  named : ∀ policies p, decide policies = .ok (deniedBy p) ↔
    ∃ q, q.id = p.id ∧ DeniedAt check policies q
  /-- A failure is that of the first check that fails, if no policy before it denies. -/
  failed : ∀ policies failure, decide policies = .error failure ↔ FailedWith check policies failure
  /-- There are no other decisions than to grant, to deny by name and to deny by default. -/
  decisions : ∀ policies decision, decide policies = .ok decision →
    decision = allow ∨ decision = deniedByDefault ∨ ∃ p ∈ policies, decision = deniedBy p
  /-- A grant does not depend on the order. -/
  reordered : ∀ policies policies', policies.Perm policies' →
    (decide policies = .ok allow ↔ decide policies' = .ok allow)

section Overriding

variable {check : Policy → Answer Bool} {policies : List Policy}

theorem passes_iff {p : Policy} : Passes check p ↔
    (∃ applied, check p = .ok applied) ∧ (p.effect = .deny → check p ≠ .ok true) := by
  constructor
  · rintro ⟨applied, hc, he⟩
    refine ⟨⟨applied, hc⟩, fun hd ht => ?_⟩
    have := he (Except.ok.inj (hc.symm.trans ht))
    rw [hd] at this
    cases this
  · rintro ⟨⟨applied, hc⟩, hd⟩
    refine ⟨applied, hc, fun ht => ?_⟩
    cases he : p.effect with
    | allow => rfl
    | deny => exact absurd (ht ▸ hc) (hd he)

theorem overriding_allow_iff : overriding check false policies = .ok allow ↔
    (∀ p ∈ policies, Passes check p) ∧ ∃ p ∈ policies, check p = .ok true := by
  constructor
  · intro h
    rcases passes_or_stops check policies with hall | ⟨p, hd⟩ | ⟨failure, hf⟩
    · refine ⟨hall, ?_⟩
      rcases overriding_pass hall with ⟨-, hex⟩ | ⟨hr, -⟩
      · exact hex
      · rw [hr] at h
        cases h
    · rw [overriding_denied hd] at h
      cases h
    · rw [overriding_failed hf] at h
      cases h
  · rintro ⟨hall, hex⟩
    rcases overriding_pass hall with ⟨hr, -⟩ | ⟨-, hno⟩
    · exact hr
    · exact absurd hex hno

theorem overriding_deniedBy_iff {p : Policy} :
    overriding check false policies = .ok (deniedBy p) ↔
      ∃ q, q.id = p.id ∧ DeniedAt check policies q := by
  constructor
  · intro h
    rcases passes_or_stops check policies with hall | ⟨q, hd⟩ | ⟨failure, hf⟩
    · rcases overriding_pass hall with ⟨hr, -⟩ | ⟨hr, -⟩ <;> rw [hr] at h
      · cases h
      · exact absurd (Except.ok.inj h).symm (deniedBy_ne_default p)
    · rw [overriding_denied hd] at h
      exact ⟨q, deniedBy_inj.1 (Except.ok.inj h), hd⟩
    · rw [overriding_failed hf] at h
      cases h
  · rintro ⟨q, hid, hd⟩
    rw [overriding_denied hd, deniedBy_inj.2 hid]

theorem overriding_error_iff {failure : Failure} :
    overriding check false policies = .error failure ↔ FailedWith check policies failure := by
  refine ⟨fun h => ?_, fun h => overriding_failed h false⟩
  rcases passes_or_stops check policies with hall | ⟨q, hd⟩ | ⟨failure', hf⟩
  · rcases overriding_pass hall with ⟨hr, -⟩ | ⟨hr, -⟩ <;> rw [hr] at h <;> cases h
  · rw [overriding_denied hd] at h
    cases h
  · rw [overriding_failed hf] at h
    exact Except.error.inj h ▸ hf

theorem overriding_decisions {decision : Decision}
    (h : overriding check false policies = .ok decision) :
    decision = allow ∨ decision = deniedByDefault ∨ ∃ p ∈ policies, decision = deniedBy p := by
  rcases passes_or_stops check policies with hall | ⟨p, hd⟩ | ⟨failure, hf⟩
  · rcases overriding_pass hall with ⟨hr, -⟩ | ⟨hr, -⟩ <;> rw [hr] at h
    · exact .inl (Except.ok.inj h).symm
    · exact .inr (.inl (Except.ok.inj h).symm)
  · rw [overriding_denied hd] at h
    obtain ⟨before, after, rfl, -⟩ := hd
    exact .inr (.inr ⟨p, by simp, (Except.ok.inj h).symm⟩)
  · rw [overriding_failed hf] at h
    cases h

end Overriding

theorem overriding_denyOverrides (check : Policy → Answer Bool) :
    DenyOverrides check (overriding check false) where
  granted policies := by
    rw [overriding_allow_iff]
    constructor
    · rintro ⟨hall, p, hp, hc⟩
      refine ⟨fun q hq => (passes_iff.1 (hall q hq)).1, fun q hq => (passes_iff.1 (hall q hq)).2,
        p, hp, ?_, hc⟩
      cases he : p.effect with
      | allow => rfl
      | deny => exact absurd hc ((passes_iff.1 (hall p hp)).2 he)
    · rintro ⟨hok, hdeny, p, hp, -, hc⟩
      exact ⟨fun q hq => passes_iff.2 ⟨hok q hq, hdeny q hq⟩, p, hp, hc⟩
  named _ _ := overriding_deniedBy_iff
  failed _ _ := overriding_error_iff
  decisions _ _ := overriding_decisions
  reordered policies policies' h := by
    rw [overriding_allow_iff, overriding_allow_iff]
    simp only [h.mem_iff]

/-- Whatever an evaluator has evaluated before, it lets denials override, and what it has evaluated
before has no part in what it finds and decides. -/
theorem decided_denyOverrides (history : List (List Policy × AccessRequest))
    (request : AccessRequest) :
    DenyOverrides (checked history request) (decided history request) ∧
      ∀ history', checked history' request = checked history request ∧
        decided history' request = decided history request := by
  refine ⟨?_, fun history' => ⟨by rw [checked_eq, checked_eq], ?_⟩⟩
  · rw [decided_eq]
    exact overriding_denyOverrides _
  · rw [decided_eq, decided_eq, checked_eq, checked_eq]

end AccessControl.Decision
