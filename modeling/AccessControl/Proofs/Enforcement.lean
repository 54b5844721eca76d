/-
Enforcement fails closed. The enforcers run in any world that the points and the decision read and
change. Main statement: a request is granted exactly when it is complete, all points answer, what
they tell can be put together, and the decision on it is to allow; everything else is a refusal,
and an incomplete request is refused before anything is asked (`enforcement_fails_closed`).
-/
import AccessControl.Enforcement
import AccessControl.Proofs.Ordered

namespace AccessControl

/-! ## Putting attributes together -/

namespace Assoc

variable {β : Type}

/-- No key is bound in both maps. -/
def Apart (a b : Assoc β) : Prop := ∀ key, a.has key = true → b.has key = false

/-- The first map has the bindings of the other two. -/
def Joins (all a b : Assoc β) : Prop :=
  ∀ key value, all.get? key = some value ↔ a.get? key = some value ∨ b.get? key = some value

theorem has_put (m : Assoc β) (key : String) (value : β) (k : String) :
    has (put key value m) k = true ↔ key = k ∨ has m k = true := by
  rw [has_eq, has_eq, get?_put]
  split
  · simp [*]
  · simp [*]

theorem has_cons (e : String × β) (m : Assoc β) (k : String) :
    has (e :: m) k = true ↔ e.1 = k ∨ has m k = true := by
  unfold has
  rw [List.any_cons, Bool.or_eq_true, beq_iff_eq]

theorem get?_of_has (m : Assoc β) {key : String} (h : m.has key = false) : m.get? key = none := by
  rw [has_eq, Option.isSome_eq_false_iff, Option.isNone_iff_eq_none] at h
  exact h

/-- A key is smaller than those after it, so it is none of them. -/
theorem Sorted.has_rest {e : String × β} {rest : Assoc β} (h : Sorted (e :: rest)) :
    rest.has e.1 = false := by
  rw [← Bool.not_eq_true]
  unfold has
  rw [List.any_eq_true]
  rintro ⟨x, hx, hk⟩
  have hlt := (List.pairwise_cons.1 h).1 x hx
  rw [beq_iff_eq.1 hk] at hlt
  exact String.lt_irrefl _ hlt

variable {m rest : Assoc β} {key : String} {value : β}

theorem apart_put (hm : m.has key = false) (hr : rest.has key = false) :
    Apart (m.put key value) rest ↔ Apart m ((key, value) :: rest) := by
  constructor
  · intro h k hk
    rw [← Bool.not_eq_true, has_cons]
    rintro (rfl | hrk)
    · exact Bool.noConfusion (hm.symm.trans hk)
    · exact Bool.noConfusion ((h k ((has_put ..).2 (.inr hk))).symm.trans hrk)
  · intro h k hk
    rcases (has_put ..).1 hk with rfl | hk
    · exact hr
    · exact Bool.eq_false_iff.2 fun hrk =>
        Bool.eq_false_iff.1 (h k hk) ((has_cons ..).2 (.inr hrk))

theorem joins_put {all : Assoc β} (hm : m.has key = false) (hr : rest.has key = false)
    (h : Joins all (m.put key value) rest) : Joins all m ((key, value) :: rest) := by
  intro k v
  rw [h k v, get?_put, get?_cons]
  by_cases hk : key = k
  · subst hk
    simp [get?_of_has m hm, get?_of_has rest hr]
  · simp [hk]

theorem apart_joins {all a b c : Assoc β} (h : Joins all a b) :
    Apart all c ↔ Apart a c ∧ Apart b c := by
  have hhas : ∀ key, all.has key = true ↔ a.has key = true ∨ b.has key = true := fun key => by
    simp only [has_eq, Option.isSome_iff_exists, h key, exists_or]
  constructor
  · exact fun hall => ⟨fun key hk => hall key ((hhas key).2 (.inl hk)),
      fun key hk => hall key ((hhas key).2 (.inr hk))⟩
  · rintro ⟨ha, hb⟩ key hk
    exact ((hhas key).1 hk).elim (ha key) (hb key)

theorem joins_trans {all both a b c : Assoc β} (hab : Joins both a b) (h : Joins all both c)
    (key : String) (value : β) : all.get? key = some value ↔
      a.get? key = some value ∨ b.get? key = some value ∨ c.get? key = some value := by
  rw [h key value, hab key value, or_assoc]

end Assoc

namespace Enforcement

open Assoc (Apart Joins Sorted)

theorem merge_spec {extra : Attributes} (he : extra.Sorted) (into : Attributes) :
    (Apart into extra ∧ ∃ all, merge into extra = (all, none) ∧ Joins all into extra ∧
      (into.Sorted → all.Sorted)) ∨
    (¬ Apart into extra ∧ ∃ all key, merge into extra = (all, some key)) := by
  induction extra generalizing into with
  | nil => exact .inl ⟨fun _ _ => rfl, into, rfl, by simp [Joins, Assoc.get?_nil], id⟩
  | cons e rest ih =>
    obtain ⟨key, value⟩ := e
    have hr : Assoc.has rest key = false := he.has_rest
    cases hk : Assoc.has into key with
    | true =>
      refine .inr ⟨fun h => ?_, into, key, by simp [merge, hk]⟩
      exact Bool.eq_false_iff.1 (h key hk) ((Assoc.has_cons ..).2 (.inl rfl))
    | false =>
      have hmerge : merge into ((key, value) :: rest) = merge (into.put key value) rest := by
        simp [merge, hk]
      -- the rest neither has the key nor sees it as one that was there before
      rw [hmerge, ← Assoc.apart_put hk hr]
      rcases ih (List.pairwise_cons.1 he).2 (into.put key value) with ⟨ha, all, hm, hj, hs⟩ | h
      · exact .inl ⟨ha, all, hm, Assoc.joins_put hk hr hj, fun hi => hs (hi.put key value)⟩
      · exact .inr h

theorem addContext_ok_iff (origin : String) {into extra : Attributes} (hi : into.Sorted)
    (he : extra.Sorted) (all : Attributes) :
    addContext origin into extra = .ok all ↔
      Apart into extra ∧ all.Sorted ∧ Joins all into extra := by
  unfold addContext
  rcases merge_spec he into with ⟨ha, all', hm, hj, hs⟩ | ⟨hna, all', key, hm⟩
  · rw [hm]
    constructor
    · rintro ⟨⟩
      exact ⟨ha, hs hi, hj⟩
    · rintro ⟨-, hall, hj'⟩
      -- sorted maps with the same bindings are the same map
      have hsame : all' = all := (hs hi).eq_of_get? hall fun k =>
        Option.ext fun v => (hj k v).trans (hj' k v).symm
      rw [hsame]
  · rw [hm]
    constructor
    · intro h
      cases h
    · rintro ⟨ha, -⟩
      exact absurd ha hna

/-! ## Complete requests -/

def Missing (field : Option String) : Prop := field = none ∨ field = some ""

theorem present_of_missing {field : Option String} (h : Missing field) : present field = none := by
  rcases h with rfl | rfl <;> rfl

theorem present_eq_some {field : Option String} {text : String} :
    present field = some text ↔ field = some text ∧ text ≠ "" := by
  unfold present
  rw [Option.filter_eq_some_iff]
  simp

theorem present_of_not_missing {field : Option String} (h : ¬ Missing field) :
    ∃ text, present field = some text := by
  cases field with
  | none => exact absurd (.inl rfl) h
  | some text => exact ⟨text, present_eq_some.2 ⟨rfl, fun ht => h (.inr (congrArg some ht))⟩⟩

theorem required_ok_iff {scope : Scope} {subject action resource : String} :
    required scope = .ok (subject, action, resource) ↔
      present scope.action = some action ∧ present scope.subject = some subject ∧
        present scope.resource = some resource := by
  unfold required
  cases present scope.action <;> cases present scope.subject <;> cases present scope.resource <;>
    simp [pure, Except.pure, and_left_comm]

theorem required_action {scope : Scope} (h : Missing scope.action) :
    required scope = .error (.permissionDenied "No action defined") := by
  unfold required
  rw [present_of_missing h]

theorem required_subject {scope : Scope} (ha : ¬ Missing scope.action)
    (h : Missing scope.subject) :
    required scope = .error (.permissionDenied "No subject defined") := by
  obtain ⟨action, ha⟩ := present_of_not_missing ha
  unfold required
  rw [ha, present_of_missing h]

theorem required_resource {scope : Scope} (ha : ¬ Missing scope.action)
    (hs : ¬ Missing scope.subject) (h : Missing scope.resource) :
    required scope = .error (.permissionDenied "No resource defined") := by
  obtain ⟨action, ha⟩ := present_of_not_missing ha
  obtain ⟨subject, hs⟩ := present_of_not_missing hs
  unfold required
  rw [ha, hs, present_of_missing h]

theorem required_refuses {scope : Scope} {failure : Failure} (h : required scope = .error failure) :
    ∃ reason, failure = .permissionDenied reason := by
  by_cases ha : Missing scope.action
  · exact ⟨_, (Except.error.inj ((required_action ha).symm.trans h)).symm⟩
  by_cases hs : Missing scope.subject
  · exact ⟨_, (Except.error.inj ((required_subject ha hs).symm.trans h)).symm⟩
  by_cases hr : Missing scope.resource
  · exact ⟨_, (Except.error.inj ((required_resource ha hs hr).symm.trans h)).symm⟩
  obtain ⟨action, ha⟩ := present_of_not_missing ha
  obtain ⟨subject, hs⟩ := present_of_not_missing hs
  obtain ⟨resource, hr⟩ := present_of_not_missing hr
  rw [required_ok_iff.2 ⟨ha, hs, hr⟩] at h
  cases h

/-! ## Runs -/

theorem closed_refuses (failure : Failure) :
    ∃ reason, closed failure = .permissionDenied reason := by
  unfold closed
  cases failure <;> exact ⟨_, rfl⟩

variable {σ : Type}

/-- What a point tells of an entity; without one there is nothing to tell. -/
def told (point : Option (InfoPoint (StateM σ))) (name : String) : StateM σ (Answer Attributes) :=
  match point with
  | none => return .ok []
  | some point => point name

/-- What the point tells are attributes in the order of their names. -/
def Orderly (point : InfoPoint (StateM σ)) : Prop :=
  ∀ name world attributes world', (point name).run world = (.ok attributes, world') →
    attributes.Sorted

theorem informed_run (point : Option (InfoPoint (StateM σ))) (origin name : String)
    (context : Attributes) (world : σ) :
    (informed point origin name context).run world =
      (((told point name).run world).1.bind (addContext origin context),
        ((told point name).run world).2) := by
  cases point with
  | none => rfl
  | some point => rfl

theorem told_sorted {point : Option (InfoPoint (StateM σ))} (h : ∀ p ∈ point, Orderly p)
    {name : String} {world world' : σ} {attributes : Attributes}
    (ht : (told point name).run world = (.ok attributes, world')) : attributes.Sorted := by
  cases point with
  | none =>
    cases ht
    exact Assoc.Sorted.nil
  | some point => exact h point rfl name world attributes world' ht

/-- A request is put together: the scope is complete, the points are asked one after the other, and
what the scope has and what they tell share no key. -/
structure Gathered (subjectInfo resourceInfo : Option (InfoPoint (StateM σ))) (scope : Scope)
    (world : σ) (request : AccessRequest) (world' : σ) : Prop where
  action : scope.action = some request.action ∧ request.action ≠ ""
  subject : scope.subject = some request.subject ∧ request.subject ≠ ""
  resource : scope.resource = some request.resource ∧ request.resource ≠ ""
  context : ∃ ofSubject ofResource asked,
    (told subjectInfo request.subject).run world = (.ok ofSubject, asked) ∧
    (told resourceInfo request.resource).run asked = (.ok ofResource, world') ∧
    Apart scope.context ofSubject ∧ Apart scope.context ofResource ∧ Apart ofSubject ofResource ∧
    request.context.Sorted ∧ ∀ key value, request.context.get? key = some value ↔
      scope.context.get? key = some value ∨ ofSubject.get? key = some value ∨
        ofResource.get? key = some value

/-- The request is put together, and the decision on it is to allow. -/
def Granted (decide : AccessRequest → StateM σ (Answer Decision))
    (subjectInfo resourceInfo : Option (InfoPoint (StateM σ))) (scope : Scope) (world : σ) : Prop :=
  ∃ request world', Gathered subjectInfo resourceInfo scope world request world' ∧
    ((decide request).run world').1 = .ok .allow

/-- Enforcement of what `decide` decides grants what is to be granted and refuses all else, an
incomplete request at once; and no enforcer can get more past the point than refusals. -/
structure FailsClosed (decide : AccessRequest → StateM σ (Answer Decision))
    (subjectInfo resourceInfo : Option (InfoPoint (StateM σ))) (scope : Scope) (world : σ) :
    Prop where
  grants : ((point (byDecision decide subjectInfo resourceInfo) scope).run world).1 = .ok () ↔
    Granted decide subjectInfo resourceInfo scope world
  refuses : ¬ Granted decide subjectInfo resourceInfo scope world → ∃ reason,
    ((point (byDecision decide subjectInfo resourceInfo) scope).run world).1 =
      .error (.permissionDenied reason)
  /-- No effect precedes the refusal, whatever the enforcer and its effects. -/
  incomplete : ∀ {m : Type → Type} [Monad m] (inner : Enforcer m),
    (Missing scope.action →
      point inner scope = pure (.error (.permissionDenied "No action defined"))) ∧
    (¬ Missing scope.action → Missing scope.subject →
      point inner scope = pure (.error (.permissionDenied "No subject defined"))) ∧
    (¬ Missing scope.action → ¬ Missing scope.subject → Missing scope.resource →
      point inner scope = pure (.error (.permissionDenied "No resource defined")))
  closes : ∀ inner : Enforcer (StateM σ), ((point inner scope).run world).1 = .ok () ∨
    ∃ reason, ((point inner scope).run world).1 = .error (.permissionDenied reason)

theorem gather_run (subjectInfo resourceInfo : Option (InfoPoint (StateM σ))) (scope : Scope)
    (world : σ) :
    (gather subjectInfo resourceInfo scope).run world =
      match required scope with
      | .error failure => (.error failure, world)
      | .ok (subject, action, resource) =>
        match (informed subjectInfo "subject" subject scope.context).run world with
        | (.error failure, asked) => (.error failure, asked)
        | (.ok context, asked) =>
          match (informed resourceInfo "resource" resource context).run asked with
          | (.error failure, world') => (.error failure, world')
          | (.ok all, world') => (.ok ⟨subject, action, resource, all⟩, world') := by
  unfold gather
  cases required scope with
  | error failure => rfl
  | ok fields =>
    obtain ⟨subject, action, resource⟩ := fields
    show StateT.run (_ >>= _) world = _
    rw [StateT.run_bind]
    rcases hs : (informed subjectInfo "subject" subject scope.context).run world with
      ⟨failure | context, asked⟩ <;> simp only [hs]
    · rfl
    · show StateT.run (_ >>= _) asked = _
      rw [StateT.run_bind]
      rcases (informed resourceInfo "resource" resource context).run asked with
        ⟨failure | all, world'⟩ <;> rfl

theorem point_run (inner : Enforcer (StateM σ)) (scope : Scope) (world : σ) :
    (point inner scope).run world =
      match required scope with
      | .error failure => (.error failure, world)
      | .ok _ => (((inner scope).run world).1.mapError closed, ((inner scope).run world).2) := by
  unfold point
  cases required scope <;> rfl

theorem byDecision_run (decide : AccessRequest → StateM σ (Answer Decision))
    (subjectInfo resourceInfo : Option (InfoPoint (StateM σ))) (scope : Scope) (world : σ) :
    (byDecision decide subjectInfo resourceInfo scope).run world =
      match (gather subjectInfo resourceInfo scope).run world with
      | (.error failure, world') => (.error (closed failure), world')
      | (.ok request, world') =>
        (ofDecision ((decide request).run world').1, ((decide request).run world').2) := by
  unfold byDecision
  rw [StateT.run_bind]
  rcases (gather subjectInfo resourceInfo scope).run world with ⟨failure | request, world'⟩ <;> rfl

theorem ofDecision_ok_iff {answer : Answer Decision} :
    ofDecision answer = .ok () ↔ answer = .ok .allow := by
  rcases answer with failure | decision | reason <;> simp [ofDecision]

/-- What a point tells is added if it tells anything at all and nothing that is known already. -/
theorem informed_ok_iff {point : Option (InfoPoint (StateM σ))} (hp : ∀ p ∈ point, Orderly p)
    (origin : String) {name : String} {context all : Attributes} (hc : context.Sorted)
    {world world' : σ} :
    (informed point origin name context).run world = (.ok all, world') ↔
      ∃ extra, (told point name).run world = (.ok extra, world') ∧ Apart context extra ∧
        all.Sorted ∧ Joins all context extra := by
  rw [informed_run]
  rcases ht : (told point name).run world with ⟨failure | extra, told'⟩
  · constructor
    · intro h
      cases h
    · rintro ⟨extra, h, -⟩
      cases h
  · show (addContext origin context extra, told') = _ ↔ _
    have hadd := addContext_ok_iff origin hc (told_sorted hp ht) all
    constructor
    · intro h
      obtain ⟨hall, rfl⟩ := Prod.mk.inj h
      exact ⟨extra, rfl, hadd.1 hall⟩
    · rintro ⟨extra', h, hall⟩
      cases h
      rw [hadd.2 hall]

section Points

variable {subjectInfo resourceInfo : Option (InfoPoint (StateM σ))}
  (hs : ∀ p ∈ subjectInfo, Orderly p) (hr : ∀ p ∈ resourceInfo, Orderly p)
  {scope : Scope} (hc : scope.context.Sorted)

include hs hr hc

theorem gather_ok_iff {world world' : σ} {request : AccessRequest} :
    (gather subjectInfo resourceInfo scope).run world = (.ok request, world') ↔
      Gathered subjectInfo resourceInfo scope world request world' := by
  rw [gather_run]
  constructor
  · intro h
    rcases hreq : required scope with failure | ⟨subject, action, resource⟩ <;>
      simp only [hreq] at h
    · cases h
    obtain ⟨ha, hsu, hre⟩ := required_ok_iff.1 hreq
    rcases hsi : (informed subjectInfo "subject" subject scope.context).run world with
      ⟨failure | context, asked⟩ <;> simp only [hsi] at h
    · cases h
    rcases hri : (informed resourceInfo "resource" resource context).run asked with
      ⟨failure | all, after⟩ <;> simp only [hri] at h
    · cases h
    cases h
    obtain ⟨ofSubject, hts, has, hsorted, hjs⟩ := (informed_ok_iff hs _ hc).1 hsi
    obtain ⟨ofResource, htr, har, hall, hjr⟩ := (informed_ok_iff hr _ hsorted).1 hri
    obtain ⟨har, hsr⟩ := (Assoc.apart_joins hjs).1 har
    exact ⟨present_eq_some.1 ha, present_eq_some.1 hsu, present_eq_some.1 hre,
      ofSubject, ofResource, asked, hts, htr, has, har, hsr, hall, Assoc.joins_trans hjs hjr⟩
  · rintro ⟨ha, hsu, hre, ofSubject, ofResource, asked, hts, htr, has, har, hsr, hall, hjoin⟩
    -- what the subject's point tells is known to be there before the resource's is added
    rcases merge_spec (told_sorted hs hts) scope.context with ⟨-, both, -, hjs, hsorted⟩ | ⟨hna, -⟩
    · have hjr : Joins request.context both ofResource := fun key value => by
        rw [hjoin, ← or_assoc, ← hjs key value]
      rw [required_ok_iff.2 ⟨present_eq_some.2 ha, present_eq_some.2 hsu, present_eq_some.2 hre⟩]
      have hsi := (informed_ok_iff hs "subject" hc).2
        ⟨ofSubject, hts, has, hsorted hc, hjs⟩
      have hri := (informed_ok_iff hr "resource" (hsorted hc)).2
        ⟨ofResource, htr, (Assoc.apart_joins hjs).2 ⟨har, hsr⟩, hall, hjr⟩
      simp only [hsi, hri]
    · exact absurd has hna

theorem enforce_ok_iff (decide : AccessRequest → StateM σ (Answer Decision)) (world : σ) :
    ((point (byDecision decide subjectInfo resourceInfo) scope).run world).1 = .ok () ↔
      Granted decide subjectInfo resourceInfo scope world := by
  rw [point_run]
  constructor
  · intro h
    cases hreq : required scope with
    | error failure =>
      rw [hreq] at h
      cases h
    | ok fields =>
      simp only [hreq, byDecision_run] at h
      rcases hg : (gather subjectInfo resourceInfo scope).run world with
        ⟨failure | request, world'⟩ <;> simp only [hg] at h
      · cases h
      · refine ⟨request, world', (gather_ok_iff hs hr hc).1 hg, ofDecision_ok_iff.1 ?_⟩
        cases ho : ofDecision ((decide request).run world').1 with
        | ok _ => rfl
        | error failure =>
          rw [ho] at h
          cases h
  · rintro ⟨request, world', hg, hd⟩
    have hreq := required_ok_iff.2 ⟨present_eq_some.2 hg.action, present_eq_some.2 hg.subject,
      present_eq_some.2 hg.resource⟩
    simp only [hreq, byDecision_run, (gather_ok_iff hs hr hc).2 hg, ofDecision_ok_iff.2 hd]
    rfl

end Points

theorem point_closes (inner : Enforcer (StateM σ)) (scope : Scope) (world : σ) :
    ((point inner scope).run world).1 = .ok () ∨
      ∃ reason, ((point inner scope).run world).1 = .error (.permissionDenied reason) := by
  rw [point_run]
  cases hreq : required scope with
  | error failure =>
    obtain ⟨reason, rfl⟩ := required_refuses hreq
    exact .inr ⟨reason, rfl⟩
  | ok fields =>
    show ((inner scope).run world).1.mapError closed = _ ∨ _
    cases ((inner scope).run world).1 with
    | ok _ => exact .inl rfl
    | error failure =>
      obtain ⟨reason, hreason⟩ := closed_refuses failure
      exact .inr ⟨reason, congrArg _ hreason⟩

theorem point_of_required {m : Type → Type} [Monad m] (inner : Enforcer m) {scope : Scope}
    {failure : Failure} (h : required scope = .error failure) :
    point inner scope = pure (.error failure) := by
  unfold point
  rw [h]

/-- Enforcement fails closed, in every world and whatever the points and the decision answer, if
attributes come in the order of their names. -/
theorem enforcement_fails_closed (decide : AccessRequest → StateM σ (Answer Decision))
    (subjectInfo resourceInfo : Option (InfoPoint (StateM σ)))
    (hs : ∀ p ∈ subjectInfo, Orderly p) (hr : ∀ p ∈ resourceInfo, Orderly p)
    (scope : Scope) (hc : scope.context.Sorted) (world : σ) :
    FailsClosed decide subjectInfo resourceInfo scope world where
  grants := enforce_ok_iff hs hr hc decide world
  refuses h := (point_closes _ scope world).resolve_left fun hok =>
    h ((enforce_ok_iff hs hr hc decide world).1 hok)
  incomplete inner := ⟨fun ha => point_of_required inner (required_action ha),
    fun ha hs => point_of_required inner (required_subject ha hs),
    fun ha hs hr => point_of_required inner (required_resource ha hs hr)⟩
  closes inner := point_closes inner scope world

/-- Both points tell something, the world counts how often they are asked, and the decision is to
allow only after both. -/
theorem enforcement_fails_closed_counted :
    let subjectInfo : InfoPoint (StateM Nat) := fun name asked =>
      (.ok [("subject.id", .text name)], asked + 1)
    let resourceInfo : InfoPoint (StateM Nat) := fun name asked =>
      (.ok [("resource.id", .text name)], asked + 1)
    let decide : AccessRequest → StateM Nat (Answer Decision) := fun _ asked =>
      (.ok (if asked = 2 then .allow else .deny "too early"), asked)
    let scope : Scope := ⟨some "a", some "read", some "b", [("time", .null)]⟩
    FailsClosed decide (some subjectInfo) (some resourceInfo) scope 0 ∧
      ((point (byDecision decide (some subjectInfo) (some resourceInfo)) scope).run 0).1 = .ok () := by
  intro subjectInfo resourceInfo decide scope
  refine ⟨enforcement_fails_closed decide (some subjectInfo) (some resourceInfo) ?_ ?_ scope
    (List.pairwise_singleton ..) 0, rfl⟩
  all_goals
    rintro point ⟨⟩ name world attributes world' h
    cases h
    exact List.pairwise_singleton ..

end Enforcement

end AccessControl
