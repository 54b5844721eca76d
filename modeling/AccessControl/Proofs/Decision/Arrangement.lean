/-
Templates of a policy in another order. Templates are looked at up to the first that matches, so
that a malformed one only counts if none before it matches. Main statement: when the templates of
policies are rearranged, two decisions are the same decision; and where no list has a template that
matches beside one that is malformed, the same requests are decided and the same are granted
(`decided_rearranged`). A list that has both decides by its order (`granted_by_position`).
-/
import AccessControl.Proofs.Decision
import Mathlib.Data.List.Forall2

namespace AccessControl

/-! ## Answers compared -/

/-- Two values are the same; and if the answers have to be as `exact` as that, there is a value on
both sides or on none. Failures may differ. -/
structure Answer.Agree {α : Type} (exact : Prop) (first second : Answer α) : Prop where
  same : ∀ a b, first = .ok a → second = .ok b → a = b
  both : exact → ∀ a, first = .ok a ↔ second = .ok a

namespace Answer.Agree

variable {α β : Type} {exact : Prop} {first second : Answer α} {next next' : α → Answer β}

theorem refl (exact : Prop) (answer : Answer α) : Agree exact answer answer :=
  ⟨fun _ _ ha hb => Except.ok.inj (ha.symm.trans hb), fun _ _ => Iff.rfl⟩

theorem mono {exact' : Prop} (h : Agree exact first second) (himp : exact' → exact) :
    Agree exact' first second := ⟨h.same, fun hexact => h.both (himp hexact)⟩

theorem bind (h : Agree exact first second) (hnext : ∀ a, Agree exact (next a) (next' a)) :
    Agree exact (first >>= next) (second >>= next') := by
  constructor
  · intro b b' hb hb'
    obtain ⟨a, ha, hb⟩ := bind_ok_iff.1 hb
    obtain ⟨a', ha', hb'⟩ := bind_ok_iff.1 hb'
    obtain rfl := h.same a a' ha ha'
    exact (hnext a).same b b' hb hb'
  · intro hexact b
    rw [bind_ok_iff, bind_ok_iff]
    constructor
    · rintro ⟨a, ha, hb⟩
      exact ⟨a, (h.both hexact a).1 ha, ((hnext a).both hexact b).1 hb⟩
    · rintro ⟨a, ha, hb⟩
      exact ⟨a, (h.both hexact a).2 ha, ((hnext a).both hexact b).2 hb⟩

end Answer.Agree

/-! ## Templates -/

namespace Template

open Answer

variable {templates templates' : List String} {value : String}

/-- A template that is text, or that makes an expression. -/
def WellFormed (template : String) : Prop :=
  isLiteral template = true ∨ ∃ r, compile template = .ok r

theorem wellFormed_iff (template value : String) :
    WellFormed template ↔ ∃ matched, plain template value = .ok matched := by
  unfold WellFormed plain
  cases isLiteral template with
  | true => simp
  | false => cases compile template <;> simp

/-- No template is malformed, or none matches the value. -/
def Clear (templates : List String) (value : String) : Prop :=
  (∃ template ∈ templates, plain template value = .ok true) →
    ∀ template ∈ templates, WellFormed template

theorem plainAny_cons (template : String) (rest : List String) (value : String) :
    plainAny (template :: rest) value =
      plain template value >>= fun matched => if matched then .ok true else plainAny rest value :=
  rfl

/-- Nothing matches if all templates are looked at and none does. -/
theorem plainAny_false_iff : plainAny templates value = .ok false ↔
    ∀ template ∈ templates, plain template value = .ok false := by
  induction templates with
  | nil => simp [plainAny]
  | cons template rest ih =>
    rw [plainAny_cons, bind_ok_iff, List.forall_mem_cons, ← ih]
    constructor
    · rintro ⟨matched, hm, h⟩
      cases matched with
      | true => cases h
      | false => exact ⟨hm, h⟩
    · rintro ⟨hm, h⟩
      exact ⟨false, hm, h⟩

theorem matches_of_plainAny (h : plainAny templates value = .ok true) :
    ∃ template ∈ templates, plain template value = .ok true := by
  induction templates with
  | nil => cases h
  | cons template rest ih =>
    rw [plainAny_cons, bind_ok_iff] at h
    obtain ⟨matched, hm, h⟩ := h
    cases matched with
    | true => exact ⟨template, List.mem_cons_self, hm⟩
    | false =>
      obtain ⟨t, ht, hmatch⟩ := ih h
      exact ⟨t, List.mem_cons_of_mem _ ht, hmatch⟩

/-- With well-formed templates only, one that matches is found wherever it stands. -/
theorem plainAny_of_wellFormed (hwell : ∀ template ∈ templates, WellFormed template)
    (h : ∃ template ∈ templates, plain template value = .ok true) :
    plainAny templates value = .ok true := by
  induction templates with
  | nil => simp at h
  | cons template rest ih =>
    obtain ⟨hfirst, hrest⟩ := List.forall_mem_cons.1 hwell
    obtain ⟨matched, hm⟩ := (wellFormed_iff template value).1 hfirst
    rw [plainAny_cons, hm]
    cases matched with
    | true => rfl
    | false =>
      apply ih hrest
      obtain ⟨t, ht, hmatch⟩ := h
      rcases List.mem_cons.1 ht with rfl | ht
      · rw [hm] at hmatch
        cases hmatch
      · exact ⟨t, ht, hmatch⟩

theorem plainAny_true_iff (hclear : Clear templates value) : plainAny templates value = .ok true ↔
    ∃ template ∈ templates, plain template value = .ok true :=
  ⟨matches_of_plainAny, fun h => plainAny_of_wellFormed (hclear h) h⟩

theorem Clear.perm (hclear : Clear templates value) (h : templates.Perm templates') :
    Clear templates' value := by
  unfold Clear at hclear ⊢
  simpa only [h.mem_iff] using hclear

/-- In another order a match is never told to be none, since that would take all templates not to
match. -/
theorem plainAny_agree (h : templates.Perm templates') (value : String) :
    Agree (Clear templates value) (plainAny templates value) (plainAny templates' value) := by
  have hcross {ts ts' : List String} (h : ts.Perm ts') (htrue : plainAny ts value = .ok true)
      (hfalse : plainAny ts' value = .ok false) : False := by
    obtain ⟨t, ht, hmatch⟩ := matches_of_plainAny htrue
    rw [plainAny_false_iff.1 hfalse t (h.mem_iff.1 ht)] at hmatch
    cases hmatch
  constructor
  · intro a b ha hb
    cases a <;> cases b
    · rfl
    · exact (hcross h.symm hb ha).elim
    · exact (hcross h ha hb).elim
    · rfl
  · intro hclear matched
    cases matched with
    | true =>
      rw [plainAny_true_iff hclear, plainAny_true_iff (hclear.perm h)]
      simp only [h.mem_iff]
    | false =>
      rw [plainAny_false_iff, plainAny_false_iff]
      simp only [h.mem_iff]

/-- A list with a template that matches and a malformed one matches in one order and fails in
another. -/
theorem orders_of_not_clear (h : ¬ Clear templates value) :
    ∃ first second, templates.Perm first ∧ templates.Perm second ∧
      plainAny first value = .ok true ∧ ∃ failure, plainAny second value = .error failure := by
  obtain ⟨⟨good, hgood, hmatch⟩, hnot⟩ := Classical.not_imp.1 h
  obtain ⟨bad, hbad⟩ := Classical.not_forall.1 hnot
  obtain ⟨hbad, hmalformed⟩ := Classical.not_imp.1 hbad
  refine ⟨good :: templates.erase good, bad :: templates.erase bad,
    List.perm_cons_erase hgood, List.perm_cons_erase hbad, ?_, ?_⟩
  · rw [plainAny_cons, hmatch]
    rfl
  · rw [wellFormed_iff bad value] at hmalformed
    cases hb : plain bad value with
    | ok matched => exact absurd ⟨matched, hb⟩ hmalformed
    | error failure =>
      rw [plainAny_cons, hb]
      exact ⟨failure, rfl⟩

end Template

/-! ## Policies -/

/-- The same policy, but for the order of the templates in each of its lists. -/
structure Policy.Rearranged (policy other : Policy) : Prop where
  subjects : policy.subjects.Perm other.subjects
  actions : policy.actions.Perm other.actions
  resources : policy.resources.Perm other.resources
  rest : other = { policy with
    subjects := other.subjects, actions := other.actions, resources := other.resources }

/-- No list of the policy has a malformed template beside one that matches. -/
structure Policy.Clear (policy : Policy) (request : AccessRequest) : Prop where
  subjects : Template.Clear policy.subjects request.subject
  actions : Template.Clear policy.actions request.action
  resources : Template.Clear policy.resources request.resource

namespace Decision

open Answer Template

variable {policies policies' : List Policy} {policy other : Policy} {request : AccessRequest}

theorem applicable_agree (h : policy.Rearranged other) (request : AccessRequest) :
    Agree (policy.Clear request) (applicable policy request) (applicable other request) := by
  have hconditions : other.conditions = policy.conditions := by rw [h.rest]
  unfold applicable
  rw [hconditions]
  refine ((plainAny_agree h.actions _).mono Policy.Clear.actions).bind fun action => ?_
  cases action with
  | false => exact .refl _ _
  | true =>
    refine ((plainAny_agree h.subjects _).mono Policy.Clear.subjects).bind fun subject => ?_
    cases subject with
    | false => exact .refl _ _
    | true =>
      refine ((plainAny_agree h.resources _).mono Policy.Clear.resources).bind fun resource => ?_
      cases resource <;> exact .refl _ _

/-- Policies are decided on in the same order, each as it is found to apply. -/
theorem overriding_agree (h : List.Forall₂ Policy.Rearranged policies policies') (allowed : Bool) :
    Agree (∀ policy ∈ policies, policy.Clear request)
      (overriding (applicable · request) allowed policies)
      (overriding (applicable · request) allowed policies') := by
  induction h generalizing allowed with
  | nil => exact .refl _ _
  | @cons policy other rest rest' hpolicy hrest ih =>
    have heffect : other.effect = policy.effect := by rw [hpolicy.rest]
    have hid : other.id = policy.id := by rw [hpolicy.rest]
    have hrest (allowed : Bool) : Agree (∀ p ∈ policy :: rest, p.Clear request) _ _ :=
      (ih allowed).mono fun hclear => (List.forall_mem_cons.1 hclear).2
    refine ((applicable_agree hpolicy request).mono fun hclear =>
      hclear policy List.mem_cons_self).bind fun applied => ?_
    cases applied with
    | false => exact hrest allowed
    | true =>
      rw [heffect]
      cases policy.effect with
      | deny =>
        rw [if_pos rfl, if_pos rfl, deniedBy_inj.2 hid]
        exact .refl _ _
      | allow => exact hrest true

/-- When the templates in the lists of policies are rearranged, a decision does not become another
one. It may become a failure, or come from one, but not if no list has a malformed template beside
one that matches; a list that has both matches in one order and fails in another. -/
theorem decided_rearranged (history history' : List (List Policy × AccessRequest))
    (request : AccessRequest) {policies policies' : List Policy}
    (h : List.Forall₂ Policy.Rearranged policies policies') :
    (∀ decision decision', decided history request policies = .ok decision →
      decided history' request policies' = .ok decision' → decision = decision') ∧
    ((∀ policy ∈ policies, policy.Clear request) →
      (decided history request policies = .ok allow ↔
        decided history' request policies' = .ok allow) ∧
      ∀ decision, decided history request policies = .ok decision ↔
        decided history' request policies' = .ok decision) ∧
    ∀ templates value, ¬ Clear templates value →
      ∃ first second, templates.Perm first ∧ templates.Perm second ∧
        (Matcher.run (Matcher.matchingAny first value) (cached history)).1 = .ok true ∧
        ∃ failure, (Matcher.run (Matcher.matchingAny second value) (cached history)).1 =
          .error failure := by
  have hagree : Agree (∀ policy ∈ policies, policy.Clear request)
      (decided history request policies) (decided history' request policies') := by
    rw [decided_eq, decided_eq, checked_eq, checked_eq]
    exact overriding_agree h false
  have hplain (templates : List String) (value : String) :
      (Matcher.run (Matcher.matchingAny templates value) (cached history)).1 =
        plainAny templates value :=
    (Matcher.matchingAny_computes templates value _ (cached_sound history)).1
  refine ⟨hagree.same, fun hclear => ⟨hagree.both hclear allow, hagree.both hclear⟩, ?_⟩
  intro templates value hnot
  simp only [hplain]
  exact orders_of_not_clear hnot

/-- A policy that allows subjects to read the document. -/
def readers (subjects : List String) : Policy :=
  { Policy.ofEffect .allow with subjects, actions := ["read"], resources := ["doc"] }

/-- A request to read the document. -/
def reading (subject : String) : AccessRequest := ⟨subject, "read", "doc", []⟩

theorem readers_rearranged {subjects other : List String} (h : subjects.Perm other) :
    (readers subjects).Rearranged (readers other) := ⟨h, .refl _, .refl _, rfl⟩

/-- The order of well-formed templates does not matter. -/
theorem decided_rearranged_digits :
    List.Forall₂ Policy.Rearranged [readers ["root", "user/<[0-9]+>"]]
        [readers ["user/<[0-9]+>", "root"]] ∧
      (∀ policy ∈ [readers ["root", "user/<[0-9]+>"]], policy.Clear (reading "root")) ∧
      decided [] (reading "root") [readers ["user/<[0-9]+>", "root"]] = .ok allow := by
  have h : List.Forall₂ Policy.Rearranged [readers ["root", "user/<[0-9]+>"]]
      [readers ["user/<[0-9]+>", "root"]] :=
    .cons (readers_rearranged (.swap _ _ [])) .nil
  have hclear : ∀ policy ∈ [readers ["root", "user/<[0-9]+>"]], policy.Clear (reading "root") := by
    intro policy hpolicy
    obtain rfl := List.mem_singleton.1 hpolicy
    have hsubjects : ∀ t ∈ ["root", "user/<[0-9]+>"], WellFormed t := by
      intro t ht
      rcases List.mem_pair.1 ht with rfl | rfl
      · exact .inl (by decide)
      · exact (wellFormed_iff _ "root").2 ⟨false, by decide +kernel⟩
    have hliteral (text : String) (h : isLiteral text = true) : ∀ t ∈ [text], WellFormed t := by
      intro t ht
      obtain rfl := List.mem_singleton.1 ht
      exact .inl h
    exact ⟨fun _ => hsubjects, fun _ => hliteral "read" (by decide),
      fun _ => hliteral "doc" (by decide)⟩
  exact ⟨h, hclear,
    ((decided_rearranged [] [] (reading "root") h).2.1 hclear).1.1 (by decide +kernel)⟩

/-- A malformed template is not looked at behind one that matches. -/
theorem granted_by_position :
    (readers ["ada", "<(>"]).Rearranged (readers ["<(>", "ada"]) ∧
      decided [] (reading "ada") [readers ["ada", "<(>"]] = .ok allow ∧
      decided [] (reading "ada") [readers ["<(>", "ada"]] =
        .error (Fault.expression "<(>").failure :=
  ⟨readers_rearranged (.swap _ _ []), by decide +kernel, by decide +kernel⟩

end Decision

end AccessControl
