/-
The cache of a matcher does not show. A cache that only holds what templates compile to is sound,
and a computation on sound caches always answers the same and leaves them sound (`Computes`). Main
statements: matching computes what a template without a cache says (`matching_computes`), and so
does matching one of several (`matchingAny_computes`).
-/
import AccessControl.Matcher

namespace AccessControl

/-! ## Templates without a cache -/

namespace Template

/-- Whether the template matches the value. -/
def plain (template value : String) : Answer Bool :=
  if isLiteral template then .ok (template == value)
  else match compile template with
    | .ok r => .ok (r.occursIn value)
    | .error fault => .error fault.failure

/-- Whether one of the templates matches the value; those after the first that does are not looked
at. -/
def plainAny (templates : List String) (value : String) : Answer Bool :=
  match templates with
  | [] => .ok false
  | template :: rest => do
    if ← plain template value then return true
    else plainAny rest value

end Template

namespace Matcher

/-- Each expression in the cache is the one that its template compiles to. -/
def Sound (cache : Matcher) : Prop :=
  ∀ template r, cache.get? template = some r → Template.compile template = .ok r

/-- On every sound cache the computation gives the answer and leaves a sound cache. -/
def Computes {α : Type} (computation : Cached α) (answer : Answer α) : Prop :=
  ∀ cache : Matcher, cache.Sound →
    (run computation cache).1 = answer ∧ (run computation cache).2.Sound

variable {α β : Type}

theorem sound_nil : Sound [] := fun _ _ h => by cases h

theorem Sound.put {cache : Matcher} (h : cache.Sound) {template : String} {r : Regex}
    (hc : Template.compile template = .ok r) : Sound (cache.put template r) := by
  intro t s hs
  rw [Assoc.get?_put] at hs
  split at hs
  · rename_i ht
    rw [← ht, hc]
    cases hs
    rfl
  · exact h t s hs

/-! ## Computations -/

theorem computes_pure (a : α) : Computes (pure a) (.ok a) := fun _ h => ⟨rfl, h⟩

theorem computes_fail (failure : Failure) : Computes (fail failure : Cached α) (.error failure) :=
  fun _ h => ⟨rfl, h⟩

theorem run_bind (first : Cached α) (next : α → Cached β) (cache : Matcher) :
    run (first >>= next) cache =
      match run first cache with
      | (.ok a, cache') => run (next a) cache'
      | (.error failure, cache') => (.error failure, cache') := by
  unfold run
  rw [ExceptT.run_bind, StateT.run_bind]
  rcases h : StateT.run (ExceptT.run first) cache with ⟨_ | _, _⟩ <;> rfl

/-- One after the other, each on the cache that the one before leaves. -/
theorem Computes.bind {first : Cached α} {answer : Answer α} {next : α → Cached β}
    {answers : α → Answer β} (h : Computes first answer)
    (hn : ∀ a, answer = .ok a → Computes (next a) (answers a)) :
    Computes (first >>= next) (answer >>= answers) := by
  intro cache hs
  -- the first leaves a sound cache also when it fails
  obtain ⟨ha, hs'⟩ := h cache hs
  rw [run_bind]
  rcases hrun : run first cache with ⟨failure | a, cache'⟩ <;> rw [hrun] at ha hs'
  · subst ha
    exact ⟨rfl, hs'⟩
  · exact ha ▸ hn a ha.symm cache' hs'

/-- After any number of computations the cache is still sound. -/
theorem Sound.foldl {ι : Type} {computation : ι → Cached α} {answer : ι → Answer α}
    (h : ∀ i, Computes (computation i) (answer i)) (history : List ι) {cache : Matcher}
    (hs : cache.Sound) :
    Sound (history.foldl (fun cache i => (run (computation i) cache).2) cache) := by
  induction history generalizing cache with
  | nil => exact hs
  | cons i history ih => exact ih (h i cache hs).2

/-! ## Matching -/

theorem run_expression_kept {template : String} {cache : Matcher} {r : Regex}
    (h : cache.get? template = some r) :
    run (expression template) cache = (.ok r, cache) := by
  unfold expression
  rw [run_bind]
  show run _ cache = _
  rw [h]
  rfl

theorem run_expression_made {template : String} {cache : Matcher} {r : Regex}
    (h : cache.get? template = none) (hc : Template.compile template = .ok r) :
    run (expression template) cache = (.ok r, cache.put template r) := by
  unfold expression
  rw [run_bind]
  show run _ cache = _
  rw [h, hc]
  rfl

theorem run_expression_fault {template : String} {cache : Matcher} {fault : Template.Fault}
    (h : cache.get? template = none) (hc : Template.compile template = .error fault) :
    run (expression template) cache = (.error fault.failure, cache) := by
  unfold expression
  rw [run_bind]
  show run _ cache = _
  rw [h, hc]
  rfl

/-- The expression comes from the cache only if it was made from the template before. -/
theorem expression_computes (template : String) :
    Computes (expression template)
      ((Template.compile template).mapError Template.Fault.failure) := by
  intro cache hs
  cases hg : cache.get? template with
  | some r =>
    rw [run_expression_kept hg, hs template r hg]
    exact ⟨rfl, hs⟩
  | none =>
    cases hc : Template.compile template with
    | ok r =>
      rw [run_expression_made hg hc]
      exact ⟨rfl, hs.put hc⟩
    | error fault =>
      rw [run_expression_fault hg hc]
      exact ⟨rfl, hs⟩

theorem matching_computes (template value : String) :
    Computes (matching template value) (Template.plain template value) := by
  unfold matching Template.plain
  split
  · exact computes_pure _
  · have h : Computes (expression template >>= fun r => pure (r.occursIn value)) _ :=
      (expression_computes template).bind fun r _ => computes_pure (r.occursIn value)
    cases hc : Template.compile template <;> rw [hc] at h <;> exact h

theorem matchingAny_computes (templates : List String) (value : String) :
    Computes (matchingAny templates value) (Template.plainAny templates value) := by
  induction templates with
  | nil => exact computes_pure false
  | cons template rest ih =>
    refine (matching_computes template value).bind fun matched _ => ?_
    cases matched with
    | true => exact computes_pure true
    | false => exact ih

end Matcher

end AccessControl
