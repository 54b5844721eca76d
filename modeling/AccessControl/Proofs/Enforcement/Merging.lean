/-
Attributes are put together without overwriting any. Main statement: merging succeeds exactly when
no key is on both sides, and then gives the union; otherwise it stops before the smallest key that
was there already, with the bindings of smaller keys added; and the order in which two sources are
merged makes no difference to a success (`merge_never_overwrites`).
-/
import AccessControl.Proofs.Enforcement
import Mathlib.Order.Bounds.Defs

namespace AccessControl

namespace Assoc

variable {β : Type}

theorem Apart.symm {a b : Assoc β} (h : Apart a b) : Apart b a := fun key hb =>
  Bool.eq_false_iff.2 fun ha => Bool.noConfusion (hb.symm.trans (h key ha))

theorem apart_comm {a b : Assoc β} : Apart a b ↔ Apart b a := ⟨Apart.symm, Apart.symm⟩

theorem Sorted.rest {e : String × β} {m : Assoc β} (h : Sorted (e :: m)) : m.Sorted :=
  (List.pairwise_cons.1 h).2

/-- The first key of a sorted map is its smallest. -/
theorem Sorted.le_of_has {e : String × β} {m : Assoc β} (h : Sorted (e :: m)) {key : String}
    (hkey : has (e :: m) key = true) : e.1 ≤ key := by
  rcases (has_cons ..).1 hkey with rfl | hkey
  · exact le_refl _
  · unfold has at hkey
    obtain ⟨x, hx, hxkey⟩ := List.any_eq_true.1 hkey
    rw [← beq_iff_eq.1 hxkey]
    exact le_of_lt ((List.pairwise_cons.1 h).1 x hx)

end Assoc

namespace Enforcement

open Assoc (Apart Joins Sorted)

variable {into extra other all : Attributes} {key origin : String}

/-! ## One source -/

theorem merge_cons_of_has {value : Json} {rest : Attributes} (h : into.has key = true) :
    merge into ((key, value) :: rest) = (into, some key) := by
  rw [merge, if_pos h]

theorem merge_cons_of_not_has {value : Json} {rest : Attributes} (h : into.has key = false) :
    merge into ((key, value) :: rest) = merge (into.put key value) rest := by
  rw [merge, if_neg (by simp [h])]

theorem sorted_merge (h : into.Sorted) : (merge into extra).1.Sorted := by
  induction extra generalizing into with
  | nil => exact h
  | cons e rest ih =>
    obtain ⟨k, value⟩ := e
    cases hk : into.has k with
    | true =>
      rw [merge_cons_of_has hk]
      exact h
    | false =>
      rw [merge_cons_of_not_has hk]
      exact ih (h.put k value)

/-- The keys of both maps. -/
def shared (into extra : Attributes) : Set String :=
  {key | into.has key = true ∧ extra.has key = true}

/-- `all` has the bindings of `into`, and those of `extra` whose keys are smaller than `key`. -/
def JoinsBelow (key : String) (all into extra : Attributes) : Prop :=
  ∀ k value, all.get? k = some value ↔
    into.get? k = some value ∨ k < key ∧ extra.get? k = some value

/-- Merging stops at the smallest key that was there before, and not at one that it has added. -/
theorem merge_stopped (he : extra.Sorted) (h : merge into extra = (all, some key)) :
    IsLeast (shared into extra) key ∧ JoinsBelow key all into extra := by
  induction extra generalizing into with
  | nil => cases h
  | cons e rest ih =>
    obtain ⟨first, value⟩ := e
    cases hfirst : into.has first with
    | true =>
      rw [merge_cons_of_has hfirst] at h
      cases h
      refine ⟨⟨⟨hfirst, (Assoc.has_cons ..).2 (.inl rfl)⟩, fun k hk => he.le_of_has hk.2⟩, ?_⟩
      intro k v
      refine ⟨.inl, fun hkv => hkv.elim id fun ⟨hlt, hget⟩ => ?_⟩
      -- a binding of the rest has a key that is not smaller than the first
      have hhas : Assoc.has ((key, value) :: rest) k = true := by rw [Assoc.has_eq, hget]; rfl
      exact absurd hlt (not_lt_of_ge (he.le_of_has hhas))
    | false =>
      rw [merge_cons_of_not_has hfirst] at h
      obtain ⟨⟨⟨hinto, hrest⟩, hleast⟩, hjoins⟩ := ih he.rest h
      -- the first key is there by now, but it is not what merging the rest stops at
      have hsmaller : first < key := by
        refine lt_of_le_of_ne (he.le_of_has ((Assoc.has_cons ..).2 (.inr hrest))) ?_
        rintro rfl
        exact Bool.noConfusion (hrest.symm.trans he.has_rest)
      have hkey : into.has key = true :=
        ((Assoc.has_put ..).1 hinto).resolve_left (ne_of_lt hsmaller)
      refine ⟨⟨⟨hkey, (Assoc.has_cons ..).2 (.inr hrest)⟩, fun k hk => ?_⟩, fun k v => ?_⟩
      · rcases (Assoc.has_cons ..).1 hk.2 with rfl | hk'
        · exact Bool.noConfusion (hfirst.symm.trans hk.1)
        · exact hleast ⟨(Assoc.has_put ..).2 (.inr hk.1), hk'⟩
      · rw [hjoins k v, Assoc.get?_put, Assoc.get?_cons]
        by_cases hk : first = k
        · subst hk
          simp [Assoc.get?_of_has into hfirst, Assoc.get?_of_has rest he.has_rest, hsmaller]
        · simp [hk]

/-- What comes of merging attributes from a source: the result for the caller, and the attributes
that there are then in any case. -/
structure Merged (origin : String) (into extra : Attributes) : Prop where
  succeeds : (∃ all, addContext origin into extra = .ok all) ↔ Apart into extra
  union : ∀ all, addContext origin into extra = .ok all →
    merge into extra = (all, none) ∧ all.Sorted ∧ Joins all into extra
  stopped : ∀ failure, addContext origin into extra = .error failure →
    ∃ key all, failure = duplicate origin key ∧ merge into extra = (all, some key) ∧ all.Sorted ∧
      IsLeast (shared into extra) key ∧ JoinsBelow key all into extra

theorem merged (origin : String) (hi : into.Sorted) (he : extra.Sorted) :
    Merged origin into extra := by
  have hsorted : (merge into extra).1.Sorted := sorted_merge hi
  rcases merge_spec he into with ⟨hapart, all, hmerge, hjoins, -⟩ | ⟨hapart, all, key, hmerge⟩
  · have hadd : addContext origin into extra = .ok all := by simp [addContext, hmerge]
    rw [hmerge] at hsorted
    refine ⟨iff_of_true ⟨all, hadd⟩ hapart, fun all' h => ?_, fun failure h => ?_⟩
    · cases hadd.symm.trans h
      exact ⟨hmerge, hsorted, hjoins⟩
    · cases hadd.symm.trans h
  · have hadd : addContext origin into extra = .error (duplicate origin key) := by
      simp [addContext, hmerge]
    rw [hmerge] at hsorted
    refine ⟨iff_of_false (fun ⟨all', h⟩ => ?_) hapart, fun all' h => ?_, fun failure h => ?_⟩
    · cases hadd.symm.trans h
    · cases hadd.symm.trans h
    · cases hadd.symm.trans h
      exact ⟨key, all, rfl, hmerge, hsorted, merge_stopped he hmerge⟩

/-! ## Two sources -/

/-- Two sources can be merged when they share no key with what is there or with each other, and
then the result has the bindings of all three. -/
theorem addContext_twice_ok_iff (origin origin' : String) (hi : into.Sorted) (he : extra.Sorted)
    (ho : other.Sorted) :
    (addContext origin into extra).bind (addContext origin' · other) = .ok all ↔
      (Apart into extra ∧ Apart into other ∧ Apart extra other) ∧ all.Sorted ∧
        ∀ key value, all.get? key = some value ↔ into.get? key = some value ∨
          extra.get? key = some value ∨ other.get? key = some value := by
  constructor
  · intro h
    obtain ⟨both, hfirst, hsecond⟩ := bind_ok_iff.1 h
    obtain ⟨hextra, hboth, hjoins⟩ := (addContext_ok_iff origin hi he both).1 hfirst
    obtain ⟨hother, hall, hjoins'⟩ := (addContext_ok_iff origin' hboth ho all).1 hsecond
    obtain ⟨hio, heo⟩ := (Assoc.apart_joins hjoins).1 hother
    exact ⟨⟨hextra, hio, heo⟩, hall, Assoc.joins_trans hjoins hjoins'⟩
  · rintro ⟨⟨hextra, hio, heo⟩, hall, hbindings⟩
    obtain ⟨both, hfirst⟩ := (merged origin hi he).succeeds.2 hextra
    obtain ⟨-, hboth, hjoins⟩ := (merged origin hi he).union both hfirst
    refine bind_ok_iff.2 ⟨both, hfirst, (addContext_ok_iff origin' hboth ho all).2
      ⟨(Assoc.apart_joins hjoins).2 ⟨hio, heo⟩, hall, fun key value => ?_⟩⟩
    rw [hbindings, hjoins key value, or_assoc]

/-- Merging never overwrites, and two sources can be merged in either order. -/
theorem merge_never_overwrites (origin origin' : String) (hi : into.Sorted) (he : extra.Sorted)
    (ho : other.Sorted) : Merged origin into extra ∧
      ∀ all, (addContext origin into extra).bind (addContext origin' · other) = .ok all ↔
        (addContext origin' into other).bind (addContext origin · extra) = .ok all := by
  refine ⟨merged origin hi he, fun all => ?_⟩
  rw [addContext_twice_ok_iff origin origin' hi he ho,
    addContext_twice_ok_iff origin' origin hi ho he]
  have hapart : (Apart into extra ∧ Apart into other ∧ Apart extra other) ↔
      Apart into other ∧ Apart into extra ∧ Apart other extra := by
    rw [and_left_comm, Assoc.apart_comm (a := extra)]
  have hbindings (key : String) (value : Json) :
      (into.get? key = some value ∨ extra.get? key = some value ∨ other.get? key = some value) ↔
        (into.get? key = some value ∨ other.get? key = some value ∨ extra.get? key = some value) :=
    or_congr_right or_comm
  simp only [hapart, hbindings]

/-- The second of three keys is there already: only the first is added. -/
theorem merge_never_overwrites_stopped :
    let into : Attributes := [("role", .text "reader"), ("time", .null)]
    let extra : Attributes := [("age", .bool true), ("role", .text "owner"), ("zone", .null)]
    let other : Attributes := [("place", .null)]
    Merged "subject" into extra ∧ merge into extra = (("age", .bool true) :: into, some "role") ∧
      ∀ all, (addContext "subject" into extra).bind (addContext "resource" · other) = .ok all ↔
        (addContext "resource" into other).bind (addContext "subject" · extra) = .ok all := by
  intro into extra other
  have h := @merge_never_overwrites into extra other "subject" "resource"
    (by unfold Sorted; decide) (by unfold Sorted; decide) (by unfold Sorted; decide)
  exact ⟨h.1, rfl, h.2⟩

end Enforcement

end AccessControl
