/-
How users are described to conditions. The name, the groups and the attributes of a user each have a
key of their own, so that no attribute can pass for the name or the groups. Main statement: a
description binds these and nothing else, whatever the attributes are called
(`describes_attributesOf`).
-/
import AccessControl.Proofs.Json.Nesting
import AccessControl.Service.Authority
import Mathlib.Data.List.Induction

namespace AccessControl

/-! ## Maps with changed keys -/

namespace Assoc

variable {β : Type}

/-- Binds in a map what is bound in another one, under changed keys. -/
def rekey (f : String → String) (bindings : List (String × β)) (known : Assoc β) : Assoc β :=
  bindings.foldl (fun all e => put (f e.1) e.2 all) known

theorem rekey_append (f : String → String) (bindings : List (String × β)) (e : String × β)
    (known : Assoc β) :
    rekey f (bindings ++ [e]) known = put (f e.1) e.2 (rekey f bindings known) :=
  List.foldl_append

theorem ofList_append (bindings : List (String × β)) (e : String × β) :
    ofList (bindings ++ [e]) = put e.1 e.2 (ofList bindings) := List.foldl_append

variable {f : String → String} {known : Assoc β}

theorem sorted_rekey (hknown : known.Sorted) (f : String → String) (bindings : List (String × β)) :
    (rekey f bindings known).Sorted := by
  induction bindings using List.reverseRecOn with
  | nil => exact hknown
  | append_singleton bindings e ih => exact rekey_append f bindings e known ▸ ih.put _ _

/-- A changed key is bound to what the last binding of the key says. -/
theorem get?_rekey (hf : f.Injective) (bindings : List (String × β)) (key : String) :
    (rekey f bindings known).get? (f key) =
      ((ofList bindings).get? key).or (known.get? (f key)) := by
  induction bindings using List.reverseRecOn with
  | nil => rfl
  | append_singleton bindings e ih =>
    rw [rekey_append, ofList_append, get?_put, get?_put, ih]
    by_cases hkey : e.1 = key
    · rw [if_pos (congrArg f hkey), if_pos hkey, Option.some_or]
    · rw [if_neg fun h => hkey (hf h), if_neg hkey]

/-- No other key is touched. -/
theorem get?_rekey_other (bindings : List (String × β)) {key : String} (hkey : ∀ k, f k ≠ key) :
    (rekey f bindings known).get? key = known.get? key := by
  induction bindings using List.reverseRecOn with
  | nil => rfl
  | append_singleton bindings e ih => rw [rekey_append, get?_put, if_neg (hkey e.1), ih]

end Assoc

namespace Authority

/-! ## Keys -/

theorem attributeKey_injective (start : String) :
    Function.Injective fun name : String => s!"{start}.attrs.{name}" :=
  fun _ _ h => (String.append_right_inj _).1 h

/-- The key of an attribute goes on as no other key does. -/
theorem attributeKey_ne (start name : String) {rest : String} (hrest : rest.toList[1]? ≠ some 'a') :
    s!"{start}.attrs.{name}" ≠ start ++ rest := by
  intro h
  have hkey : start ++ (".attrs." ++ name) = start ++ rest := String.append_assoc ▸ h
  obtain rfl := (String.append_right_inj _).1 hkey
  exact hrest (by rw [String.toList_append]; rfl)

theorem usernameKey_ne_groupsKey (start : String) : s!"{start}.username" ≠ s!"{start}.groups" :=
  fun h => absurd ((String.append_right_inj _).1 h) (by decide)

/-! ## Descriptions -/

/-- A user is described by its name, its groups and its attributes, and by nothing else. -/
structure Describes (start : String) (user : User) (groups : List (Urn .group))
    (context : Attributes) : Prop where
  username : context.get? s!"{start}.username" = some (.text user.username)
  groups : context.get? s!"{start}.groups" =
    some (.array (groups.map fun group => .text group.text))
  /-- Of bindings of the same name the last one counts, where there are such. -/
  attributes : ∀ name, context.get? s!"{start}.attrs.{name}" =
    (Assoc.ofList (user.attributes.getD [])).get? name
  only : ∀ key, context.has key = true →
    key = s!"{start}.username" ∨ key = s!"{start}.groups" ∨
      ∃ name : String, key = s!"{start}.attrs.{name}"

variable {start : String} {user : User} {groups : List (Urn .group)} {context : Attributes}

theorem attributesOf_eq (start : String) (user : User) (groups : List (Urn .group)) :
    attributesOf start user groups =
      Assoc.rekey (fun name => s!"{start}.attrs.{name}") (user.attributes.getD [])
        (Assoc.ofList [(s!"{start}.username", .text user.username),
          (s!"{start}.groups", .array (groups.map fun group => .text group.text))]) := rfl

theorem sorted_attributesOf (start : String) (user : User) (groups : List (Urn .group)) :
    (attributesOf start user groups).Sorted := Assoc.sorted_rekey (Assoc.sorted_ofList _) _ _

theorem describes_attributesOf (start : String) (user : User) (groups : List (Urn .group)) :
    Describes start user groups (attributesOf start user groups) := by
  have husername (name : String) : s!"{start}.attrs.{name}" ≠ s!"{start}.username" :=
    attributeKey_ne start name (by decide)
  have hgroups (name : String) : s!"{start}.attrs.{name}" ≠ s!"{start}.groups" :=
    attributeKey_ne start name (by decide)
  rw [attributesOf_eq]
  have hknown (key : String) : (Assoc.ofList [(s!"{start}.username", Json.text user.username),
      (s!"{start}.groups", .array (groups.map fun group => .text group.text))]).get? key =
      if s!"{start}.groups" = key then some (.array (groups.map fun group => .text group.text))
      else if s!"{start}.username" = key then some (.text user.username) else none := by
    show (Assoc.put _ _ (Assoc.put _ _ [])).get? key = _
    rw [Assoc.get?_put, Assoc.get?_put, Assoc.get?_nil]
  refine ⟨?_, ?_, fun name => ?_, fun key hkey => ?_⟩
  · rw [Assoc.get?_rekey_other _ husername, hknown, if_neg (usernameKey_ne_groupsKey start).symm,
      if_pos rfl]
  · rw [Assoc.get?_rekey_other _ hgroups, hknown, if_pos rfl]
  · rw [Assoc.get?_rekey (attributeKey_injective start), hknown, if_neg (hgroups name).symm,
      if_neg (husername name).symm, Option.or_none]
  · -- what is not the key of an attribute has been bound before the attributes
    by_cases hattribute : ∃ name : String, s!"{start}.attrs.{name}" = key
    · obtain ⟨name, rfl⟩ := hattribute
      exact .inr (.inr ⟨name, rfl⟩)
    · rw [Assoc.has_eq, Assoc.get?_rekey_other _ (not_exists.1 hattribute), hknown] at hkey
      split at hkey
      · rename_i h
        exact .inr (.inl h.symm)
      · split at hkey
        · rename_i h
          exact .inl h.symm
        · cases hkey

end Authority

end AccessControl
