/-
Reading names is the inverse of composing them: the local names that can be used and the texts that
name something correspond one to one (`names_correspond`).
-/
import AccessControl.Proofs.Urn
import Mathlib.Data.Set.Function

namespace AccessControl.Urn

open Text

variable {k : Kind} {text name : String}

/-- A local name that is not empty is read off just the texts that are put together from a word
and it. -/
theorem localOf_eq_iff (hne : name ≠ "") : localOf text = name ↔
    ∃ kind, text = joined kind name ∧ isLocal kind = true ∧ isLocal name = true := by
  unfold localOf
  constructor
  · intro h
    cases hpath : path? text with
    | none => exact absurd (by simpa [hpath] using h.symm) hne
    | some path =>
      obtain ⟨kind, found⟩ := path
      obtain rfl : found = name := by simpa [hpath] using h
      exact ⟨kind, path?_eq_some_iff.1 hpath⟩
  · rintro ⟨kind, h⟩
    rw [path?_eq_some_iff.2 h]
    rfl

/-! ## Names of one kind -/

theorem name_eq_iff {u : Urn k} (hne : name ≠ "") :
    u.name = name ↔ u = ofLocal k name ∧ isLocal name = true := by
  constructor
  · intro h
    have hvalid := isValid_of_name u (h ▸ hne)
    unfold Urn.name at h
    rw [if_pos hvalid, localOf_eq_iff hne] at h
    obtain ⟨kind, htext, hkind, hname⟩ := h
    -- the word that stands in the text is that of the kind
    have hword : typeOf u.text = k.word := by
      unfold isValid at hvalid
      rw [Bool.and_eq_true, beq_iff_eq] at hvalid
      exact hvalid.2
    rw [htext, typeOf_joined hkind hname] at hword
    have heq : u.text = (ofLocal k name).text := by rw [text_ofLocal, htext, hword]
    exact ⟨congrArg Urn.mk heq, hname⟩
  · rintro ⟨rfl, hname⟩
    exact name_ofLocal hname

/-- Whatever stands in it, a composed name gives back a local name without separators or none. -/
theorem name_ofLocal_eq (k : Kind) (name : String) :
    (ofLocal k name).name = if isLocal name = true then name else "" := by
  split
  · rename_i hname
    exact name_ofLocal hname
  · rename_i hname
    by_contra hne
    obtain ⟨heq, hlocal⟩ := (name_eq_iff hne).1 rfl
    exact hname (ofLocal_injective heq ▸ hlocal)

theorem name_ofLocal_iff (k : Kind) (name : String) :
    (ofLocal k name).name = name ↔ isLocal name = true := by
  constructor
  · intro h
    exact h ▸ isLocal_name (ofLocal k name)
  · exact name_ofLocal

/-- A local name that can be used: it is not empty and survives being put into a name. -/
def Usable (name : String) : Prop := name ≠ "" ∧ isLocal name = true

theorem name_eq_usable_iff {u : Urn k} (hne : name ≠ "") :
    u.name = name ↔ u = ofLocal k name ∧ Usable name := by
  rw [name_eq_iff hne, Usable, and_iff_right hne]

theorem invOn_name (k : Kind) :
    Set.InvOn Urn.name (ofLocal k) {name | Usable name} {u | u.name ≠ ""} := by
  constructor
  · intro name h
    exact name_ofLocal h.2
  · intro u hu
    exact ((name_eq_usable_iff hu).1 rfl).1.symm

theorem bijOn_ofLocal (k : Kind) :
    Set.BijOn (ofLocal k) {name | Usable name} {u | u.name ≠ ""} := by
  apply (invOn_name k).bijOn
  · intro name h
    show (ofLocal k name).name ≠ ""
    rw [name_ofLocal h.2]
    exact h.1
  · intro u hu
    exact ((name_eq_usable_iff hu).1 rfl).2

theorem word_injective {k k' : Kind} (h : k.word = k'.word) : k = k' := by
  cases k <;> cases k' <;> first | rfl | exact absurd h (by decide)

/-- No text names something of two kinds, since the word for the kind stands in it. -/
theorem kind_unique {k' : Kind} (h : (Urn.mk text : Urn k).name ≠ "")
    (h' : (Urn.mk text : Urn k').name ≠ "") : k = k' := by
  have hword {k : Kind} (h : (Urn.mk text : Urn k).name ≠ "") : typeOf text = k.word := by
    have htext : text = (ofLocal k (Urn.mk text : Urn k).name).text :=
      congrArg Urn.text ((name_eq_iff h).1 rfl).1
    rw [htext, text_ofLocal, typeOf_joined (isLocal_word k) (isLocal_name _)]
  exact word_injective ((hword h).symm.trans (hword h'))

/-! ## Reading and composing -/

theorem root_joined (kind name : String) :
    "urn:iam::" ++ kind ++ "/" ++ name = joined kind name := by
  simp [joined, root, String.append_assoc]

/-- Reading names is the exact inverse of composing them. -/
theorem names_correspond :
    (∀ (k : Kind) (name : String), ((ofLocal k name).name = name ↔ isLocal name = true) ∧
      (isLocal name = false → (ofLocal k name).name = "")) ∧
    (∀ (k : Kind) (u : Urn k) (name : String), name ≠ "" →
      (u.name = name ↔ u = ofLocal k name ∧ Usable name)) ∧
    (∀ k : Kind, Set.BijOn (ofLocal k) {name | Usable name} {u | u.name ≠ ""} ∧
      Set.InvOn Urn.name (ofLocal k) {name | Usable name} {u | u.name ≠ ""}) ∧
    (∀ (k k' : Kind) (text : String), (Urn.mk text : Urn k).name ≠ "" →
      (Urn.mk text : Urn k').name ≠ "" → k = k') ∧
    (∀ text name : String, name ≠ "" → (localOf text = name ↔
      ∃ kind, text = "urn:iam::" ++ kind ++ "/" ++ name ∧ isLocal kind = true ∧
        isLocal name = true)) ∧
    (∀ kind name : String, isLocal kind = true → Usable name →
      typeOf ("urn:iam::" ++ kind ++ "/" ++ name) = kind) ∧
    ∀ id : Int, -(2 ^ 63) ≤ id → id < 2 ^ 63 → Text.int64? (ofAccount id).name = some id := by
  refine ⟨fun k name => ⟨name_ofLocal_iff k name, fun hname => ?_⟩,
    fun k u name => name_eq_usable_iff, fun k => ⟨bijOn_ofLocal k, invOn_name k⟩,
    fun k k' text => kind_unique, ?_, ?_, ?_⟩
  · rw [name_ofLocal_eq, hname]
    rfl
  · intro text name hne
    simp only [root_joined]
    exact localOf_eq_iff hne
  · intro kind name hkind hname
    rw [root_joined]
    exact typeOf_joined hkind hname.2
  · intro id hlow hhigh
    have hread := Users.accountOf?_ofAccount id
    unfold Users.accountOf? at hread
    rw [hread, if_pos ⟨hlow, hhigh⟩]

end AccessControl.Urn
