/-
Values that stay readable inside of others. Main statements: an object stays readable if its values
do with one container less (`lasting_object_iff`), and a value of legible numbers is accepted alone
exactly when it stays readable within the limit of a reader (`lasting_of_parse?`, `parse?_render`).
-/
import AccessControl.Proofs.Json.Nesting

namespace AccessControl.Json

/-- A value that stays readable inside of others: it is ordered, as values that have been read are,
its numbers are read as they are written, and it opens no more than so many containers. -/
structure Lasting (depth : Nat) (value : Json) : Prop where
  ordered : Ordered value
  numbers : Legible value
  nesting : value.nesting ≤ depth

theorem Lasting.mono {depth more : Nat} {value : Json} (h : Lasting depth value)
    (hle : depth ≤ more) : Lasting more value :=
  ⟨h.ordered, h.numbers, Nat.le_trans h.nesting hle⟩

/-! ## Objects -/

theorem lasting_object_iff {depth : Nat} {fields : List (String × Json)} :
    Lasting (depth + 1) (.object fields) ↔
      Assoc.Sorted fields ∧ ∀ e ∈ fields, Lasting depth e.2 := by
  constructor
  · intro h
    have hordered := orderedFields_iff.1 h.ordered.2
    have hnumbers := legibleFields_iff.1 h.numbers
    have hnesting := nestingFields_le_iff.1 (Nat.le_of_succ_le_succ h.nesting)
    exact ⟨h.ordered.1, fun e he => ⟨hordered e he, hnumbers e he, hnesting e he⟩⟩
  · rintro ⟨hsorted, hvalues⟩
    refine ⟨⟨hsorted, ?_⟩, ?_, Nat.succ_le_succ ?_⟩
    · exact orderedFields_iff.2 fun e he => (hvalues e he).ordered
    · exact legibleFields_iff.2 fun e he => (hvalues e he).numbers
    · exact nestingFields_le_iff.2 fun e he => (hvalues e he).nesting

theorem Lasting.put {depth : Nat} {m : Attributes} (h : Lasting (depth + 1) (.object m))
    (key : String) {value : Json} (hvalue : Lasting depth value) :
    Lasting (depth + 1) (.object (Assoc.put key value m)) := by
  obtain ⟨hsorted, hvalues⟩ := lasting_object_iff.1 h
  refine lasting_object_iff.2 ⟨hsorted.put key value, fun e he => ?_⟩
  rcases Assoc.mem_put he with rfl | he
  · exact hvalue
  · exact hvalues e he

theorem Lasting.erase {depth : Nat} {m : Attributes} (h : Lasting (depth + 1) (.object m))
    (key : String) : Lasting (depth + 1) (.object (Assoc.erase m key)) := by
  obtain ⟨hsorted, hvalues⟩ := lasting_object_iff.1 h
  exact lasting_object_iff.2 ⟨hsorted.erase key, fun e he => hvalues e (Assoc.mem_erase he)⟩

/-- No attributes stay readable anywhere. -/
theorem lasting_empty (depth : Nat) : Lasting (depth + 1) (.object []) :=
  lasting_object_iff.2 ⟨List.Pairwise.nil, fun e he => by cases he⟩

/-! ## Texts -/

/-- What is accepted where it stands alone stays readable there. -/
theorem lasting_of_parse? {text : String} {value : Json} (hparse : parse? text = some value)
    (hnumbers : Legible value) : Lasting Decoder.maxDepth value := by
  unfold parse? at hparse
  cases hdecode : Decoder.decode Decoder.json text with
  | error fault =>
    rw [hdecode] at hparse
    cases hparse
  | ok read =>
    rw [hdecode] at hparse
    obtain rfl := Option.some.inj hparse
    obtain ⟨result, hresult, hrest⟩ := bind_ok_iff.1 hdecode
    split at hrest
    · cases hrest
    · obtain rfl := Except.ok.inj hrest
      obtain ⟨hordered, hnesting⟩ := Decoder.json_ok _ _ _ hresult
      exact ⟨hordered, hnumbers, hnesting⟩

/-- What stays readable alone is accepted where it stands alone. -/
theorem parse?_render {value : Json} (h : Lasting Decoder.maxDepth value) :
    parse? value.render = some value := by
  have hread : Decoder.ofJson Decoder.json value = .ok value :=
    (Decoder.json_ofJson value h.ordered _).trans (if_pos h.nesting)
  unfold parse?
  rw [Decoder.decode_render Decoder.json h.numbers, hread]
  rfl

/-! ## The deepest values -/

/-- An array in so many arrays. -/
def nested : Nat → Json
  | 0 => .array []
  | n + 1 => .array [nested n]

theorem nesting_nested (n : Nat) : (nested n).nesting = n + 1 := by
  induction n with
  | zero => rfl
  | succ n ih =>
    show max (nested n).nesting 0 + 1 = n + 1 + 1
    rw [ih, Nat.max_zero]

theorem lasting_nested (n : Nat) : Lasting (n + 1) (nested n) := by
  refine ⟨?_, ?_, (nesting_nested n).le⟩
  · induction n with
    | zero => exact trivial
    | succ n ih => exact ⟨ih, trivial⟩
  · induction n with
    | zero => exact trivial
    | succ n ih => exact ⟨ih, trivial⟩

end AccessControl.Json
