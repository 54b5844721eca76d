/-
What a condition on the text of an attribute asks for. Its expression is put between anchors as
text; if no bracket of it strays, it means there what it means alone, and the condition holds of the
texts that it matches as a whole (`textMatch_whole`). A bracket that ends the group of the anchors takes
the text after it out of the group (`textMatch_spliced`), and a comment takes the end of the group
(`textMatch_hidden`).
-/
import AccessControl.Condition.Evaluate
import AccessControl.Proofs.Regex.Enclosed

namespace AccessControl.Condition

open Regex Regex.Parser

/-- The expression as a condition asks for it, from the start of a text to its end. -/
def anchored (node : Node) : Node := .sequence [.look .textStart, .group none node, .look .textEnd]

theorem anchored_occursIn {node : Node} {text : List Char} :
    (anchored node).occursIn text = true ↔ node.Matches text 0 text.length := by
  have hgroup : anchored node =
      .sequence (.look .textStart :: [.group none node] ++ [.look .textEnd]) := rfl
  rw [hgroup, Node.occursIn_between_ends]
  rfl

/-- The text alone writes the expression, and so it does between the anchors: it does not end in a
comment, which would go on over the bracket after it, and with the anchors it is neither too deep
nor too large. -/
structure Stands (matching : String) (node : Node) : Prop where
  reads : read? matching.toList = some node
  ends : read? (matching.toList ++ [')']) = none
  nests : ∀ part, whole? matching.toList = some part → part.depth + 2 ≤ maxDepth
  fits : (Plan.ofNode (anchored node)).fits = true

theorem wholeMatch?_eq_some {matching : String} {r : Regex} : wholeMatch? matching = some r ↔
    ∃ node, read? (anchoredText matching.toList) = some node ∧ (Plan.ofNode node).fits = true ∧
      r = ⟨s!"^(?:{matching})$", node⟩ := by
  have htext : (s!"^(?:{matching})$").toList = anchoredText matching.toList := by
    simp [anchoredText, toString]
  unfold wholeMatch? Regex.ofText?
  rw [htext]
  generalize s!"^(?:{matching})$" = source
  cases read? (anchoredText matching.toList) with
  | none => simp
  | some node =>
    by_cases hfits : (Plan.ofNode node).fits = true
    · simp only [hfits, if_true, Option.some.injEq]
      constructor
      · rintro rfl
        exact ⟨node, rfl, hfits, rfl⟩
      · rintro ⟨_, rfl, -, rfl⟩
        rfl
    · simp [hfits]

/-- If no bracket strays, the condition has an expression just if the text stands by itself. -/
theorem wholeMatch?_stands {matching : String} (hstray : strays matching.toList = false)
    {r : Regex} : wholeMatch? matching = some r ↔
      ∃ node, Stands matching node ∧ r = ⟨s!"^(?:{matching})$", anchored node⟩ := by
  rw [wholeMatch?_eq_some]
  constructor
  · rintro ⟨node, hread, hfits, rfl⟩
    obtain ⟨whole, hwhole, hdepth, rfl⟩ := read?_eq_some.1 hread
    obtain ⟨part, hpart, hnone, rfl⟩ := (whole?_anchoredText hstray).1 hwhole
    have hdepth : part.depth + 2 ≤ maxDepth := hdepth
    refine ⟨part.node, ⟨read?_eq_some.2 ⟨part, hpart, by omega, rfl⟩, ?_, ?_, hfits⟩, rfl⟩
    · rw [read?, show readFrom _ _ _ = none from hnone]
    · intro part' hpart'
      cases hpart.symm.trans hpart'
      exact hdepth
  · rintro ⟨node, hstands, rfl⟩
    obtain ⟨part, hpart, hdepth, rfl⟩ := read?_eq_some.1 hstands.reads
    have hnone : whole? (matching.toList ++ [')']) = none := by
      rcases whole?_bracket hpart with hnone | hsame
      · exact hnone
      · cases hstands.ends.symm.trans (read?_eq_some.2 ⟨part, hsame, hdepth, rfl⟩)
    have hwhole : whole? (anchoredText matching.toList) = some part.anchored :=
      (whole?_anchoredText hstray).2 ⟨part, hpart, hnone, rfl⟩
    exact ⟨_, read?_eq_some.2 ⟨part.anchored, hwhole, hstands.nests part hpart, rfl⟩,
      hstands.fits, rfl⟩

theorem Stands.unique {matching : String} {node node' : Node} (h : Stands matching node)
    (h' : Stands matching node') : node' = node :=
  Option.some.inj (h'.reads.symm.trans h.reads)

theorem evaluate_textMatch (matching s subject : String) :
    evaluate (.textMatch matching) (some (.text s)) subject = match wholeMatch? matching with
      | some r => .ok (r.node.occursIn s.toList)
      | none => .error (malformed matching) := by
  show evaluateOn (.textMatch matching) (.text s) subject = _
  rw [evaluateOn]
  cases wholeMatch? matching <;> rfl

/-- The condition holds of the texts that the expression matches from start to end, it does not hold
of others, and it fails if the text does not stand by itself. -/
theorem textMatch_whole {matching : String} (hstray : strays matching.toList = false)
    (s subject : String) :
    (evaluate (.textMatch matching) (some (.text s)) subject = .ok true ↔
      ∃ node, Stands matching node ∧ node.Matches s.toList 0 s.length) ∧
    (evaluate (.textMatch matching) (some (.text s)) subject = .ok false ↔
      ∃ node, Stands matching node ∧ ¬ node.Matches s.toList 0 s.length) ∧
    (evaluate (.textMatch matching) (some (.text s)) subject = .error (malformed matching) ↔
      ¬ ∃ node, Stands matching node) := by
  rw [evaluate_textMatch, ← String.length_toList]
  by_cases hstands : ∃ node, Stands matching node
  · -- there is one expression that the text stands for, and the three answers are about it
    obtain ⟨node, hnode⟩ := hstands
    have hall (P : Node → Prop) : (∃ node, Stands matching node ∧ P node) ↔ P node := by
      constructor
      · rintro ⟨node', hnode', hp⟩
        exact hnode.unique hnode' ▸ hp
      · exact fun hp => ⟨node, hnode, hp⟩
    have hmatch : (anchored node).occursIn s.toList = true ↔
        node.Matches s.toList 0 s.toList.length := anchored_occursIn
    simp only [(wholeMatch?_stands hstray).2 ⟨node, hnode, rfl⟩, hall, ← hmatch, Except.ok.injEq,
      Bool.not_eq_true, true_and, reduceCtorEq, false_iff]
    exact fun hnone => hnone ⟨node, hnode⟩
  · have hnone : wholeMatch? matching = none := by
      cases hr : wholeMatch? matching with
      | none => rfl
      | some r =>
        obtain ⟨node, hnode, -⟩ := (wholeMatch?_stands hstray).1 hr
        exact absurd ⟨node, hnode⟩ hstands
    have hno (P : Node → Prop) : ¬ ∃ node, Stands matching node ∧ P node :=
      fun ⟨node, hnode, _⟩ => hstands ⟨node, hnode⟩
    simp [hnone, hno, hstands]

/-- A choice is read as it is alone. -/
theorem textMatch_whole_choice : ∃ node, Stands "a|bc" node ∧ node.Matches "bc".toList 0 2 :=
  (textMatch_whole (by decide +kernel) "bc" "").1.1 (by decide +kernel)

/-- A bracket that ends the group leaves an alternative after it, which no text alone writes. -/
theorem textMatch_spliced :
    Regex.ofText? "a)|(?:b" = none ∧
      evaluate (.textMatch "a)|(?:b") (some (.text "a")) "" = .ok true ∧
      evaluate (.textMatch "a)|(?:b") (some (.text "ab")) "" = .ok true := by
  decide +kernel

/-- If a text is well-formed alone and stays so with a bracket after it, a comment hides the
bracket, and so it does between the anchors: the condition fails. -/
theorem textMatch_hidden {matching : String} (h : whole? matching.toList ≠ none)
    (hmore : whole? (matching.toList ++ [')']) ≠ none) (s subject : String) :
    evaluate (.textMatch matching) (some (.text s)) subject = .error (malformed matching) := by
  obtain ⟨part, hpart⟩ := Option.ne_none_iff_exists'.1 h
  have hnone : wholeMatch? matching = none := by
    refine Option.eq_none_iff_forall_ne_some.2 fun r hr => ?_
    obtain ⟨node, hread, -, -⟩ := wholeMatch?_eq_some.1 hr
    obtain ⟨whole, hwhole, -, -⟩ := read?_eq_some.1 hread
    obtain ⟨-, -, hclosed, -⟩ := (whole?_anchoredText (strays_of_whole? hpart)).1 hwhole
    exact hmore hclosed
  rw [evaluate_textMatch, hnone]

example : (Regex.ofText? "(?x)a#b").isSome = true ∧
    evaluate (.textMatch "(?x)a#b") (some (.text "a")) "" = .error (malformed "(?x)a#b") := by
  decide +kernel

end AccessControl.Condition
