/-
What the reader makes of expressions that are put together from escaped text, groups and anchors:
one part for each character (`Reads.literal`), for each group that is one when it stands alone
(`Reads.group`) and for each anchor, and of several parts a sequence (`Adds.close`).
-/
import AccessControl.Proofs.Regex.Reach
import AccessControl.Proofs.Regex.Runs
import AccessControl.Regex

namespace AccessControl.Regex.Parser

theorem Adds.refl (s : State) : Adds s [] s := ⟨rfl, rfl, rfl⟩

theorem Adds.trans {s t u : State} {first second : List Part} (h : Adds s first t)
    (h' : Adds t second u) : Adds s (first ++ second) u := by
  obtain ⟨hlevel, hflags, houter⟩ := h
  obtain ⟨hlevel', hflags', houter'⟩ := h'
  refine ⟨?_, hflags'.trans hflags, houter'.trans houter⟩
  rw [hlevel', hlevel, List.reverse_append, List.append_assoc]

theorem adds_pushNode (s : State) (node : Node) : Adds s [⟨node, 0, true⟩] (s.pushNode node) :=
  ⟨rfl, rfl, rfl⟩

/-- Under the flags at the start blanks count, so that each character starts a step. -/
theorem Reads.after {s t : State} {c : Char} {cs rest : List Char} {part : Part}
    (h : Reads s (c :: cs) part) (hflags : s.flags = .initial)
    (hmakes : step? s c cs = some (t, rest)) : Reads t rest part := by
  cases h with
  | finish hskip _ =>
    rw [hflags] at hskip
    cases hskip
  | step hskip hstep next =>
    rw [hflags] at hskip
    cases hskip
    cases hmakes.symm.trans hstep
    exact next

/-! ## Literals -/

/-- Neither a letter nor a class of characters, so that a backslash takes the meaning away. -/
theorem special_plain : Escape.special.all (fun c => !"xuUpPAzbB<>".toList.contains c &&
    (Classes.ofLetter? true c.toLower).isNone && (Escape.control? c).isNone &&
      Escape.standsForItself c) = true := by
  decide +kernel

theorem read?_special {c : Char} (h : c ∈ Escape.special) (cs : List Char) :
    Escape.read? .initial (c :: cs) = some (.char c false, cs) := by
  have hplain := List.all_eq_true.1 special_plain c h
  simp only [Bool.and_eq_true, Bool.not_eq_true', Option.isNone_iff_eq_none] at hplain
  obtain ⟨⟨⟨hletter, hset⟩, hcontrol⟩, hitself⟩ := hplain
  unfold Escape.read?
  dsimp only
  split
  all_goals first | exact absurd hletter (by decide) | skip
  simp only [Flags.initial, hset, hcontrol, hitself, if_true]

/-- A character that means something is read after a backslash as the character itself. -/
theorem step?_special {s : State} {c : Char} (hflags : s.flags = .initial)
    (h : c ∈ Escape.special) (cs : List Char) :
    step? s '\\' (c :: cs) = some (s.pushNode (.one (.single c)), cs) := by
  simp only [step?, hflags, read?_special h, Option.bind_eq_bind, Option.bind_some]
  rfl

theorem step?_plain {s : State} {c : Char} (hflags : s.flags = .initial)
    (h : c ∉ Escape.special) (cs : List Char) :
    step? s c cs = some (s.pushNode (.one (.single c)), cs) := by
  unfold step?
  split
  all_goals first | exact absurd (by decide) h | skip
  rw [hflags]
  rfl

/-- A character as a part. -/
def Part.ofChar (c : Char) : Part := ⟨.one (.single c), 0, true⟩

theorem nodes_ofChar (text : List Char) :
    (text.map Part.ofChar).map Part.node = Node.characters text := by
  simp [Node.characters, Part.ofChar, Function.comp_def]

theorem Reads.character {s : State} {c : Char} {cs : List Char} {part : Part}
    (hflags : s.flags = .initial)
    (h : Reads s ((if Escape.special.contains c then ['\\', c] else [c]) ++ cs) part) :
    Reads (s.pushNode (.one (.single c))) cs part := by
  by_cases hspecial : c ∈ Escape.special
  · rw [if_pos (List.contains_iff_mem.2 hspecial)] at h
    exact h.after hflags (step?_special hflags hspecial cs)
  · rw [if_neg (mt List.contains_iff_mem.1 hspecial)] at h
    exact h.after hflags (step?_plain hflags hspecial cs)

theorem Reads.literal {s : State} {text cs : List Char} {part : Part} (hflags : s.flags = .initial)
    (h : Reads s ((escape (String.ofList text)).toList ++ cs) part) :
    ∃ t, Adds s (text.map Part.ofChar) t ∧ Reads t cs part := by
  simp only [escape, String.toList_ofList] at h
  induction text generalizing s with
  | nil => exact ⟨s, .refl s, h⟩
  | cons c text ih =>
    rw [List.flatMap_cons, List.append_assoc] at h
    obtain ⟨t, hadds, next⟩ := ih (s := s.pushNode (.one (.single c))) hflags (h.character hflags)
    exact ⟨t, (adds_pushNode s _).trans hadds, next⟩

/-! ## Groups -/

theorem reads_of_read? {cs : List Char} {node : Node} (h : read? cs = some node) :
    ∃ part, Reads .initial cs part ∧ part.node = node := by
  unfold read? at h
  split at h
  · rename_i part hpart
    split at h
    · exact ⟨part, reads_of_readFrom hpart, Option.some.inj h⟩
    · cases h
  · cases h

theorem step?_group {s : State} (hflags : s.flags = .initial) (cs : List Char) :
    step? s '(' ('?' :: ':' :: cs) = some (openGroup s .initial, cs) := by
  simp [step?, group?, hflags, Flags.skip, Flags.read?, Flags.initial]

/-- A text that is one group alone is one part among others. -/
theorem Reads.group {s : State} {text cs : List Char} {number : Option Nat} {body : Node}
    {part : Part} (hflags : s.flags = .initial)
    (halone : read? ('(' :: '?' :: ':' :: (text ++ [')'])) = some (.group number body))
    (h : Reads s ('(' :: '?' :: ':' :: (text ++ ')' :: cs)) part) :
    ∃ p t, Adds s [p] t ∧ Reads t cs part := by
  obtain ⟨whole, hwhole, hnode⟩ := reads_of_read? halone
  have hgroup : whole.IsGroup := by
    unfold Part.IsGroup
    rw [hnode]
    trivial
  have hinside := hwhole.after rfl (step?_group rfl _)
  exact hinside.through rfl hgroup (beside_openGroup .initial s .initial)
    (h.after hflags (step?_group hflags _))

/-! ## Whole expressions -/

theorem step?_start {s : State} (hflags : s.flags = .initial) (cs : List Char) :
    step? s '^' cs = some (s.pushNode (.look .textStart), cs) := by
  simp [step?, lineStart, hflags, Flags.initial]

theorem step?_end {s : State} (hflags : s.flags = .initial) (cs : List Char) :
    step? s '$' cs = some (s.pushNode (.look .textEnd), cs) := by
  simp [step?, lineEnd, hflags, Flags.initial]

theorem Reads.ended {s : State} {part : Part} (h : Reads s [] part) : part = s.level.close := by
  cases h with
  | finish _ hfinish => exact (finish?_outer hfinish).2
  | step hskip _ _ =>
    rw [Flags.skip_nil] at hskip
    cases hskip

theorem ofBranch_node {branch : Branch} (h : 2 ≤ branch.length) :
    (Part.ofBranch branch).node = .sequence (branch.reverse.map Part.node) := by
  match branch, h with
  | _ :: _ :: _, _ => rfl

/-- Several parts make a sequence. -/
theorem Adds.close {parts : List Part} {s : State} (h : Adds .initial parts s)
    (hlength : 2 ≤ parts.length) : s.level.close.node = .sequence (parts.map Part.node) := by
  rw [h.1]
  show (Part.ofBranch (parts.reverse ++ [])).node = _
  rw [List.append_nil, ofBranch_node (by rwa [List.length_reverse]), List.reverse_reverse]

end AccessControl.Regex.Parser
