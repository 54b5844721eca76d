/-
Readers that look no further than the next closing bracket of a group. What such a reader makes of a
text it also makes of it when a bracket and more text come after it, unless the text ends in a
comment, which hides the bracket; and where it can make nothing of a text, it can with more text
only if it takes the bracket (`AgreesAt`). Main statement: local readers one after the other are
local (`Local.bind`).
-/
import AccessControl.Regex.Flags

namespace AccessControl.Regex

/-- What a reader answers holds the text that it has left. -/
class Leaves (β : Type) where
  rest : β → List Char
  /-- The answer with another text left. -/
  leave : List Char → β → β
  leave_rest (b : β) : leave (rest b) b = b
  rest_leave (r : List Char) (b : β) : rest (leave r b) = r

namespace Leaves

instance : Leaves (List Char) := ⟨id, fun rest _ => rest, fun _ => rfl, fun _ _ => rfl⟩

instance {α β : Type} [Leaves β] : Leaves (α × β) :=
  ⟨fun p => rest p.2, fun r p => (p.1, leave r p.2), fun p => by rw [leave_rest],
    fun r p => rest_leave r p.2⟩

@[simp] theorem leave_text (r s : List Char) : leave r s = r := rfl

@[simp] theorem leave_pair {α β : Type} [Leaves β] (r : List Char) (a : α) (b : β) :
    leave r (a, b) = (a, leave r b) := rfl

@[simp] theorem rest_text (s : List Char) : rest s = s := rfl

@[simp] theorem rest_pair {α β : Type} [Leaves β] (a : α) (b : β) : rest (a, b) = rest b := rfl

end Leaves

open Leaves (rest leave leave_rest rest_leave)

section

variable {α β γ : Type} [Leaves β] [Leaves γ] {kept : List Char}

/-- How a reader fares on a text when a closing bracket and more text come after it. The text after
the bracket is of the same line. -/
inductive AgreesAt (kept : List Char) (f : List Char → Option β) (u : List Char) : Prop
  /-- The bracket stands where the text has ended. -/
  | same (b : β) (hrest : rest b <:+ u) (hread : f u = some b)
    (hmore : ∀ v, f (u ++ ')' :: v) = some (leave (rest b ++ ')' :: v) b))
  /-- The text ends in a comment, and so does the longer one. -/
  | hidden (b : β) (hrest : rest b = []) (hread : f u = some b)
    (hmore : ∀ v, '\n' ∉ v → f (u ++ ')' :: v) = some b)
  /-- The text is too short. Of a longer one the bracket is taken, if `kept` does not have it. -/
  | failed (hread : f u = none)
    (hmore : ∀ v b, '\n' ∉ v → f (u ++ ')' :: v) = some b → rest b <:+ kept ++ v)

/-- The reader agrees with itself on longer texts. -/
def Local (kept : List Char) (f : List Char → Option β) : Prop := ∀ u, AgreesAt kept f u

namespace AgreesAt

variable {f : List Char → Option β} {u : List Char}

theorem suffix {b : β} (h : AgreesAt kept f u) (hb : f u = some b) : rest b <:+ u := by
  cases h with
  | same c hrest hread =>
    cases hread.symm.trans hb
    exact hrest
  | hidden c hrest hread =>
    cases hread.symm.trans hb
    exact hrest ▸ List.nil_suffix
  | failed hread => cases hread.symm.trans hb

theorem suffix_of_none (h : AgreesAt kept f u) (hread : f u = none) {v : List Char} {b : β}
    (hv : '\n' ∉ v) (hb : f (u ++ ')' :: v) = some b) : rest b <:+ kept ++ v := by
  cases h with
  | same c _ hc => cases hread.symm.trans hc
  | hidden c _ hc => cases hread.symm.trans hc
  | failed _ hmore => exact hmore v b hv hb

/-- The bracket alone after the text tells whether a comment hides it. -/
theorem hidden_or_same {b : β} (h : AgreesAt kept f u) (hread : f u = some b) :
    (rest b = [] ∧ f (u ++ [')']) = some b ∧ ∀ v, '\n' ∉ v → f (u ++ ')' :: v) = some b) ∨
      (rest b <:+ u ∧ f (u ++ [')']) ≠ some b ∧
        ∀ v, f (u ++ ')' :: v) = some (leave (rest b ++ ')' :: v) b)) := by
  cases h with
  | same c hrest hc hmore =>
    cases hread.symm.trans hc
    refine .inr ⟨hrest, fun hsame => ?_, hmore⟩
    have hleft := congrArg (Option.map rest) ((hmore []).symm.trans hsame)
    simp [rest_leave] at hleft
  | hidden c hnil hc hmore =>
    cases hread.symm.trans hc
    exact .inl ⟨hnil, hmore [] List.not_mem_nil, hmore⟩
  | failed hnone => cases hnone.symm.trans hread

/-- On a text a reader does what another one does on the end of it. -/
theorem congr {g : List Char → Option β} {x : List Char} (hg : AgreesAt kept g x) (hx : x <:+ u)
    (hread : f u = g x) (hmore : ∀ v, f (u ++ ')' :: v) = g (x ++ ')' :: v)) :
    AgreesAt kept f u := by
  cases hg with
  | same b hrest hb hbs =>
    exact .same b (hrest.trans hx) (hread.trans hb) fun v => (hmore v).trans (hbs v)
  | hidden b hrest hb hbs =>
    exact .hidden b hrest (hread.trans hb) fun v hv => (hmore v).trans (hbs v hv)
  | failed hnone hbs =>
    exact .failed (hread.trans hnone) fun v b hv hb => hbs v b hv ((hmore v).symm.trans hb)

theorem of_none (hread : f u = none) (hmore : ∀ v, f (u ++ ')' :: v) = none) :
    AgreesAt kept f u :=
  .failed hread fun v b _ hb => by cases (hmore v).symm.trans hb

/-- One reader after the other. If the second goes past the bracket where the first one may leave
it, so do both together. -/
theorem bind_past {less : List Char} {g : β → Option γ} (hf : AgreesAt kept f u)
    (hg : ∀ b, Local less fun r => g (leave r b))
    (hpast : ∀ v b c, f (u ++ ')' :: v) = some b → rest b <:+ kept ++ v → g b = some c →
      rest c <:+ less ++ v) : AgreesAt less (fun cs => f cs >>= g) u := by
  cases hf with
  | same b hrest hread hmore =>
    refine (hg b (rest b)).congr hrest ?_ fun v => ?_
    · rw [hread, leave_rest]
      rfl
    · rw [hmore v]
      rfl
  | hidden b hrest hread hmore =>
    have hagain : g b = g (leave [] b) := by rw [← hrest, leave_rest]
    cases hc : g b with
    | none =>
      refine .failed (by simp [hread, hc]) fun v c hv h => ?_
      simp [hmore v hv, hc] at h
    | some c =>
      have hends : rest c <:+ [] := (hg b []).suffix (hagain.symm.trans hc)
      exact .hidden c (List.suffix_nil.1 hends) (by simp [hread, hc])
        fun v hv => by simp [hmore v hv, hc]
  | failed hread hmore =>
    refine .failed (by simp [hread]) fun v c hv h => ?_
    obtain ⟨b, hb, hc⟩ := Option.bind_eq_some_iff.1 h
    exact hpast v b c hb (hmore v b hv hb) hc

theorem bind {g : β → Option γ} (hf : AgreesAt kept f u)
    (hg : ∀ b, Local kept fun r => g (leave r b)) : AgreesAt kept (fun cs => f cs >>= g) u := by
  refine hf.bind_past hg fun v b c _ hb hc => ?_
  have hnext : rest c <:+ rest b := (hg b (rest b)).suffix ((congrArg g (leave_rest b)).trans hc)
  exact hnext.trans hb

theorem map {g : β → γ} (hf : AgreesAt kept f u) (hrest : ∀ b, rest (g b) = rest b)
    (hleave : ∀ r b, g (leave r b) = leave r (g b)) :
    AgreesAt kept (fun cs => (f cs).map g) u := by
  cases hf with
  | same b hb hread hmore =>
    exact .same (g b) (by rwa [hrest]) (by rw [hread, Option.map_some])
      fun v => by rw [hmore v, Option.map_some, hleave, hrest]
  | hidden b hb hread hmore =>
    exact .hidden (g b) (by rwa [hrest]) (by rw [hread, Option.map_some])
      fun v hv => by rw [hmore v hv, Option.map_some]
  | failed hread hmore =>
    refine .failed (by rw [hread, Option.map_none]) fun v c hv h => ?_
    obtain ⟨b, hb, rfl⟩ := Option.map_eq_some_iff.1 h
    rw [hrest]
    exact hmore v b hv hb

end AgreesAt

namespace Local

theorem suffix {f : List Char → Option β} {cs : List Char} {b : β} (h : Local kept f)
    (hb : f cs = some b) : rest b <:+ cs := (h cs).suffix hb

/-- One reader after the other. -/
theorem bind {f : List Char → Option β} {g : β → Option γ} (hf : Local kept f)
    (hg : ∀ b, Local kept fun r => g (leave r b)) : Local kept fun cs => f cs >>= g :=
  fun u => (hf u).bind hg

theorem none : Local kept fun _ => (Option.none : Option β) := fun _ => .of_none rfl fun _ => rfl

/-- Nothing is read. -/
theorem keep : Local kept (some : List Char → Option (List Char)) :=
  fun u => .same u (List.suffix_refl u) rfl fun _ => rfl

theorem map {f : List Char → Option β} {g : β → γ} (hf : Local kept f)
    (hrest : ∀ b, rest (g b) = rest b) (hleave : ∀ r b, g (leave r b) = leave r (g b)) :
    Local kept fun cs => (f cs).map g := fun u => (hf u).map hrest hleave

/-- An answer that is known before, with the text that is left. -/
theorem pair {f : List Char → Option β} (hf : Local kept f) (a : α) :
    Local kept fun cs => (f cs).map fun b => (a, b) := hf.map (fun _ => rfl) fun _ _ => rfl

theorem answer (a : α) : Local kept fun cs => some (a, cs) := keep.pair a

theorem ite {c : Prop} [Decidable c] {f g : List Char → Option β} (hf : Local kept f)
    (hg : Local kept g) : Local kept fun cs => if c then f cs else g cs := by
  split
  · exact hf
  · exact hg

/-- First something is found that does not depend on the text. -/
theorem found {x : Option α} {g : α → List Char → Option β} (hg : ∀ a, Local kept (g a)) :
    Local kept fun cs => x >>= fun a => g a cs := by
  cases x with
  | none => exact none
  | some a => exact hg a

/-- A reader that is given as many steps as the text has characters, and some more, if more steps
than that make no difference. -/
theorem fueled {f : Nat → List Char → Option β} (k : Nat) (hf : ∀ n, Local kept (f n))
    (hmore : ∀ n m cs, cs.length + k ≤ n → n ≤ m → f n cs = f m cs) :
    Local kept fun cs => f (cs.length + k) cs := by
  intro u
  -- on both texts the steps for the longer one do
  have hlong (v : List Char) : f (u.length + k) u = f ((u ++ ')' :: v).length + k) u :=
    hmore _ _ u (Nat.le_refl _) (by simp)
  have hbracket (v : List Char) : f ((u ++ [')']).length + k) (u ++ [')']) =
      f ((u ++ ')' :: v).length + k) (u ++ [')']) :=
    hmore _ _ _ (Nat.le_refl _) (by simp)
  cases hread : f (u.length + k) u with
  | none =>
    refine .failed hread fun v b hv hb => ?_
    exact (hf ((u ++ ')' :: v).length + k) u).suffix_of_none ((hlong v).symm.trans hread) hv hb
  | some b =>
    have hcases (v : List Char) := (hf ((u ++ ')' :: v).length + k) u).hidden_or_same
      ((hlong v).symm.trans hread)
    -- what happens with just the bracket after the text happens with every text after it
    by_cases hhidden : f ((u ++ [')']).length + k) (u ++ [')']) = some b
    · have hall (v : List Char) := (hcases v).resolve_right fun hsame =>
        hsame.2.1 ((hbracket v).symm.trans hhidden)
      exact .hidden b (hall []).1 hread fun v hv => (hall v).2.2 v hv
    · have hall (v : List Char) := (hcases v).resolve_left fun hcomment =>
        hhidden ((hbracket v).trans hcomment.2.1)
      exact .same b (hall []).1 hread fun v => (hall v).2.2 v

end Local

end

/-! ## Ends of texts -/

/-- What is left of the end of a text, if it is not all of it, has not got the character before. -/
theorem suffix_of_shorter {r cs v : List Char} {c : Char} (h : r <:+ cs)
    (hless : r.length < cs.length) (hcs : cs <:+ c :: v) : r <:+ v := by
  rcases List.suffix_cons_iff.1 (h.trans hcs) with hall | hr
  · have hle := hcs.length_le
    rw [hall] at hless
    omega
  · exact hr

/-! ## Texts up to a character -/

section

variable {c : Char} {name : List Char}

theorem takeWhile_append_mark (h : c ∉ name) (more : List Char) :
    (name ++ more).takeWhile (· != c) = name ++ more.takeWhile (· != c) := by
  refine List.takeWhile_append_of_pos fun d hd => bne_iff_ne.2 ?_
  rintro rfl
  exact h hd

theorem takeWhile_mark (h : c ∉ name) (more : List Char) :
    (name ++ c :: more).takeWhile (· != c) = name := by
  simp [takeWhile_append_mark h]

theorem mem_takeWhile_close (h : c ∉ name) (hc : c ≠ ')') (more : List Char) :
    ')' ∈ (name ++ ')' :: more).takeWhile (· != c) := by
  simp [takeWhile_append_mark h, Ne.symm hc]

end

/-! ## Blanks and comments -/

theorem dropSpace_suffix (comment : Bool) (cs : List Char) : dropSpace comment cs <:+ cs := by
  induction cs generalizing comment with
  | nil => exact List.suffix_refl []
  | cons c cs ih =>
    unfold dropSpace
    split
    · exact (ih _).trans (List.suffix_cons c cs)
    · split
      · exact (ih _).trans (List.suffix_cons c cs)
      · split
        · exact (ih _).trans (List.suffix_cons c cs)
        · exact List.suffix_refl _

/-- A comment goes on to the end of the line. -/
theorem dropSpace_comment {v : List Char} (h : '\n' ∉ v) : dropSpace true v = [] := by
  induction v with
  | nil => rfl
  | cons c v ih =>
    obtain ⟨hc, hv⟩ := not_or.1 (mt List.mem_cons.2 h)
    simp only [dropSpace, if_true]
    rw [bne_iff_ne.2 (Ne.symm hc)]
    exact ih hv

/-- The closing bracket after a text is in a comment, or it stays. -/
theorem dropSpace_append (comment : Bool) (u : List Char) :
    dropSpace comment u = [] ∧ (∀ v, '\n' ∉ v → dropSpace comment (u ++ ')' :: v) = []) ∨
      ∀ v, dropSpace comment (u ++ ')' :: v) = dropSpace comment u ++ ')' :: v := by
  induction u generalizing comment with
  | nil =>
    cases comment with
    | true =>
      have hline {v : List Char} (hv : '\n' ∉ v) : '\n' ∉ ')' :: v := by simpa using hv
      exact .inl ⟨rfl, fun v hv => dropSpace_comment (hline hv)⟩
    | false => exact .inr fun _ => rfl
  | cons c u ih =>
    simp only [List.cons_append, dropSpace]
    split
    · exact ih _
    · split
      · exact ih _
      · split
        · exact ih _
        · exact .inr fun _ => rfl

theorem dropSpace_head {comment : Bool} {cs more : List Char} {c : Char}
    (h : dropSpace comment cs = c :: more) : Text.isBlank c = false ∧ c ≠ '#' := by
  induction cs generalizing comment with
  | nil => cases h
  | cons d cs ih =>
    unfold dropSpace at h
    split at h
    · exact ih h
    · split at h
      · exact ih h
      · split at h
        · exact ih h
        · rename_i hblank hmark
          cases h
          exact ⟨Bool.eq_false_iff.2 hblank, hmark⟩

theorem dropSpace_cons {c : Char} (h : Text.isBlank c = false ∧ c ≠ '#') (cs : List Char) :
    dropSpace false (c :: cs) = c :: cs := by
  simp [dropSpace, h.1, h.2]

theorem dropSpace_dropSpace (comment : Bool) (cs : List Char) :
    dropSpace false (dropSpace comment cs) = dropSpace comment cs := by
  cases h : dropSpace comment cs with
  | nil => rfl
  | cons c more => exact dropSpace_cons (dropSpace_head h) more

namespace Flags

@[simp] theorem skip_nil (flags : Flags) : flags.skip [] = [] := by
  unfold skip
  split <;> rfl

@[simp] theorem skip_skip (flags : Flags) (cs : List Char) :
    flags.skip (flags.skip cs) = flags.skip cs := by
  unfold skip
  split
  · exact dropSpace_dropSpace false cs
  · rfl

theorem skip_suffix (flags : Flags) (cs : List Char) : flags.skip cs <:+ cs := by
  unfold skip
  split
  · exact dropSpace_suffix false cs
  · exact List.suffix_refl cs

theorem length_skip_le (flags : Flags) (cs : List Char) : (flags.skip cs).length ≤ cs.length :=
  (flags.skip_suffix cs).length_le

/-- A character that is neither a blank nor the start of a comment is where the text goes on. -/
def Counts (flags : Flags) (c : Char) : Prop := ∀ cs, flags.skip (c :: cs) = c :: cs

theorem counts_close (flags : Flags) : flags.Counts ')' := by
  intro cs
  unfold skip
  split <;> rfl

theorem counts_of_skip {flags : Flags} {c : Char} {cs more : List Char}
    (h : flags.skip cs = c :: more) : flags.Counts c := by
  intro rest
  unfold skip at h ⊢
  split
  · rename_i hspaced
    rw [if_pos hspaced] at h
    exact dropSpace_cons (dropSpace_head h) rest
  · rfl

/-- The closing bracket after a text is passed over in a comment, or stays. -/
theorem skip_append (flags : Flags) (u : List Char) :
    flags.skip u = [] ∧ (∀ v, '\n' ∉ v → flags.skip (u ++ ')' :: v) = []) ∨
      ∀ v, flags.skip (u ++ ')' :: v) = flags.skip u ++ ')' :: v := by
  unfold skip
  split
  · exact dropSpace_append false u
  · exact .inr fun _ => rfl

/-- Where a text goes on after blanks, a longer one goes on too. -/
theorem skip_longer {flags : Flags} {u more : List Char} {c : Char}
    (h : flags.skip u = c :: more) (v : List Char) :
    flags.skip (u ++ ')' :: v) = c :: (more ++ ')' :: v) := by
  rcases flags.skip_append u with ⟨hempty, -⟩ | hsame
  · cases hempty.symm.trans h
  · rw [hsame v, h]
    rfl

end Flags

variable {kept : List Char}

theorem skip_local (flags : Flags) : Local kept fun cs => some (flags.skip cs) := by
  intro u
  rcases flags.skip_append u with ⟨hempty, hhidden⟩ | hsame
  · exact .hidden [] rfl (by rw [hempty]) fun v hv => by rw [hhidden v hv]
  · exact .same (flags.skip u) (flags.skip_suffix u) rfl fun v => by rw [hsame v]; rfl

section

variable {β : Type} [Leaves β] {f : List Char → Option β}

/-- A reader of what a first one leaves that only passes over text. -/
theorem Local.after {g : List Char → List Char} (hf : Local kept f)
    (hg : Local kept fun cs => some (g cs)) : Local kept fun cs => f (g cs) :=
  hg.bind fun _ => hf

/-- A reader after blanks and comments. -/
theorem Local.skipped (hf : Local kept f) (flags : Flags) :
    Local kept fun cs => f (flags.skip cs) := hf.after (skip_local flags)

/-- After a first character the reader does what another one does. -/
theorem Local.takes {g : List Char → Option β} {c : Char} (hg : Local kept g)
    (h : ∀ cs, f (c :: cs) = g cs) (u : List Char) : AgreesAt kept f (c :: u) :=
  (hg u).congr (List.suffix_cons c u) (h u) fun _ => h _

/-- On texts with a first character the reader does what another one does. -/
theorem Local.again {g : List Char → Option β} {c : Char} (hg : Local kept g)
    (h : ∀ cs, f (c :: cs) = g (c :: cs)) (u : List Char) : AgreesAt kept f (c :: u) :=
  (hg (c :: u)).congr (List.suffix_refl _) (h u) fun _ => h _

/-- Blanks and comments before what is read do not count, and what is read depends on the character
that it starts with. -/
theorem Local.of_cons (flags : Flags) (hskip : ∀ cs, f (flags.skip cs) = f cs)
    (hnil : AgreesAt kept f []) (hcons : ∀ c, flags.Counts c → ∀ u, AgreesAt kept f (c :: u)) :
    Local kept f := by
  intro u
  rcases flags.skip_append u with ⟨hempty, hhidden⟩ | hsame
  · have hu : f u = f [] := by rw [← hskip, hempty]
    have hv (v : List Char) (h : '\n' ∉ v) : f (u ++ ')' :: v) = f [] := by
      rw [← hskip, hhidden v h]
    cases hread : f [] with
    | none =>
      refine .failed (hu.trans hread) fun v b h hb => ?_
      cases ((hv v h).trans hread).symm.trans hb
    | some b =>
      exact .hidden b (List.suffix_nil.1 (hnil.suffix hread)) (hu.trans hread)
        fun v h => (hv v h).trans hread
  · have hread : AgreesAt kept f (flags.skip u) := by
      cases hw : flags.skip u with
      | nil => exact hnil
      | cons c w => exact hcons c (Flags.counts_of_skip hw) w
    exact hread.congr (flags.skip_suffix u) (hskip u).symm fun v => by rw [← hskip, hsame v]

/-- A reader that takes the character that it starts with, whichever it is. -/
theorem Local.uncons (flags : Flags) (hskip : ∀ cs, f (flags.skip cs) = f cs)
    (hnil : f [] = Option.none)
    (hcons : ∀ c, flags.Counts c → Local kept fun cs => f (c :: cs)) : Local kept f := by
  refine .of_cons flags hskip (.failed hnil fun v b _ hb => ?_) fun c hc u => ?_
  · exact ((hcons ')' flags.counts_close).suffix hb).trans (List.suffix_append kept v)
  · exact (hcons c hc).takes (fun _ => rfl) u

end

/-- A closing bracket is no blank. -/
theorem dropBlank_append (u v : List Char) :
    (u ++ ')' :: v).dropWhile Text.isBlank = u.dropWhile Text.isBlank ++ ')' :: v := by
  have hclose : (')' :: v).dropWhile Text.isBlank = ')' :: v := rfl
  rw [List.dropWhile_append, hclose]
  split
  · rename_i hempty
    rw [List.isEmpty_iff.1 hempty, List.nil_append]
  · rfl

theorem dropBlank_local : Local kept fun cs => some (cs.dropWhile Text.isBlank) :=
  fun u => .same _ (List.dropWhile_suffix _) rfl fun v => congrArg some (dropBlank_append u v)

end AccessControl.Regex
