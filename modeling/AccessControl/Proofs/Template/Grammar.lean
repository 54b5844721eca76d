/-
The grammar of templates. A template is literal text with expressions between angle brackets, and
inside of an expression the brackets are balanced. Main statement: the templates that have this form
are just those that are not refused as unbalanced, each has it in one way only, and it is what the
expression of the template is made of (`compile_grammar`).
-/
import AccessControl.Proofs.Template

namespace AccessControl.Template

/-! ## Balanced text -/

/-- No beginning of the text closes more brackets than it opens, and of those that the whole text
opens so many stay open. -/
structure Opens (depth : Nat) (text : List Char) : Prop where
  beginnings : ∀ before, before <+: text → before.count '>' ≤ before.count '<'
  remain : text.count '<' = text.count '>' + depth

/-- All brackets are closed, and none before it is opened. -/
abbrev Balanced (text : List Char) : Prop := Opens 0 text

section Opens

variable {depth later : Nat} {text : List Char} {c : Char}

theorem opens_nil : Opens 0 [] := by
  refine ⟨fun before h => ?_, rfl⟩
  rw [List.prefix_nil.1 h]
  exact Nat.le_refl _

/-- The number of open brackets decides whether one more character may follow. -/
theorem Opens.concat (h : Opens depth text)
    (hlater : (text ++ [c]).count '<' = (text ++ [c]).count '>' + later) :
    Opens later (text ++ [c]) := by
  refine ⟨fun before hbefore => ?_, hlater⟩
  rcases List.prefix_concat_iff.1 hbefore with rfl | hbefore
  · omega
  · exact h.beginnings before hbefore

theorem Opens.opened (h : Opens depth text) : Opens (depth + 1) (text ++ ['<']) :=
  h.concat (by simp [h.remain]; omega)

theorem Opens.closed (h : Opens (depth + 1) text) : Opens depth (text ++ ['>']) :=
  h.concat (by simp [h.remain]; omega)

theorem Opens.other (h : Opens depth text) (hopen : c ≠ '<') (hclose : c ≠ '>') :
    Opens depth (text ++ [c]) :=
  h.concat (by simp [h.remain, hopen, hclose])

/-- A bracket can be closed only if one is open. -/
theorem Opens.pos_of_closed {rest : List Char} (h : Opens depth text)
    (hall : Balanced (text ++ '>' :: rest)) : 0 < depth := by
  have hle : (text ++ ['>']).count '>' ≤ (text ++ ['>']).count '<' :=
    hall.beginnings _ ⟨rest, (List.append_cons ..).symm⟩
  have hself : ['>'].count '>' = 1 := rfl
  have hother : ['>'].count '<' = 0 := rfl
  rw [List.count_append, List.count_append, h.remain, hself, hother] at hle
  omega

end Opens

/-! ## Forms -/

/-- How a template is composed: literals, in which no bracket opens, and balanced expressions in
turn. -/
inductive Form
  | literal (text : List Char) (plain : '<' ∉ text)
  | expression (before : List Char) (plain : '<' ∉ before) (text : List Char)
    (balanced : Balanced text) (rest : Form)

namespace Form

/-- The template with this form. -/
def text : Form → List Char
  | literal text _ => text
  | expression before _ text _ rest => before ++ '<' :: text ++ '>' :: rest.text

/-- The text between the anchors of the expression: literals escaped, expressions grouped. -/
def body : Form → String
  | literal text _ => Regex.escape (String.ofList text)
  | expression before _ text _ rest =>
    Regex.escape (String.ofList before) ++ ("(?:" ++ String.ofList text ++ ")") ++ rest.body

/-- The text of the whole expression. -/
def source (form : Form) : String := "^" ++ form.body ++ "$"

def pieces : Form → List Piece
  | literal text _ => [.literal text]
  | expression before _ text _ rest => .literal before :: .expression text :: rest.pieces

theorem text_pieces (form : Form) : form.pieces.flatMap Piece.text = form.text := by
  induction form with
  | literal text plain => simp [pieces, Form.text, Piece.text]
  | expression before plain text balanced rest ih => simp [pieces, Form.text, Piece.text, ih]

theorem join_pieces (form : Form) : String.join (form.pieces.map Piece.source) = form.body := by
  apply String.toList_inj.1
  induction form with
  | literal text plain => simp [pieces, body, Piece.source]
  | expression before plain text balanced rest ih =>
    have ih := by simpa using ih
    simp [pieces, body, Piece.source, ih]

theorem source_pieces (form : Form) : Template.source form.pieces = form.source := by
  rw [Template.source, join_pieces, Form.source]

theorem pieces_injective {form other : Form} (h : form.pieces = other.pieces) : form = other := by
  induction form generalizing other with
  | literal text plain =>
    cases other with
    | literal => simpa [pieces] using h
    | expression => simp [pieces] at h
  | expression before plain text balanced rest ih =>
    cases other with
    | literal => simp [pieces] at h
    | expression =>
      simp only [pieces, List.cons.injEq, Piece.literal.injEq, Piece.expression.injEq] at h
      obtain ⟨rfl, rfl, h⟩ := h
      rw [ih h]

end Form

/-! ## Scanning -/

/-- Literal text is read up to its end. -/
theorem piecesFrom_plain {piece text rest : List Char} (h : '<' ∉ text) :
    piecesFrom 0 piece (text ++ rest) = piecesFrom 0 (text.reverse ++ piece) rest := by
  induction text generalizing piece with
  | nil => rfl
  | cons c text ih =>
    rw [List.mem_cons, not_or] at h
    rw [List.cons_append, piecesFrom, if_neg (Ne.symm h.1), ih h.2, List.reverse_cons,
      List.append_assoc, List.singleton_append]

/-- A balanced expression is read up to the bracket that closes it. -/
theorem piecesFrom_balanced {depth : Nat} {piece text rest : List Char}
    (h : Opens depth piece.reverse) (hall : Balanced (piece.reverse ++ text)) :
    piecesFrom (depth + 1) piece (text ++ '>' :: rest) =
      (piecesFrom 0 [] rest).map (.expression (piece.reverse ++ text) :: ·) := by
  induction text generalizing depth piece with
  | nil =>
    have hdepth : depth = 0 := by
      have hread := h.remain
      have hend := hall.remain
      rw [List.append_nil] at hend
      omega
    subst hdepth
    simp [piecesFrom]
  | cons c text ih =>
    -- whatever the character is, it becomes a part of the expression; only the depth differs
    have hnext {depth : Nat} (h : Opens depth (piece.reverse ++ [c])) :
        piecesFrom (depth + 1) (c :: piece) (text ++ '>' :: rest) =
          (piecesFrom 0 [] rest).map (.expression (piece.reverse ++ c :: text) :: ·) := by
      have hread := @ih depth (c :: piece) (by simpa using h) (by simpa using hall)
      simpa using hread
    rw [List.cons_append, piecesFrom]
    by_cases hopen : c = '<'
    · subst hopen
      rw [if_pos rfl, hnext h.opened]
    · by_cases hclose : c = '>'
      · subst hclose
        obtain ⟨outer, rfl⟩ := Nat.exists_eq_add_of_lt (h.pos_of_closed hall)
        rw [Nat.zero_add] at h ⊢
        simp [hnext h.closed]
      · rw [if_neg hopen, if_pos hclose, hnext (h.other hopen hclose)]

/-- Scanning a template finds its form. -/
theorem piecesFrom_form (form : Form) : piecesFrom 0 [] form.text = some form.pieces := by
  induction form with
  | literal text plain =>
    have hread := @piecesFrom_plain [] text [] plain
    rw [List.append_nil, List.append_nil] at hread
    rw [Form.text, hread, piecesFrom, List.reverse_reverse, Form.pieces]
  | expression before plain text balanced rest ih =>
    have hread := @piecesFrom_balanced 0 [] text rest.text opens_nil balanced
    rw [Form.text, List.append_assoc, piecesFrom_plain plain, List.cons_append, piecesFrom,
      if_pos rfl, hread, ih]
    simp [Form.pieces]

/-- What may have been read of a piece, `depth` brackets deep. -/
def Pending : Nat → List Char → Prop
  | 0, text => '<' ∉ text
  | depth + 1, text => Opens depth text

/-- What the pieces from there on may be: at first the rest of an expression, if one is open. -/
def Completes : Nat → List Piece → Prop
  | 0, pieces => ∃ form : Form, form.pieces = pieces
  | _ + 1, pieces => ∃ (text : List Char) (form : Form), Balanced text ∧
      .expression text :: form.pieces = pieces

/-- Scanning finds nothing but forms. -/
theorem completes_piecesFrom {depth : Nat} {piece cs : List Char} {pieces : List Piece}
    (h : piecesFrom depth piece cs = some pieces) (hread : Pending depth piece.reverse) :
    Completes depth pieces := by
  -- the last piece is a literal, so a form is built from its end: each bracket that opens adds
  -- the literal before it to the expression and the form that the induction gives
  fun_induction piecesFrom depth piece cs generalizing pieces
  case case1 piece =>
    cases h
    exact ⟨.literal piece.reverse hread, rfl⟩
  case case2 => cases h
  case case3 piece rest ih =>
    obtain ⟨more, hmore, rfl⟩ := Option.map_eq_some_iff.1 h
    obtain ⟨text, form, hbalanced, rfl⟩ := ih hmore opens_nil
    exact ⟨.expression piece.reverse hread text hbalanced form, rfl⟩
  case case4 piece c rest hopen ih =>
    refine ih h ?_
    rw [List.reverse_cons]
    exact fun hmem => (List.mem_append.1 hmem).elim hread fun hc =>
      hopen (List.mem_singleton.1 hc).symm
  case case5 depth piece rest ih =>
    refine ih h ?_
    rw [List.reverse_cons]
    exact hread.opened
  case case6 depth piece c rest hopen hclose ih =>
    refine ih h ?_
    rw [List.reverse_cons]
    exact hread.other hopen hclose
  case case7 piece c rest hopen hclose ih =>
    obtain ⟨more, hmore, rfl⟩ := Option.map_eq_some_iff.1 h
    obtain ⟨form, rfl⟩ := ih hmore (by simp [Pending])
    exact ⟨piece.reverse, form, hread, rfl⟩
  case case8 depth piece c rest hopen hclose hdepth ih =>
    obtain ⟨outer, rfl⟩ := Nat.exists_eq_succ_of_ne_zero hdepth
    refine ih h ?_
    rw [List.reverse_cons, Decidable.not_not.1 hclose]
    exact hread.closed

/-! ## Templates -/

variable {template : String}

/-- The pieces of a template are those of its form. -/
theorem pieces?_eq_some_iff {pieces : List Piece} : pieces? template = some pieces ↔
    ∃ form : Form, form.text = template.toList ∧ form.pieces = pieces := by
  unfold pieces?
  constructor
  · intro h
    obtain ⟨form, rfl⟩ := completes_piecesFrom h (by simp [Pending])
    exact ⟨form, by simpa [form.text_pieces] using piecesFrom_text h, rfl⟩
  · rintro ⟨form, htext, rfl⟩
    rw [← htext, piecesFrom_form]

/-- A text has one form at most. -/
theorem Form.text_injective {form other : Form} (h : form.text = other.text) : form = other := by
  have hpieces := piecesFrom_form form
  rw [h, piecesFrom_form] at hpieces
  exact (Form.pieces_injective (Option.some.inj hpieces)).symm

theorem compile_form {form : Form} (h : form.text = template.toList) : compile template =
    match Regex.ofText? form.source with
    | some r => .ok r
    | none => .error (.expression template) := by
  have hpieces : pieces? template = some form.pieces := pieces?_eq_some_iff.2 ⟨form, h, rfl⟩
  cases hread : Regex.ofText? form.source <;> simp [compile, hpieces, form.source_pieces, hread]

theorem compile_unbalanced_iff : compile template = .error (.unbalanced template) ↔
    ¬ ∃ form : Form, form.text = template.toList := by
  constructor
  · rintro h ⟨form, hform⟩
    rw [compile_form hform] at h
    split at h <;> cases h
  · intro h
    have hnone : pieces? template = none := by
      refine Option.eq_none_iff_forall_ne_some.2 fun pieces hpieces => ?_
      obtain ⟨form, hform, -⟩ := pieces?_eq_some_iff.1 hpieces
      exact h ⟨form, hform⟩
    rw [compile, hnone]

theorem source_of_ofText? {source : String} {r : Regex} (h : Regex.ofText? source = some r) :
    r.source = source := by
  unfold Regex.ofText? at h
  split at h
  · split at h
    · cases h
      rfl
    · cases h
  · cases h

/-- Just the templates without a form are unbalanced. The form of every other template is unique,
and the expression is made from the literals and the expressions in it: that is the text that is
read as an expression, and the source of the expression that is read. -/
theorem compile_grammar (template : String) :
    (compile template = .error (.unbalanced template) ↔
      ¬ ∃ form : Form, form.text = template.toList) ∧
    (∀ form other : Form, form.text = template.toList → other.text = template.toList →
      form = other) ∧
    ∀ form : Form, form.text = template.toList →
      (compile template = match Regex.ofText? form.source with
        | some r => .ok r
        | none => .error (.expression template)) ∧
      ∀ r, compile template = .ok r → r.source = form.source := by
  refine ⟨compile_unbalanced_iff, fun form other h hother => ?_,
    fun form h => ⟨compile_form h, fun r hr => ?_⟩⟩
  · exact Form.text_injective (h.trans hother.symm)
  · rw [compile_form h] at hr
    split at hr
    · rename_i found hfound
      cases hr
      exact source_of_ofText? hfound
    · cases hr

/-- A bracket that closes nothing is text, and brackets inside of an expression belong to it. -/
example : pieces? "a><b<c>d>e" = some [.literal "a>".toList, .expression "b<c>d".toList,
    .literal "e".toList] := by decide

end AccessControl.Template
