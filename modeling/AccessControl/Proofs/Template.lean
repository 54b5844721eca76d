/-
Templates match whole values, as long as the text between their brackets keeps to itself: if each
expression is one group when it stands alone, then every value that matches starts with the text
before the first expression and ends with the text after the last one (`matching_whole`). An
expression that ends its own group can take the anchors away (`matching_unanchored`).
-/
import AccessControl.Proofs.Matcher
import AccessControl.Proofs.Regex.Written

namespace AccessControl

namespace Template

open Regex Regex.Parser

/-! ## Pieces -/

/-- The text before the first expression. -/
def opening (template : String) : List Char := template.toList.takeWhile (· != '<')

/-- The text after the last expression, or all text of a template without expressions. -/
def closing (template : String) : List Char :=
  match (pieces? template).bind List.getLast? with
  | some (.literal text) => text
  | _ => []

/-- The piece as it stands in its template. -/
def Piece.text : Piece → List Char
  | literal text => text
  | expression text => '<' :: text ++ ['>']

/-- The pieces are the template, cut. -/
theorem piecesFrom_text {depth : Nat} {piece cs : List Char} {pieces : List Piece}
    (h : piecesFrom depth piece cs = some pieces) :
    pieces.flatMap Piece.text = (if depth = 0 then [] else ['<']) ++ piece.reverse ++ cs := by
  fun_induction piecesFrom depth piece cs generalizing pieces
  case case1 piece =>
    cases h
    simp [Piece.text]
  case case2 => cases h
  case case3 piece rest ih =>
    obtain ⟨more, hmore, rfl⟩ := Option.map_eq_some_iff.1 h
    simp [Piece.text, ih hmore]
  case case4 piece c rest hopen ih => simp [ih h]
  case case5 depth piece rest ih => simp [ih h]
  case case6 depth piece c rest hopen hclose ih => simp [ih h]
  case case7 piece c rest hopen hclose ih =>
    obtain ⟨more, hmore, rfl⟩ := Option.map_eq_some_iff.1 h
    cases Decidable.not_not.1 hclose
    simp [Piece.text, ih hmore]
  case case8 depth piece c rest hopen hclose hdepth ih => simp [ih h, hdepth]

theorem piecesFrom_last {depth : Nat} {piece cs : List Char} {pieces : List Piece}
    (h : piecesFrom depth piece cs = some pieces) :
    ∃ before text, pieces = before ++ [.literal text] := by
  fun_induction piecesFrom depth piece cs generalizing pieces
  case case1 piece =>
    cases h
    exact ⟨[], piece.reverse, rfl⟩
  case case2 => cases h
  case case3 piece rest ih =>
    obtain ⟨more, hmore, rfl⟩ := Option.map_eq_some_iff.1 h
    obtain ⟨before, text, rfl⟩ := ih hmore
    exact ⟨.literal piece.reverse :: before, text, rfl⟩
  case case4 ih => exact ih h
  case case5 ih => exact ih h
  case case6 ih => exact ih h
  case case7 piece c rest hopen hclose ih =>
    obtain ⟨more, hmore, rfl⟩ := Option.map_eq_some_iff.1 h
    obtain ⟨before, text, rfl⟩ := ih hmore
    exact ⟨.expression piece.reverse :: before, text, rfl⟩
  case case8 ih => exact ih h

/-- The first piece is the text before the first bracket. -/
theorem piecesFrom_opening {piece cs : List Char} {pieces : List Piece}
    (h : piecesFrom 0 piece cs = some pieces) (hopen : '<' ∈ cs) :
    ∃ more rest, piecesFrom 1 [] rest = some more ∧
      pieces = .literal (piece.reverse ++ cs.takeWhile (· != '<')) :: more := by
  induction cs generalizing piece with
  | nil => cases hopen
  | cons c rest ih =>
    unfold piecesFrom at h
    split at h
    · rename_i hc
      obtain ⟨more, hmore, rfl⟩ := Option.map_eq_some_iff.1 h
      exact ⟨more, rest, hmore, by simp [hc]⟩
    · rename_i hc
      obtain ⟨more, rest', hmore, hpieces⟩ := ih h (by simpa [Ne.symm hc] using hopen)
      exact ⟨more, rest', hmore, by simp [hpieces, hc]⟩

/-- A template with an opening bracket starts and ends with literal text, and what is between makes
up the rest of it. -/
theorem pieces?_ends {template : String} {pieces : List Piece} (h : pieces? template = some pieces)
    (hopen : isLiteral template = false) :
    ∃ middle, pieces = .literal (opening template) :: middle ++ [.literal (closing template)] ∧
      template.toList = opening template ++ middle.flatMap Piece.text ++ closing template := by
  have hmem : '<' ∈ template.toList := by simpa [isLiteral] using hopen
  obtain ⟨more, rest, hmore, hpieces⟩ := piecesFrom_opening h hmem
  obtain ⟨middle, text, rfl⟩ := piecesFrom_last hmore
  have hclosing : closing template = text := by
    simp [closing, h, hpieces, List.getLast?_cons]
  have hends : pieces = .literal (opening template) :: middle ++ [.literal (closing template)] := by
    rw [hpieces, hclosing]
    rfl
  refine ⟨middle, hends, ?_⟩
  simpa [hends, Piece.text] using (piecesFrom_text h).symm

/-! ## Expressions of templates -/

/-- Whether the expression between the brackets is a single group when it stands alone. -/
def Piece.grouped : Piece → Bool
  | literal _ => true
  | expression text =>
    match read? (source (expression text)).toList with
    | some (.group _ _) => true
    | _ => false

/-- Whether no expression of the template ends its own group or hides the end of it. -/
def grouped (template : String) : Bool := (pieces? template).all (·.all Piece.grouped)

theorem expression_source (text : List Char) :
    (Piece.source (.expression text)).toList = '(' :: '?' :: ':' :: (text ++ [')']) := by
  simp [Piece.source]

/-- What the pieces add to an expression: the characters of literals, and one part for each
expression. -/
inductive Makes : List Piece → List Node → Prop
  | nil : Makes [] []
  | literal {pieces : List Piece} {nodes : List Node} (text : List Char) (rest : Makes pieces nodes) :
    Makes (.literal text :: pieces) (Node.characters text ++ nodes)
  | expression {pieces : List Piece} {nodes : List Node} (text : List Char) (node : Node)
    (rest : Makes pieces nodes) : Makes (.expression text :: pieces) (node :: nodes)

theorem Makes.append {first second : List Piece} {nodes : List Node}
    (h : Makes (first ++ second) nodes) :
    ∃ before after, nodes = before ++ after ∧ Makes first before ∧ Makes second after := by
  induction first generalizing nodes with
  | nil => exact ⟨[], nodes, rfl, .nil, h⟩
  | cons piece first ih =>
    cases h with
    | literal text rest =>
      obtain ⟨before, after, rfl, hfirst, hsecond⟩ := ih rest
      exact ⟨_, after, (List.append_assoc _ _ _).symm, .literal text hfirst, hsecond⟩
    | expression text node rest =>
      obtain ⟨before, after, rfl, hfirst, hsecond⟩ := ih rest
      exact ⟨_, after, rfl, .expression text node hfirst, hsecond⟩

theorem reads_pieces {s : State} {pieces : List Piece} {cs : List Char} {part : Part}
    (hflags : s.flags = .initial) (hgrouped : pieces.all Piece.grouped = true)
    (h : Reads s (pieces.flatMap (·.source.toList) ++ cs) part) :
    ∃ parts t, Makes pieces (parts.map Part.node) ∧ Adds s parts t ∧ Reads t cs part := by
  induction pieces generalizing s with
  | nil => exact ⟨[], s, .nil, .refl s, h⟩
  | cons piece pieces ih =>
    rw [List.flatMap_cons, List.append_assoc] at h
    rw [List.all_cons, Bool.and_eq_true] at hgrouped
    obtain ⟨hpiece, hpieces⟩ := hgrouped
    cases piece with
    | literal text =>
      obtain ⟨t, hfirst, next⟩ := Reads.literal hflags h
      obtain ⟨parts, u, hmakes, hrest, last⟩ := ih (hfirst.2.1.trans hflags) hpieces next
      refine ⟨text.map Part.ofChar ++ parts, u, ?_, hfirst.trans hrest, last⟩
      rw [List.map_append, nodes_ofChar]
      exact .literal text hmakes
    | expression text =>
      rw [expression_source] at h
      simp only [Piece.grouped, expression_source] at hpiece
      split at hpiece
      · rename_i number body halone
        obtain ⟨p, t, hfirst, next⟩ := Reads.group hflags halone (by simpa using h)
        obtain ⟨parts, u, hmakes, hrest, last⟩ := ih (hfirst.2.1.trans hflags) hpieces next
        exact ⟨p :: parts, u, .expression text p.node hmakes, hfirst.trans hrest, last⟩
      · cases hpiece

/-- Between the anchors stands what the pieces add. -/
theorem read?_source {pieces : List Piece} {node : Node}
    (hgrouped : pieces.all Piece.grouped = true) (h : read? (source pieces).toList = some node) :
    ∃ nodes, Makes pieces nodes ∧
      node = .sequence (.look .textStart :: nodes ++ [.look .textEnd]) := by
  -- the run goes through the source piece by piece, and the parts that it adds are put together
  have hsource : (source pieces).toList = '^' :: (pieces.flatMap (·.source.toList) ++ ['$']) := by
    simp [source, List.flatMap_map]
  rw [hsource] at h
  obtain ⟨part, hread, rfl⟩ := reads_of_read? h
  have hread := hread.after rfl (step?_start rfl _)
  have hs := adds_pushNode .initial (.look .textStart)
  obtain ⟨parts, t, hmakes, hpieces, hread⟩ := reads_pieces hs.2.1 hgrouped hread
  have ht := hs.trans hpieces
  have hread := hread.after ht.2.1 (step?_end ht.2.1 _)
  have hall := ht.trans (adds_pushNode t (.look .textEnd))
  refine ⟨parts.map Part.node, hmakes, ?_⟩
  rw [hread.ended, hall.close (by simp only [List.length_append, List.length_singleton]; omega)]
  simp

/-- A template that compiles is balanced, and its source writes the expression. -/
theorem compile_ok {template : String} {r : Regex} (h : compile template = .ok r) :
    ∃ pieces, pieces? template = some pieces ∧ read? (source pieces).toList = some r.node := by
  unfold compile at h
  split at h
  · cases h
  · rename_i pieces hpieces
    split at h
    · rename_i r' hr
      cases h
      unfold Regex.ofText? at hr
      split at hr
      · rename_i node hnode
        split at hr
        · cases hr
          exact ⟨pieces, hpieces, hnode⟩
        · cases hr
      · cases hr
    · cases h

theorem compile_grouped {template : String} {r : Regex} (h : compile template = .ok r)
    (hopen : isLiteral template = false) (hgrouped : grouped template = true) :
    ∃ nodes, r.node = .sequence (.look .textStart ::
      (Node.characters (opening template) ++ nodes ++ Node.characters (closing template)) ++
        [.look .textEnd]) := by
  obtain ⟨pieces, hpieces, hread⟩ := compile_ok h
  obtain ⟨middle, rfl, -⟩ := pieces?_ends hpieces hopen
  rw [grouped, hpieces, Option.all_some] at hgrouped
  obtain ⟨nodes, hmakes, hnode⟩ := read?_source hgrouped hread
  obtain ⟨before, after, rfl, hbefore, hafter⟩ := hmakes.append
  cases hbefore with
  | literal _ hmiddle =>
    cases hafter with
    | literal _ hnil =>
      cases hnil
      exact ⟨_, by rw [hnode, List.append_nil]⟩

end Template

/-! ## Values -/

namespace Matcher

open Template

/-- The cache after templates have been matched against values. -/
def after (history : List (String × String)) : Matcher :=
  history.foldl (fun cache made => (run (matching made.1 made.2) cache).2) []

theorem after_sound (history : List (String × String)) : (after history).Sound :=
  .foldl (fun made : String × String => matching_computes made.1 made.2) history sound_nil

/-- A template matches whole values, whatever has been matched before: if its expressions keep to
themselves, a value that matches starts with the text before the first one and ends with the text
after the last one. -/
theorem matching_whole (history : List (String × String)) {template value : String}
    (hopen : isLiteral template = false) (hgrouped : grouped template = true)
    (h : (run (matching template value) (after history)).1 = .ok true) :
    ∃ between, value.toList = opening template ++ between ++ closing template := by
  rw [(matching_computes template value _ (after_sound history)).1, plain, hopen] at h
  split at h
  · contradiction
  · cases hcompile : compile template with
    | error fault =>
      rw [hcompile] at h
      cases h
    | ok r =>
      rw [hcompile] at h
      obtain ⟨nodes, hnode⟩ := compile_grouped hcompile hopen hgrouped
      have hoccurs : r.node.occursIn value.toList = true := Except.ok.inj h
      rw [hnode] at hoccurs
      exact Regex.Node.occursIn_anchored hoccurs

/-- An expression of digits keeps to itself. -/
theorem matching_whole_digits :
    ∃ between, "urn:iam::user/123".toList =
      opening "urn:iam::user/<[0-9]+>" ++ between ++ closing "urn:iam::user/<[0-9]+>" :=
  matching_whole [("group/<[a-z]+>", "group/x")] (by decide) (by decide +kernel) (by decide +kernel)

/-- An expression that ends its own group leaves a branch without anchors. -/
theorem matching_unanchored :
    isLiteral "user:<ada)|(?:bob>" = false ∧
      (run (matching "user:<ada)|(?:bob>" "admin:bob") (after [])).1 = .ok true ∧
        ¬ opening "user:<ada)|(?:bob>" <+: "admin:bob".toList := by
  decide +kernel

end Matcher

end AccessControl
