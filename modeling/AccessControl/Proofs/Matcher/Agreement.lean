/-
The ways of matching agree. Calls of one matcher share its cache (`Call`, `answers`); each is
answered as a new matcher answers it, and the cache only ever holds what templates compile to. A
template without brackets is compared as text, which is what its expression does as well: the
characters of a text, escaped and between anchors, match that text alone (`literal_occursIn`).
-/
import AccessControl.Proofs.Template

namespace AccessControl

/-! ## Templates without brackets -/

namespace Template

open Regex Regex.Parser

theorem piecesFrom_literal {piece cs : List Char} (h : '<' ∉ cs) :
    piecesFrom 0 piece cs = some [.literal (piece.reverse ++ cs)] := by
  induction cs generalizing piece with
  | nil => simp [piecesFrom]
  | cons c cs ih =>
    obtain ⟨hc, hcs⟩ := not_or.1 (mt List.mem_cons.2 h)
    rw [piecesFrom, if_neg (Ne.symm hc), ih hcs, List.reverse_cons, List.append_assoc,
      List.singleton_append]

theorem pieces?_literal {template : String} (h : isLiteral template = true) :
    pieces? template = some [.literal template.toList] := by
  have hmem : '<' ∉ template.toList := by simpa [isLiteral] using h
  exact piecesFrom_literal hmem

theorem compile_literal {template : String} {r : Regex} (h : compile template = .ok r)
    (hliteral : isLiteral template = true) :
    r.node = .sequence (.look .textStart :: Node.characters template.toList ++
      [.look .textEnd]) := by
  obtain ⟨pieces, hpieces, hread⟩ := compile_ok h
  cases (pieces?_literal hliteral).symm.trans hpieces
  obtain ⟨nodes, hmakes, hnode⟩ := read?_source rfl hread
  cases hmakes with
  | literal _ hnil =>
    cases hnil
    rw [hnode, List.append_nil]

/-- The expression of a template without brackets matches the text of the template and no other. -/
theorem literal_occursIn {template : String} {r : Regex} (h : compile template = .ok r)
    (hliteral : isLiteral template = true) (value : String) :
    r.occursIn value = (template == value) := by
  have hiff : r.occursIn value = true ↔ value.toList = template.toList := by
    rw [Regex.occursIn, compile_literal h hliteral]
    exact Node.occursIn_characters
  rw [Bool.eq_iff_iff, hiff, beq_iff_eq, eq_comm, String.toList_inj]

end Template

/-! ## Calls -/

namespace Matcher

/-- A call of a matcher: whether one template matches a value, or one of several does. -/
inductive Call
  | one (template value : String)
  | any (templates : List String) (value : String)

def Call.computation : Call → Cached Bool
  | one template value => matching template value
  | any templates value => matchingAny templates value

/-- What a matcher without a cache answers. -/
def Call.plain : Call → Answer Bool
  | one template value => Template.plain template value
  | any templates value => Template.plainAny templates value

theorem call_computes (call : Call) : Computes call.computation call.plain := by
  cases call with
  | one template value => exact matching_computes template value
  | any templates value => exact matchingAny_computes templates value

/-- The answers of calls one after the other, and the cache after the last. -/
def answers : List Call → Matcher → List (Answer Bool) × Matcher
  | [], cache => ([], cache)
  | call :: rest, cache =>
    let (answer, cache) := run call.computation cache
    let (more, cache) := answers rest cache
    (answer :: more, cache)

/-- On a sound cache every call has the answer that it has without one, and leaves a sound cache. -/
theorem answers_plain (calls : List Call) {cache : Matcher} (h : cache.Sound) :
    (answers calls cache).1 = calls.map Call.plain ∧ (answers calls cache).2.Sound := by
  induction calls generalizing cache with
  | nil => exact ⟨rfl, h⟩
  | cons call rest ih =>
    obtain ⟨hanswer, hsound⟩ := call_computes call cache h
    obtain ⟨hmore, hlast⟩ := ih hsound
    refine ⟨?_, hlast⟩
    rw [List.map_cons, ← hanswer, ← hmore]
    rfl

/-- A cache, an expression made anew and a comparison of texts agree. Whatever has been called
before, a call is answered as on an empty cache and as without one; the cache holds what templates
compile to and nothing for malformed ones; and the expression of a template without brackets, if it
has one, matches the values that are equal to the template. -/
theorem paths_agree (calls : List Call) :
    (answers calls []).1 = calls.map (fun call => (run call.computation []).1) ∧
      (answers calls []).1 = calls.map Call.plain ∧
      (∀ template r, (answers calls []).2.get? template = some r →
        Template.compile template = .ok r) ∧
      (∀ template fault, Template.compile template = .error fault →
        (answers calls []).2.get? template = none) ∧
      ∀ template r, Template.isLiteral template = true → Template.compile template = .ok r →
        ∀ value, r.occursIn value = (template == value) := by
  obtain ⟨hplain, hsound⟩ := answers_plain calls sound_nil
  have hfresh (call : Call) : (run call.computation []).1 = call.plain :=
    (call_computes call [] sound_nil).1
  refine ⟨?_, hplain, hsound, ?_, ?_⟩
  · rw [hplain]
    exact List.map_congr_left fun call _ => (hfresh call).symm
  · intro template fault hfault
    cases hget : (answers calls []).2.get? template with
    | none => rfl
    | some r => cases hfault.symm.trans (hsound template r hget)
  · exact fun template r hliteral hcompile => Template.literal_occursIn hcompile hliteral

/-- A template that is malformed, one that is kept after the first call, and one that is text. -/
example :
    (answers [.one "x<y+>" "xy", .any ["x<(>", "x<y+>"] "xy", .any ["x.y", "x<y+>"] "xyy"] []).1 =
      [.ok true, .error (Template.Fault.expression "x<(>").failure, .ok true] := by
  decide +kernel

end Matcher

end AccessControl
