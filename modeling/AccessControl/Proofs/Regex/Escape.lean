/-
Escapes are read without a look past the closing bracket of the group that they stand in
(`Escape.read?_agrees`), but for one: whether a brace after `b` starts the name of an edge shows
only at the bracket (`Escape.Stuck`).
-/
import AccessControl.Proofs.Regex.Local
import AccessControl.Regex.Escape

namespace AccessControl.Regex

open Leaves (rest leave)

namespace Escape

variable {kept : List Char}

theorem hexDigits?_local (flags : Flags) (n value : Nat) :
    Local kept (hexDigits? flags n value) := by
  induction n generalizing value with
  | zero => exact .answer value
  | succ n ih =>
    refine .uncons .initial (fun _ => rfl) rfl fun c _ => ?_
    unfold hexDigits?
    cases Json.Token.hexDigit? c with
    | none => exact .none
    | some d => exact (ih _).skipped flags

theorem inBraces?_steps (flags : Flags) (n : Nat) : Local kept (inBraces? flags n) := by
  induction n with
  | zero => exact .none
  | succ n ih =>
    have hmore (c : Char) : Local kept fun rest =>
        (inBraces? flags n rest).map fun r => (c :: r.1, r.2) :=
      ih.map (fun _ => rfl) fun _ _ => rfl
    refine .uncons flags (fun cs => by simp only [inBraces?, Flags.skip_skip]) ?_ fun c hc => ?_
    · simp [inBraces?]
    · simp only [inBraces?, hc _]
      by_cases hbrace : c = '\x7d'
      · subst hbrace
        exact .answer []
      · simpa only [hbrace] using hmore c

theorem inBraces?_more {flags : Flags} {n m : Nat} {cs : List Char} (hn : cs.length + 1 ≤ n)
    (hnm : n ≤ m) : inBraces? flags n cs = inBraces? flags m cs := by
  induction n generalizing m cs with
  | zero => exact absurd hn (Nat.not_succ_le_zero _)
  | succ n ih =>
    obtain ⟨m, rfl⟩ : ∃ k, m = k + 1 := ⟨m - 1, by omega⟩
    have hlength := flags.length_skip_le cs
    unfold inBraces?
    split
    · rfl
    · rfl
    · rename_i c more _ hskip
      rw [hskip, List.length_cons] at hlength
      rw [ih (by omega) (Nat.le_of_succ_le_succ hnm)]

theorem inBraces?_local (flags : Flags) :
    Local kept fun cs => inBraces? flags (cs.length + 1) cs :=
  .fueled 1 (inBraces?_steps flags) fun _ _ _ hn hnm => inBraces?_more hn hnm

/-- A character by its number, of at least one digit. -/
theorem hex?_local (flags : Flags) (digits : Nat) : Local kept (hex? flags (digits + 1)) := by
  have hclose : Json.Token.hexDigit? ')' = none := by decide
  have hnamed : Local kept fun cs => inBraces? flags (cs.length + 1) cs >>= fun b => (do
      let ds ← b.1.mapM Json.Token.hexDigit?
      if ds.isEmpty then none
      let c ← Text.Utf8.char? (ds.foldl (fun n d => n * 16 + d) 0)
      return (char c false, flags.skip b.2) : Option (Escape × List Char)) := by
    refine (inBraces?_local flags).bind ?_
    rintro ⟨name, r⟩
    dsimp only [Leaves.leave_pair, Leaves.leave_text]
    refine .found fun ds => ?_
    split
    · exact .none
    · exact .found fun c => (skip_local flags).pair _
  have hdigits : Local kept fun cs => hexDigits? flags (digits + 1) 0 cs >>= fun b =>
      Text.Utf8.char? b.1 >>= fun c => some (char c (digits + 1 == 2), b.2) := by
    refine (hexDigits?_local flags (digits + 1) 0).bind ?_
    rintro ⟨n, r⟩
    dsimp only [Leaves.leave_pair, Leaves.leave_text]
    exact .found fun c => .answer _
  refine .of_cons flags (fun cs => by simp only [hex?, Flags.skip_skip])
    (.of_none (by simp [hex?, hexDigits?])
      (by simp [hex?, flags.counts_close _, hexDigits?, hclose])) fun c hc => ?_
  by_cases hbrace : c = '\x7b'
  · subst hbrace
    exact hnamed.takes fun cs => by simp only [hex?, hc _]
  · refine hdigits.again fun cs => ?_
    simp only [hex?, hc _, List.cons.injEq, hbrace, false_and, imp_false, implies_true,
      not_false_eq_true]
    rfl

theorem property?_local (flags : Flags) (negated : Bool) :
    Local kept (property? flags negated) := by
  have hnamed (name : List Char) : Local kept fun rest => (do
      let found ← named? (String.ofList name)
      if flags.allScripts then return (set (← flags.negate? negated (flags.fold found)), rest)
      else none : Option (Escape × List Char)) :=
    .found fun found => .ite (.found fun _ => .answer _) .none
  refine .uncons flags (fun cs => by simp only [property?, Flags.skip_skip]) ?_ fun c hc => ?_
  · simp [property?]
  · simp only [property?, hc _]
    by_cases hbrace : c = '\x7b'
    · subst hbrace
      exact (inBraces?_local flags).bind fun b => hnamed b.1
    · by_cases hslash : c = '\\'
      · subst hslash
        exact .none
      · simp only
        exact ((skip_local flags).pair [c]).bind fun b => hnamed b.1

/-! ## Edges of words -/

/-- Where the text ends after a brace that may start a word, nothing is read; a bracket there shows
that no word starts. -/
def Hangs (flags : Flags) (cs : List Char) : Prop :=
  flags.skip cs = [] ∧ ∀ v, flags.skip (cs ++ ')' :: v) = ')' :: v

theorem boundary?_hangs {flags : Flags} {cs : List Char} (h : Hangs flags cs) :
    boundary? flags ('\x7b' :: cs) = none ∧ ∀ v, boundary? flags ('\x7b' :: cs ++ ')' :: v) =
      some (edge flags .boundary, '\x7b' :: cs ++ ')' :: v) := by
  refine ⟨by simp [boundary?, h.1], fun v => ?_⟩
  simp only [List.cons_append, boundary?, h.2 v]
  rfl

/-- What stands after a brace that cannot start a word is read again. -/
theorem boundary?_agrees {flags : Flags} {u : List Char}
    (h : ¬ ∃ cs, u = '\x7b' :: cs ∧ Hangs flags cs) : AgreesAt kept (boundary? flags) u := by
  have hplain : Local kept fun cs => some (edge flags .boundary, cs) := .answer _
  have hword : Local kept fun cs => inBraces? flags (cs.length + 1) cs >>= fun b =>
      (edgeWords.find? fun e => e.1 == String.ofList b.1) >>= fun found =>
        some (edge flags found.2, b.2) := by
    refine (inBraces?_local flags).bind ?_
    rintro ⟨name, r⟩
    dsimp only [Leaves.leave_pair, Leaves.leave_text]
    exact .found fun _ => .answer _
  rcases u with _ | ⟨c, u⟩
  · exact (hplain []).congr (List.suffix_refl _) rfl fun _ => rfl
  by_cases hbrace : c ≠ '\x7b'
  · exact hplain.again (fun cs => by simp [boundary?, hbrace]) u
  cases Decidable.not_not.1 hbrace
  rcases flags.skip_append u with ⟨hempty, hhidden⟩ | hsame
  · refine .failed (by simp [boundary?, hempty]) fun v b hv hb => ?_
    simp [boundary?, hhidden v hv] at hb
  cases hskip : flags.skip u with
  | nil => exact absurd ⟨u, rfl, hskip, fun v => by rw [hsame v, hskip]; rfl⟩ h
  | cons c w =>
    have hsuffix : c :: w <:+ '\x7b' :: u :=
      (hskip ▸ flags.skip_suffix u).trans (List.suffix_cons _ u)
    by_cases hstart : (c.isAlpha || c == '-') = true
    · refine (hword (c :: w)).congr hsuffix ?_ fun v => ?_
      · simp only [boundary?, hskip, hstart, if_true]
        rfl
      · simp only [List.cons_append, boundary?, hsame v, hskip, hstart, if_true]
        rfl
    · refine (hplain ('\x7b' :: u)).congr (List.suffix_refl _) ?_ fun v => ?_
      · simp only [boundary?, hskip, hstart]
        rfl
      · simp only [List.cons_append, boundary?, hsame v, hskip, hstart]
        rfl

/-! ## All escapes -/

/-- The escape is an edge, and the brace after it hangs. -/
def Stuck (flags : Flags) (cs : List Char) : Prop :=
  ∃ more, cs = 'b' :: '\x7b' :: more ∧ Hangs flags more

theorem read?_stuck {flags : Flags} {cs : List Char} (h : Hangs flags cs) :
    read? flags ('b' :: '\x7b' :: cs) = none ∧
      ∀ v, read? flags ('b' :: '\x7b' :: cs ++ ')' :: v) =
        some (edge flags .boundary, '\x7b' :: cs ++ ')' :: v) := boundary?_hangs h

theorem read?_cons_local (flags : Flags) {c : Char} (hc : c ≠ 'b') :
    Local kept fun cs => read? flags (c :: cs) := by
  dsimp only [read?]
  split
  · exact hex?_local flags 1
  · exact hex?_local flags 3
  · exact hex?_local flags 7
  · exact property?_local flags false
  · exact property?_local flags true
  · exact .answer _
  · exact .answer _
  · exact absurd rfl hc
  · exact .answer _
  · exact .answer _
  · exact .answer _
  · cases Classes.ofLetter? flags.allScripts c.toLower with
    | some all => exact .found fun _ => .answer _
    | none =>
      cases control? c with
      | some d => exact .answer _
      | none => exact .ite (.answer _) .none

theorem read?_agrees {flags : Flags} {u : List Char} (h : ¬ Stuck flags u) :
    AgreesAt kept (read? flags) u := by
  rcases u with _ | ⟨c, u⟩
  · have hclose : Local kept fun cs => read? flags (')' :: cs) := read?_cons_local flags (by decide)
    exact .failed rfl fun v b _ hb => (hclose.suffix hb).trans (List.suffix_append kept v)
  by_cases hc : c ≠ 'b'
  · exact (read?_cons_local flags hc).takes (fun _ => rfl) u
  cases Decidable.not_not.1 hc
  refine (boundary?_agrees ?_).congr (List.suffix_cons 'b' u) rfl fun _ => rfl
  rintro ⟨more, rfl, hhangs⟩
  exact h ⟨more, rfl, hhangs⟩

end Escape

end AccessControl.Regex
