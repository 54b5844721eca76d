/-
What the reader of expressions reads in one step, whatever it has read before (`Token`): a step
reads a token and applies it to the state (`step?_eq`). Main statement: tokens are read without a
look past the closing bracket of the group that is read (`token?_agrees`), but for the edge of words
that only the bracket makes one (`Escape.Stuck`).
-/
import AccessControl.Proofs.Regex.Bracket
import AccessControl.Regex.Parser

namespace AccessControl.Regex

open Leaves (rest leave)

/-! ## Flags -/

theorem Flags.read?_local (flags : Flags) (on : Bool) (seen : List Char) :
    Local [')'] (flags.read? on seen) := by
  intro u
  induction u generalizing flags on seen with
  | nil =>
    refine .failed rfl fun v b _ hb => ?_
    simp only [List.nil_append, Flags.read?, or_true, if_true] at hb
    split at hb
    · cases hb
    · cases hb
      exact List.suffix_refl _
  | cons c u ih =>
    by_cases hend : c = ':' ∨ c = ')'
    · by_cases hlast : seen.head? = some '-'
      · exact .of_none (by simp [Flags.read?, hend, hlast])
          fun v => by simp [Flags.read?, hend, hlast]
      · have hkeep : Local [')'] fun cs => some (!seen.isEmpty, flags, cs) :=
          (Local.answer flags).pair (!seen.isEmpty)
        exact hkeep.again (fun cs => by simp [Flags.read?, hend, hlast]) u
    by_cases htwice : seen.contains c = true
    · exact .of_none (by simp only [Flags.read?, hend, htwice, if_true, if_false])
        fun v => by simp only [List.cons_append, Flags.read?, hend, htwice, if_true, if_false]
    by_cases hhyphen : c = '-'
    · refine (ih flags false (c :: seen)).congr (List.suffix_cons c u) ?_ fun v => ?_
      · simp only [Flags.read?, if_neg hend, if_neg htwice, if_pos hhyphen]
      · simp only [List.cons_append, Flags.read?, if_neg hend, if_neg htwice, if_pos hhyphen]
    cases hset : flags.set? c on with
    | none =>
      refine .of_none ?_ fun v => ?_
      · simp only [Flags.read?, if_neg hend, if_neg htwice, if_neg hhyphen, hset]
      · simp only [List.cons_append, Flags.read?, if_neg hend, if_neg htwice, if_neg hhyphen, hset]
    | some new =>
      refine (ih new on (c :: seen)).congr (List.suffix_cons c u) ?_ fun v => ?_
      · simp only [Flags.read?, if_neg hend, if_neg htwice, if_neg hhyphen, hset]
      · simp only [List.cons_append, Flags.read?, if_neg hend, if_neg htwice, if_neg hhyphen, hset]

namespace Parser

variable {kept : List Char}

/-! ## Bounds of repetitions -/

theorem takeDigits_steps (flags : Flags) (n : Nat) :
    Local kept fun cs => some (takeDigits flags n cs) := by
  induction n with
  | zero => exact .answer []
  | succ n ih =>
    have hnone : Local kept fun cs => some (([] : List Char), cs) := .answer []
    refine .of_cons .initial (fun _ => rfl)
      ((hnone []).congr (List.suffix_refl _) rfl fun _ => rfl) fun c _ => ?_
    cases hdigit : c.isDigit with
    | true =>
      have hmore : Local kept fun cs => (some (takeDigits flags n (flags.skip cs))).map
          fun b => (c :: b.1, b.2) :=
        (ih.skipped flags).map (fun _ => rfl) fun _ _ => rfl
      exact hmore.takes fun cs => by simp [takeDigits, hdigit]
    | false => exact hnone.again fun cs => by simp [takeDigits, hdigit]

theorem takeDigits_more {flags : Flags} {n m : Nat} {cs : List Char} (hn : cs.length ≤ n)
    (hnm : n ≤ m) : takeDigits flags n cs = takeDigits flags m cs := by
  induction n generalizing m cs with
  | zero =>
    cases List.length_eq_zero_iff.1 (Nat.le_zero.1 hn)
    cases m <;> rfl
  | succ n ih =>
    obtain ⟨m, rfl⟩ : ∃ k, m = k + 1 := ⟨m - 1, by omega⟩
    unfold takeDigits
    split
    · rename_i c more
      rw [List.length_cons] at hn
      rw [ih (Nat.le_trans (flags.length_skip_le more) (Nat.le_of_succ_le_succ hn))
        (Nat.le_of_succ_le_succ hnm)]
    · rfl

theorem takeDigits_local (flags : Flags) :
    Local kept fun cs => some (takeDigits flags cs.length cs) :=
  .fueled 0 (takeDigits_steps flags) fun _ _ _ hn hnm => congrArg some (takeDigits_more hn hnm)

theorem count?_local (flags : Flags) : Local kept (count? flags) := by
  show Local kept fun cs => (some (cs.dropWhile Text.isBlank) >>= fun cs =>
    some (takeDigits flags cs.length cs) >>= fun b =>
      if b.1.isEmpty || Json.Token.digitsValue b.1 ≥ Nat.pow 2 32 then none
      else some (Json.Token.digitsValue b.1, flags.skip (b.2.dropWhile Text.isBlank)) :
        Option (Nat × List Char))
  refine dropBlank_local.bind fun _ => (takeDigits_local flags).bind ?_
  rintro ⟨ds, r⟩
  dsimp only [Leaves.leave_pair, Leaves.leave_text]
  by_cases hbad : (ds.isEmpty || Json.Token.digitsValue ds ≥ Nat.pow 2 32) = true
  · simp only [hbad, if_true]
    exact .none
  · simp only [hbad]
    exact ((skip_local flags).after dropBlank_local).pair _

theorem upper?_local (flags : Flags) (min : Nat) : Local kept (upper? flags min) := by
  have hsame : Local kept fun cs => some (some min, cs) := .answer (some min)
  have hopen : Local kept fun cs => some ((none : Option Nat), cs) := .answer none
  have hcount : Local kept fun cs => (count? flags cs).map fun r => (some r.1, r.2) :=
    (count?_local flags).map (fun _ => rfl) fun _ _ => rfl
  have hcomma : Local kept fun cs => upper? flags min (',' :: cs) := by
    refine .of_cons flags (fun cs => by simp only [upper?, Flags.skip_skip])
      ((hcount []).congr (List.suffix_refl _) (by simp [upper?])
        fun v => by simp [upper?, flags.counts_close _]) fun c hc => ?_
    by_cases hbrace : c ≠ '\x7d'
    · exact hcount.again fun cs => by simp [upper?, hc _, hbrace]
    cases Decidable.not_not.1 hbrace
    exact hopen.again fun cs => by simp [upper?, hc _]
  refine .of_cons .initial (fun _ => rfl) ((hsame []).congr (List.suffix_refl _) rfl fun _ => rfl)
    fun c _ => ?_
  by_cases hmark : c ≠ ','
  · exact hsame.again fun cs => by simp [upper?, hmark]
  cases Decidable.not_not.1 hmark
  exact hcomma.takes fun _ => rfl

theorem closeBounds?_local (flags : Flags) (min : Nat) (max : Option Nat) :
    Local kept (closeBounds? flags min max) := by
  refine .uncons .initial (fun _ => rfl) rfl fun c _ => ?_
  by_cases hbrace : c ≠ '\x7d'
  · simpa [closeBounds?, hbrace] using Local.none
  cases Decidable.not_not.1 hbrace
  apply Local.ite
  · exact .none
  · exact ((skip_local flags).pair max).pair min

theorem bounds?_local (flags : Flags) : Local kept (bounds? flags) :=
  ((count?_local flags).skipped flags).bind fun b =>
    (upper?_local flags b.1).bind fun c => closeBounds?_local flags b.1 c.1

theorem dropLazy_local : Local kept fun cs => some (dropLazy cs) := by
  have hkeep : Local kept (some : List Char → Option (List Char)) := .keep
  refine .of_cons .initial (fun _ => rfl) ((hkeep []).congr (List.suffix_refl _) rfl fun _ => rfl)
    fun c _ => ?_
  by_cases hlazy : c ≠ '?'
  · exact hkeep.again fun cs => by simp [dropLazy, hlazy]
  cases Decidable.not_not.1 hlazy
  exact hkeep.takes fun _ => rfl

/-! ## Groups -/

/-- A name has no bracket in it. -/
theorem groupName?_of_mem {cs : List Char} (h : ')' ∈ cs.takeWhile (· != '>')) :
    groupName? cs = none := by
  have hfirst : (')' == '_' || Classes.isLetter ')') = false := by decide
  have hmore : (')' == '_' || ')' == '.' || ')' == '[' || ')' == ']' ||
      Classes.isLetterOrNumber ')') = false := by decide
  unfold groupName?
  dsimp only
  split
  · rename_i first more rest hname _
    rw [hname] at h
    refine if_neg fun hletters => ?_
    rw [Bool.and_eq_true, List.all_eq_true] at hletters
    rcases List.mem_cons.1 h with rfl | hmem
    · rw [hfirst] at hletters
      cases hletters.1
    · cases hmore.symm.trans (hletters.2 ')' hmem)
  · rfl

theorem groupName?_local : Local kept groupName? := by
  intro u
  by_cases hmark : '>' ∈ u
  · obtain ⟨name, more, rfl, hmem⟩ := List.eq_append_cons_of_mem hmark
    have hread (rest : List Char) : groupName? (name ++ '>' :: rest) = match name with
        | first :: more =>
          if (first == '_' || Classes.isLetter first) && more.all fun c =>
              c == '_' || c == '.' || c == '[' || c == ']' || Classes.isLetterOrNumber c then
            some (String.ofList name, rest)
          else none
        | [] => none := by
      simp only [groupName?, takeWhile_mark hmem, List.drop_left]
      cases name <;> rfl
    have hafter : Local kept fun rest => groupName? (name ++ '>' :: rest) := by
      simp only [hread]
      cases name with
      | nil => exact .none
      | cons first name => exact .ite (.answer _) .none
    refine (hafter more).congr ⟨name ++ ['>'], by simp⟩ rfl fun v => by simp
  · have hall : u.takeWhile (· != '>') = u := by simpa using takeWhile_append_mark hmark []
    refine .of_none ?_ fun v => groupName?_of_mem (mem_takeWhile_close hmark (by decide) v)
    unfold groupName?
    dsimp only
    rw [hall, List.drop_length]
    cases u <;> rfl

/-! ## Tokens -/

/-- What is read in one step. -/
inductive Token
  /-- A part that may be repeated. -/
  | part (node : Node) (depth : Nat)
  /-- Flags for the rest of the group. -/
  | flags (flags : Flags)
  | repetition (min : Nat) (max : Option Nat)
  | alternative
  /-- The start of a group without a number. -/
  | opening (flags : Flags)
  /-- The start of a group with a number, and perhaps a name. -/
  | numbered (name : Option String)
  | closing

/-- Flags up to a colon, which opens a group, or up to a bracket, which ends them. -/
def flagsToken? (flags : Flags) (cs : List Char) : Option (Token × List Char) := do
  let (any, new, rest) ← flags.read? true [] cs
  match rest with
  | ')' :: rest => if any then some (.flags new, rest) else none
  | _ :: rest => some (.opening new, rest)
  | [] => none

def nameToken? (cs : List Char) : Option (Token × List Char) :=
  (groupName? cs).map fun r => (.numbered (some r.1), r.2)

def groupToken? (flags : Flags) (cs : List Char) : Option (Token × List Char) :=
  match flags.skip cs with
  | '?' :: 'P' :: '<' :: rest => nameToken? rest
  | '?' :: '<' :: '=' :: _ | '?' :: '<' :: '!' :: _ => none
  | '?' :: '<' :: rest => nameToken? rest
  | '?' :: rest => flagsToken? flags rest
  | rest => some (.numbered none, rest)

/-- The token that starts with a character, and the text after it. -/
def token? (flags : Flags) (c : Char) (rest : List Char) : Option (Token × List Char) :=
  match c with
  | '(' => groupToken? flags rest
  | ')' => some (.closing, rest)
  | '|' => some (.alternative, rest)
  | '[' => (Bracket.read? flags rest).map fun r => (.part (.one r.1) r.2.1, r.2.2)
  | '?' => some (.repetition 0 (some 1), dropLazy rest)
  | '*' => some (.repetition 0 none, dropLazy rest)
  | '+' => some (.repetition 1 none, dropLazy rest)
  | '\x7b' => (bounds? flags rest).map fun r => (.repetition r.1 r.2.1, dropLazy r.2.2)
  | '\\' => Escape.read? flags rest >>= fun r =>
      (escape? flags r.1).map fun node => (.part node 0, r.2)
  | '.' => (dot? flags).map fun node => (.part node 0, rest)
  | '^' => some (.part (.look (lineStart flags)) 0, rest)
  | '$' => some (.part (.look (lineEnd flags)) 0, rest)
  | c => some (.part (character flags c) 0, rest)

/-- What a token does to the state. -/
def Token.act? (s : State) : Token → Option State
  | part node depth => some (s.push ⟨node, depth, true⟩)
  | flags new => some ({ s with flags := new }.push ⟨.empty, 0, false⟩)
  | repetition min max => repeat? s min max
  | alternative =>
    some { s with level := ⟨Part.ofBranch s.level.branch :: s.level.branches, []⟩ }
  | opening new => some (openGroup s new)
  | numbered none => some (openNumbered s)
  | numbered (some name) =>
    if s.names.contains name then none else some (openNumbered { s with names := name :: s.names })
  | closing => closeGroup? s

/-- What is read, applied to a state. -/
def Token.acted? (s : State) (r : Token × List Char) : Option (State × List Char) :=
  (r.1.act? s).map (·, r.2)

theorem namedGroup?_eq (s : State) (cs : List Char) :
    namedGroup? s cs = nameToken? cs >>= Token.acted? s := by
  unfold namedGroup? nameToken?
  cases groupName? cs with
  | none => rfl
  | some r =>
    simp only [Option.bind_eq_bind, Option.bind_some, Option.map_some, Token.acted?,
      Token.act?]
    split <;> rfl

/-- Flags, and what they are for. -/
theorem flagged_eq (s : State) (cs : List Char) : (do
    let (any, flags, rest) ← s.flags.read? true [] cs
    match rest with
    | ')' :: rest =>
      if any then return ({ s with flags := flags }.push ⟨.empty, 0, false⟩, rest) else none
    | _ :: rest => return (openGroup s flags, rest)
    | [] => none) = flagsToken? s.flags cs >>= Token.acted? s := by
  unfold flagsToken?
  cases s.flags.read? true [] cs with
  | none => rfl
  | some r =>
    obtain ⟨any, new, rest⟩ := r
    simp only [Option.bind_eq_bind, Option.bind_some]
    split
    · split <;> rfl
    · simp_all only [imp_false]
      rfl
    · rfl

theorem group?_eq (s : State) (cs : List Char) :
    group? s cs = groupToken? s.flags cs >>= Token.acted? s := by
  unfold group? groupToken?
  generalize s.flags.skip cs = text
  split
  · exact namedGroup?_eq s _
  · rfl
  · rfl
  · simp_all only [imp_false, namedGroup?_eq]
  · simp_all only [imp_false]
    exact flagged_eq s _
  · simp_all only [imp_false]
    rfl

/-- A step reads a token and applies it. -/
theorem step?_eq (s : State) (c : Char) (cs : List Char) :
    step? s c cs = token? s.flags c cs >>= Token.acted? s := by
  unfold step? token?
  split
  · exact group?_eq s cs
  · rfl
  · rfl
  · cases Bracket.read? s.flags cs <;> rfl
  · rfl
  · rfl
  · rfl
  · cases bounds? s.flags cs with
    | none => rfl
    | some r => cases h : repeat? s r.1 r.2.1 <;> simp [Token.acted?, Token.act?, h]
  · cases Escape.read? s.flags cs with
    | none => rfl
    | some r => cases h : escape? s.flags r.1 <;> simp [h]; rfl
  · cases dot? s.flags <;> rfl
  · rfl
  · rfl
  · simp_all only [imp_false]
    rfl

/-! ## Tokens are local -/

/-- A sign after the flags is taken with them. -/
theorem flagsToken?_local (flags : Flags) : Local [] (flagsToken? flags) := by
  intro u
  refine (flags.read?_local true [] u).bind_past (fun b => ?_) fun v b c _ hrest hc => ?_
  · obtain ⟨any, new, r⟩ := b
    simp only [Leaves.leave_pair, Leaves.leave_text]
    refine .uncons .initial (fun _ => rfl) rfl fun c _ => ?_
    by_cases hclose : c ≠ ')'
    · simpa [hclose] using Local.answer (Token.opening new)
    cases Decidable.not_not.1 hclose
    apply Local.ite
    · exact .answer _
    · exact .none
  · obtain ⟨any, new, r⟩ := b
    have htaken : ∃ d, r = d :: rest c := by
      dsimp only at hc
      split at hc
      · split at hc
        · cases hc
          exact ⟨')', rfl⟩
        · cases hc
      · cases hc
        exact ⟨_, rfl⟩
      · cases hc
    obtain ⟨d, rfl⟩ := htaken
    exact suffix_of_shorter (List.suffix_cons d _) (Nat.lt_succ_self _) hrest

theorem nameToken?_local : Local kept nameToken? :=
  groupName?_local.map (g := fun r : String × List Char => (Token.numbered (some r.1), r.2))
    (fun _ => rfl) fun _ _ => rfl

/-- After a question mark stands a name, or there are flags. -/
theorem groupToken?_mark_local (flags : Flags) (h : flags.Counts '?') :
    Local [] fun cs => groupToken? flags ('?' :: cs) := by
  have hname : Local [] nameToken? := nameToken?_local
  have hflags := flagsToken?_local flags
  -- names come after `?P<` and after a `?<` that looks nowhere behind
  intro u
  rcases u with _ | ⟨c, u⟩
  · exact (hflags []).congr (List.suffix_refl _) (by simp [groupToken?, h _])
      fun v => by simp [groupToken?, h _]
  by_cases hletter : c = 'P'
  · subst hletter
    rcases u with _ | ⟨d, u⟩
    · exact (hflags ['P']).congr (List.suffix_refl _) (by simp [groupToken?, h _])
        fun v => by simp [groupToken?, h _]
    by_cases hangle : d = '<'
    · subst hangle
      exact (hname u).congr ((List.suffix_cons _ _).trans (List.suffix_cons _ _))
        (by simp [groupToken?, h _]) fun v => by simp [groupToken?, h _]
    · exact (hflags ('P' :: d :: u)).congr (List.suffix_refl _)
        (by simp [groupToken?, h _, hangle]) fun v => by simp [groupToken?, h _, hangle]
  by_cases hangle : c = '<'
  · subst hangle
    rcases u with _ | ⟨d, u⟩
    · exact (hname []).congr List.nil_suffix (by simp [groupToken?, h _])
        fun v => by simp [groupToken?, h _]
    by_cases hlook : d = '=' ∨ d = '!'
    · exact .of_none (by rcases hlook with rfl | rfl <;> simp [groupToken?, h _])
        fun v => by rcases hlook with rfl | rfl <;> simp [groupToken?, h _]
    · exact (hname (d :: u)).congr (List.suffix_cons _ _) (by simp_all [groupToken?, h _])
        fun v => by simp_all [groupToken?, h _]
  · exact (hflags (c :: u)).congr (List.suffix_refl _)
      (by simp [groupToken?, h _, hletter, hangle])
      fun v => by simp [groupToken?, h _, hletter, hangle]

theorem groupToken?_local (flags : Flags) : Local [] (groupToken? flags) := by
  have hplain : Local [] fun cs => some (Token.numbered none, cs) := .answer _
  refine .of_cons flags (fun cs => by simp only [groupToken?, Flags.skip_skip])
    ((hplain []).congr (List.suffix_refl _) (by simp [groupToken?])
      fun v => by simp [groupToken?, flags.counts_close _]) fun c hc => ?_
  by_cases hmark : c ≠ '?'
  · exact hplain.again fun cs => by simp [groupToken?, hc _, hmark]
  cases Decidable.not_not.1 hmark
  exact (groupToken?_mark_local flags hc).takes fun _ => rfl

/-- What an escape makes. -/
theorem escaped_local (flags : Flags) (b : Escape × List Char) : Local kept fun r =>
    (escape? flags (leave r b).1).map fun node => (Token.part node 0, (leave r b).2) := by
  obtain ⟨escape, r⟩ := b
  dsimp only [Leaves.leave_pair, Leaves.leave_text]
  cases escape? flags escape with
  | none => exact .none
  | some node => exact .answer _

theorem token?_agrees {flags : Flags} {c : Char} {u : List Char}
    (h : ¬ (c = '\\' ∧ Escape.Stuck flags u)) : AgreesAt [] (token? flags c) u := by
  have hanswer (token : Token) : Local [] fun cs => some (token, cs) := .answer token
  have hlazy (token : Token) : Local [] fun cs => some (token, dropLazy cs) :=
    dropLazy_local.pair token
  unfold token?
  split
  · exact groupToken?_local flags u
  · exact hanswer _ u
  · exact hanswer _ u
  · exact (Bracket.read?_local flags u).map
      (g := fun r => (Token.part (.one r.1) r.2.1, r.2.2)) (fun _ => rfl) fun _ _ => rfl
  · exact hlazy _ u
  · exact hlazy _ u
  · exact hlazy _ u
  · have hbounds : Local [] fun cs => bounds? flags cs >>= fun r =>
        some (Token.repetition r.1 r.2.1, dropLazy r.2.2) :=
      (bounds?_local flags).bind fun b => hlazy (.repetition b.1 b.2.1)
    refine (hbounds u).congr (List.suffix_refl u) ?_ fun v => ?_
    · cases bounds? flags u <;> rfl
    · cases bounds? flags (u ++ ')' :: v) <;> rfl
  · exact (Escape.read?_agrees fun hstuck => h ⟨rfl, hstuck⟩).bind (escaped_local flags)
  · cases dot? flags with
    | none => exact .of_none rfl fun _ => rfl
    | some node => exact hanswer _ u
  · exact hanswer _ u
  · exact hanswer _ u
  · exact hanswer _ u

theorem token?_stuck {flags : Flags} {cs : List Char} (h : Escape.Hangs flags cs) :
    token? flags '\\' ('b' :: '\x7b' :: cs) = none ∧ ∃ node, ∀ v,
      token? flags '\\' ('b' :: '\x7b' :: cs ++ ')' :: v) =
        some (.part node 0, '\x7b' :: cs ++ ')' :: v) := by
  obtain ⟨hnone, hedge⟩ := Escape.read?_stuck h
  exact ⟨by simp [token?, hnone], _, fun v => by rw [token?, hedge v]; rfl⟩

theorem token?_suffix {flags : Flags} {c : Char} {cs rest : List Char} {token : Token}
    (h : token? flags c cs = some (token, rest)) : rest <:+ cs := by
  by_cases hstuck : c = '\\' ∧ Escape.Stuck flags cs
  · obtain ⟨rfl, more, rfl, hhangs⟩ := hstuck
    rw [(token?_stuck hhangs).1] at h
    cases h
  · exact (token?_agrees hstuck).suffix h

/-- What is read up to a bracket, without taking it, is read up to it also where more text
follows. -/
theorem token?_before {flags : Flags} {c : Char} {u rest : List Char} {token : Token}
    (h : token? flags c (u ++ [')']) = some (token, rest)) : rest = [] ∨
      ∃ w, rest = w ++ [')'] ∧ ∀ v, token? flags c (u ++ ')' :: v) = some (token, w ++ ')' :: v) := by
  by_cases hstuck : c = '\\' ∧ Escape.Stuck flags u
  · obtain ⟨rfl, more, rfl, hhangs⟩ := hstuck
    obtain ⟨-, node, hmore⟩ := token?_stuck hhangs
    cases (hmore []).symm.trans h
    exact .inr ⟨_, rfl, hmore⟩
  · cases token?_agrees hstuck with
    | same b _ _ hmore =>
      cases (hmore []).symm.trans h
      exact .inr ⟨Leaves.rest b, rfl, hmore⟩
    | hidden b hrest _ hmore =>
      cases (hmore [] List.not_mem_nil).symm.trans h
      exact .inl hrest
    | failed _ hmore => exact .inl (List.suffix_nil.1 (hmore [] _ List.not_mem_nil h))

/-- Only the bracket itself closes a group. -/
theorem groupToken?_opens {flags : Flags} {cs rest : List Char} :
    groupToken? flags cs ≠ some (.closing, rest) := by
  have hname (cs : List Char) : nameToken? cs ≠ some (.closing, rest) := by simp [nameToken?]
  have hflags (cs : List Char) : flagsToken? flags cs ≠ some (.closing, rest) := by
    intro h
    obtain ⟨⟨any, new, more⟩, -, h⟩ := Option.bind_eq_some_iff.1 h
    dsimp only at h
    split at h
    · split at h <;> cases h
    · cases h
    · cases h
  unfold groupToken?
  split
  · exact hname _
  · exact nofun
  · exact nofun
  · exact hname _
  · exact hflags _
  · exact nofun

theorem token?_closing {flags : Flags} {c : Char} {cs rest : List Char}
    (h : token? flags c cs = some (.closing, rest)) : c = ')' ∧ rest = cs := by
  unfold token? at h
  split at h
  case h_1 => exact absurd h groupToken?_opens
  case h_2 =>
    cases h
    exact ⟨rfl, rfl⟩
  case h_9 =>
    obtain ⟨_, -, h⟩ := Option.bind_eq_some_iff.1 h
    simp at h
  all_goals simp at h

/-- A brace with no bounds in it is malformed. -/
theorem bounds?_close {flags : Flags} {cs v : List Char} (h : flags.skip cs = ')' :: v) :
    bounds? flags cs = none := by
  have hcount : count? flags (')' :: v) = none := rfl
  rw [bounds?, h, hcount]
  rfl

end Parser

end AccessControl.Regex
