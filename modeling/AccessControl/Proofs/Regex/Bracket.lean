/-
Sets in square brackets are read without a look past the closing bracket of the group that they
stand in (`Bracket.read?_local`). Inside of a set a reader may have to see that bracket to go on,
but a whole set ends before it or has it as one of its characters.
-/
import AccessControl.Proofs.Regex.Escape
import AccessControl.Regex.Bracket

namespace AccessControl.Regex

open Leaves (rest leave)
open Text (CharSet)

namespace Bracket

section

variable {γ : Type} [Leaves γ] {kept : List Char} {flags : Flags}
  {g : Escape × List Char → Option γ}

/-- An item and what is made of it, which is nothing if the item is an edge of words. -/
theorem item?_bind_cons (hlook : ∀ look r, g (.look look, r) = none)
    (hg : ∀ b, Local kept fun r => g (leave r b)) (c : Char) :
    Local kept fun cs => item? flags (c :: cs) >>= g := by
  by_cases hslash : c ≠ '\\'
  · simpa [item?, hslash] using hg (.char c false, [])
  cases Decidable.not_not.1 hslash
  intro u
  show AgreesAt kept (fun cs => Escape.read? flags cs >>= g) u
  by_cases hstuck : Escape.Stuck flags u
  · obtain ⟨more, rfl, hhangs⟩ := hstuck
    obtain ⟨hnone, hedge⟩ := Escape.read?_stuck hhangs
    refine .of_none (by simp [hnone]) fun v => ?_
    rw [hedge v]
    exact hlook _ _
  · exact (Escape.read?_agrees hstuck).bind hg

theorem item?_bind_local (hlook : ∀ look r, g (.look look, r) = none)
    (hg : ∀ b, Local kept fun r => g (leave r b)) : Local kept fun cs => item? flags cs >>= g :=
  .uncons .initial (fun _ => rfl) rfl fun c _ => item?_bind_cons hlook hg c

end

variable {kept : List Char}

/-- What comes after a hyphen is looked at no further than to the closing bracket. -/
theorem peek?_append (flags : Flags) (u v : List Char) {d : Char} (hd : d ≠ ')') :
    peek? flags (u ++ ')' :: v) = some d ↔ peek? flags u = some d := by
  have hhead (w : List Char) : (w ++ ')' :: v).head? = some d ↔ w.head? = some d := by
    cases w with
    | nil => simp [Ne.symm hd]
    | cons c w => simp
  unfold peek?
  rw [dropBlank_append]
  split
  · cases u.dropWhile Text.isBlank with
    | nil => simp [Ne.symm hd]
    | cons c w =>
      by_cases hmark : c = '#'
      · subst hmark
        simp only [List.cons_append, dropBlank_append, hhead]
      · simp [hmark]
  · exact hhead u

/-- After the hyphen of a range comes its end, unless the hyphen stands for itself. -/
def hyphenStands (flags : Flags) (cs : List Char) : Bool :=
  peek? flags cs == some ']' || peek? flags cs == some '-'

theorem hyphenStands_append (flags : Flags) (u v : List Char) :
    hyphenStands flags (u ++ ')' :: v) = hyphenStands flags u := by
  have hclose := peek?_append flags u v (show ']' ≠ ')' by decide)
  have hhyphen := peek?_append flags u v (show '-' ≠ ')' by decide)
  rw [Bool.eq_iff_iff]
  simp only [hyphenStands, Bool.or_eq_true, beq_iff_eq, hclose, hhyphen]

/-- The rest of a part that starts with the item. -/
def rangeFrom? (flags : Flags) (b : Escape × List Char) : Option (CharSet × List Char) :=
  match flags.skip b.2 with
  | [] => none
  | '-' :: more =>
    if hyphenStands flags more then single? flags b.1 >>= fun set => some (set, '-' :: more)
    else item? flags (flags.skip more) >>= fun high =>
      point? flags b.1 >>= fun low => point? flags high.1 >>= fun top =>
        if low ≤ top then some (.range low top, high.2) else none
  | rest => single? flags b.1 >>= fun set => some (set, rest)

theorem range?_eq (flags : Flags) (cs : List Char) :
    range? flags cs = item? flags cs >>= rangeFrom? flags := rfl

theorem rangeFrom?_look (flags : Flags) (look : Look) (r : List Char) :
    rangeFrom? flags (.look look, r) = none := by
  unfold rangeFrom?
  dsimp only
  split
  · rfl
  · split
    · rfl
    · cases item? flags _ <;> rfl
  · rfl

/-- Where the text ends the part may go on, which shows at the bracket. -/
theorem rangeFrom?_local (flags : Flags) (low : Escape) :
    Local [')'] fun r => rangeFrom? flags (low, r) := by
  have hsingle : Local [')'] fun cs => single? flags low >>= fun set => some (set, cs) :=
    .found fun _ => .answer _
  have htop : Local [')'] fun cs => item? flags cs >>= fun high =>
      point? flags low >>= fun low => point? flags high.1 >>= fun top =>
        if low ≤ top then some (CharSet.range low top, high.2) else none := by
    refine item?_bind_local (fun _ _ => by cases point? flags low <;> rfl) ?_
    rintro ⟨high, r⟩
    dsimp only [Leaves.leave_pair, Leaves.leave_text]
    exact .found fun low => .found fun high => .ite (.answer _) .none
  refine .of_cons flags (fun cs => by simp only [rangeFrom?, Flags.skip_skip]) ?_ fun c hc u => ?_
  · refine .failed (by simp [rangeFrom?]) fun v b _ hb => ?_
    have hread : single? flags low >>= (fun set => some (set, ')' :: v)) = some b := by
      simpa [rangeFrom?, flags.counts_close _] using hb
    exact hsingle.suffix hread
  · by_cases hhyphen : c ≠ '-'
    · exact hsingle.again (fun cs => by simp [rangeFrom?, hc _, hhyphen]) u
    cases Decidable.not_not.1 hhyphen
    by_cases hstands : hyphenStands flags u = true
    · refine (hsingle ('-' :: u)).congr (List.suffix_refl _) ?_ fun v => ?_
      · simp [rangeFrom?, hc _, hstands]
      · simp [rangeFrom?, hc _, hyphenStands_append, hstands]
    · refine ((htop.skipped flags) u).congr (List.suffix_cons _ u) ?_ fun v => ?_
      · simp [rangeFrom?, hc _, hstands]
      · simp [rangeFrom?, hc _, hyphenStands_append, hstands]

theorem range?_cons_local (flags : Flags) (c : Char) :
    Local [')'] fun cs => range? flags (c :: cs) := by
  simp only [range?_eq]
  exact item?_bind_cons (rangeFrom?_look flags) (fun b => rangeFrom?_local flags b.1) c

/-! ## Named sets -/

/-- No name of a set has a closing bracket in it. -/
theorem latin?_of_mem {name : List Char} (h : ')' ∈ name) :
    Classes.latin? (String.ofList name) = none := by
  unfold Classes.latin?
  split
  all_goals first
    | rfl
    | rename_i hname
      rw [← String.toList_ofList (l := name), hname] at h
      exact absurd h (by decide)

/-- The name of a set is read before the closing bracket or not at all. -/
theorem name?_cases (negated : Bool) (u : List Char) :
    (name? negated u = none ∧ ∀ v, name? negated (u ++ ')' :: v) = none) ∨
      ∃ set w, w <:+ u ∧ name? negated u = some (negated, set, w) ∧
        ∀ v, name? negated (u ++ ')' :: v) = some (negated, set, w ++ ')' :: v) := by
  by_cases hcolon : ':' ∈ u
  · obtain ⟨name, more, rfl, hmem⟩ := List.eq_append_cons_of_mem hcolon
    simp only [name?, List.append_assoc, List.cons_append, takeWhile_mark hmem, List.drop_left]
    cases more with
    | nil => exact .inl ⟨rfl, fun _ => rfl⟩
    | cons d more =>
      by_cases hd : d ≠ ']'
      · exact .inl ⟨by simp [hd], fun v => by simp [hd]⟩
      cases Decidable.not_not.1 hd
      cases Classes.latin? (String.ofList name) with
      | none => exact .inl ⟨rfl, fun _ => rfl⟩
      | some set => exact .inr ⟨set, more, ⟨name ++ [':', ']'], by simp⟩, rfl, fun _ => rfl⟩
  · refine .inl ⟨?_, fun v => ?_⟩
    · have hall : u.takeWhile (· != ':') = u := by
        simpa using takeWhile_append_mark hcolon []
      simp [name?, hall]
    · dsimp only [name?]
      rw [latin?_of_mem (mem_takeWhile_close hcolon (by decide) v)]
      split <;> rfl

theorem named?_cases (u : List Char) :
    (named? u = none ∧ ∀ v, named? (u ++ ')' :: v) = none) ∨
      ∃ negated set w, w <:+ u ∧ named? u = some (negated, set, w) ∧
        ∀ v, named? (u ++ ')' :: v) = some (negated, set, w ++ ')' :: v) := by
  have hname (negated : Bool) {u more : List Char} (hmore : more <:+ u)
      (hread : named? u = name? negated more)
      (hlong : ∀ v, named? (u ++ ')' :: v) = name? negated (more ++ ')' :: v)) :
      (named? u = none ∧ ∀ v, named? (u ++ ')' :: v) = none) ∨
        ∃ negated set w, w <:+ u ∧ named? u = some (negated, set, w) ∧
          ∀ v, named? (u ++ ')' :: v) = some (negated, set, w ++ ')' :: v) := by
    simp only [hread, hlong]
    exact (name?_cases negated more).imp_right fun ⟨set, w, hw, h⟩ =>
      ⟨negated, set, w, hw.trans hmore, h⟩
  rcases u with _ | ⟨c, u⟩
  · exact .inl ⟨rfl, fun _ => rfl⟩
  by_cases hc : c ≠ ':'
  · exact .inl ⟨by simp [named?, hc], fun v => by simp [named?, hc]⟩
  cases Decidable.not_not.1 hc
  rcases u with _ | ⟨d, u⟩
  · exact hname false (List.suffix_cons _ _) rfl fun _ => rfl
  by_cases hd : d ≠ '^'
  · exact hname false (List.suffix_cons _ _) (by simp [named?, hd]) fun v => by simp [named?, hd]
  cases Decidable.not_not.1 hd
  exact hname true ((List.suffix_cons _ _).trans (List.suffix_cons _ _)) rfl fun _ => rfl

theorem named?_local : Local kept named? := by
  intro u
  rcases named?_cases u with ⟨hnone, hmore⟩ | ⟨negated, set, w, hw, hsome, hmore⟩
  · exact .of_none hnone hmore
  · exact .same (negated, set, w) hw hsome hmore

/-! ## Brackets -/

theorem hyphens_steps (flags : Flags) (n : Nat) (parts : Parts) :
    Local kept fun cs => some (hyphens flags n parts cs) := by
  induction n generalizing parts with
  | zero => exact .answer parts
  | succ n ih =>
    have hkeep : Local kept fun cs => some (parts, cs) := .answer parts
    refine .of_cons .initial (fun _ => rfl) ((hkeep []).congr (List.suffix_refl _) rfl fun _ => rfl)
      fun c _ => ?_
    by_cases hhyphen : c ≠ '-'
    · exact hkeep.again fun cs => by simp [hyphens, hhyphen]
    cases Decidable.not_not.1 hhyphen
    exact ((ih _).skipped flags).takes fun cs => rfl

theorem hyphens_more {flags : Flags} {n m : Nat} {parts : Parts} {cs : List Char}
    (hn : cs.length ≤ n) (hnm : n ≤ m) : hyphens flags n parts cs = hyphens flags m parts cs := by
  induction n generalizing m parts cs with
  | zero =>
    cases List.length_eq_zero_iff.1 (Nat.le_zero.1 hn)
    cases m <;> rfl
  | succ n ih =>
    obtain ⟨m, rfl⟩ : ∃ k, m = k + 1 := ⟨m - 1, by omega⟩
    unfold hyphens
    split
    · rename_i rest
      rw [List.length_cons] at hn
      exact ih (Nat.le_trans (flags.length_skip_le rest) (Nat.le_of_succ_le_succ hn))
        (Nat.le_of_succ_le_succ hnm)
    · rfl

theorem hyphens_local (flags : Flags) :
    Local kept fun cs => some (hyphens flags cs.length .none cs) :=
  .fueled 0 (fun n => hyphens_steps flags n .none) fun _ _ _ hn hnm =>
    congrArg some (hyphens_more hn hnm)

theorem caret_local (flags : Flags) : Local kept fun cs => some (caret flags cs) := by
  have hplain : Local kept fun cs => some (false, cs) := .answer false
  have hcaret : Local kept fun cs => some (true, flags.skip cs) := (skip_local flags).pair true
  refine .of_cons flags (fun cs => by simp only [caret, Flags.skip_skip])
    ((hplain []).congr (List.suffix_refl _) (by simp [caret])
      fun v => by simp [caret, flags.counts_close _]) fun c hc => ?_
  by_cases hmark : c ≠ '^'
  · exact hplain.again fun cs => by simp [caret, hc _, hmark]
  cases Decidable.not_not.1 hmark
  exact hcaret.takes fun cs => by simp [caret, hc _]

theorem first?_local (flags : Flags) (negated : Bool) (parts : Parts) :
    Local [')'] (first? flags negated parts) := by
  have hkeep (parts : Parts) : Local [')'] fun cs => some (negated, parts, cs) :=
    (Local.answer parts).pair negated
  refine .of_cons .initial (fun _ => rfl) (.failed rfl fun v b _ hb => ?_) fun c _ => ?_
  · exact (hkeep parts).suffix (by simpa [first?] using hb)
  by_cases hclose : c ≠ ']'
  · exact (hkeep parts).again fun cs => by simp [first?, hclose]
  cases Decidable.not_not.1 hclose
  by_cases hcount : parts.count ≠ 0
  · exact (hkeep parts).again fun cs => by simp [first?, hcount]
  have hadd := hkeep (parts.add (.single ']') 0)
  have hzero : parts.count = 0 := Decidable.not_not.1 hcount
  have hopen (cs : List Char) : first? flags negated parts (']' :: flags.skip cs) =
      first? flags negated parts (']' :: cs) := by
    simp only [first?, if_pos hzero, Flags.skip_skip]
  have hnext : Local [')'] fun cs => first? flags negated parts (']' :: cs) := by
    refine .of_cons flags hopen ?_ fun c hc => ?_
    · refine .failed (by simp [first?, hzero]) fun v b _ hb => ?_
      exact hadd.suffix (by simpa [first?, hzero, flags.counts_close _] using hb)
    · exact hadd.again fun cs => by simp [first?, hzero, hc _]
  exact hnext.takes fun _ => rfl

theorem start?_local (flags : Flags) : Local [')'] (start? flags) := by
  have hparts (negated : Bool) : Local [')'] fun cs => first? flags negated
      (hyphens flags cs.length .none cs).1 (hyphens flags cs.length .none cs).2 :=
    (hyphens_local flags).bind (g := fun b : Parts × List Char => first? flags negated b.1 b.2)
      fun b => first?_local flags negated b.1
  exact (caret_local flags).bind (g := fun b : Bool × List Char => first? flags b.1
    (hyphens flags b.2.length .none b.2).1 (hyphens flags b.2.length .none b.2).2) fun b =>
      hparts b.1

/-! ## Steps -/

instance : Leaves Step where
  rest
    | .go _ _ _ rest => rest
    | .done _ _ rest => rest
  leave
    | rest, .go level outer parts _ => .go level outer parts rest
    | rest, .done set depth _ => .done set depth rest
  leave_rest step := by cases step <;> rfl
  rest_leave _ step := by cases step <;> rfl

theorem go_local (level : Level) (outer : List Level) (parts : Parts) :
    Local kept fun cs => some (Step.go level outer parts cs) :=
  Local.keep.map (fun _ => rfl) fun _ _ => rfl

theorem close?_local (flags : Flags) (level : Level) (outer : List Level) (parts : Parts) :
    Local kept (close? flags level outer parts) := by
  refine .found (x := flags.negate? level.negated (flags.fold (settle flags level parts).1))
    fun set => ?_
  cases outer with
  | nil => exact Local.keep.map (fun _ => rfl) fun _ _ => rfl
  | cons next outer => exact go_local _ _ _

theorem part_local (flags : Flags) (level : Level) (outer : List Level) (parts : Parts) (c : Char) :
    Local [')'] fun cs => (do
      let (set, rest) ← range? flags (c :: cs)
      return .go level outer (parts.add set 0) rest : Option Step) :=
  (range?_cons_local flags c).bind fun _ => go_local _ _ _

theorem step?_open_local (flags : Flags) (level : Level) (outer : List Level) (parts : Parts) :
    Local [')'] fun cs => step? flags level outer parts ('[' :: cs) := by
  have hnamed : Local [')'] fun cs => named? cs >>= fun b =>
      flags.negate? b.1 (flags.fold b.2.1) >>= fun set =>
        some (Step.go level outer (parts.add set 0) b.2.2) := by
    refine named?_local.bind ?_
    rintro ⟨negated, set, r⟩
    dsimp only [Leaves.leave_pair, Leaves.leave_text]
    exact .found fun set => go_local _ _ _
  have hstart : Local [')'] fun cs => start? flags cs >>= fun b =>
      some (Step.go ⟨parts, b.1, none⟩ (level :: outer) b.2.1 b.2.2) :=
    (start?_local flags).bind fun b => go_local ⟨parts, b.1, none⟩ (level :: outer) b.2.1
  intro u
  rcases named?_cases u with ⟨hnone, hmore⟩ | ⟨negated, set, w, hw, hsome, hmore⟩
  · refine (hstart u).congr (List.suffix_refl u) ?_ fun v => ?_
    · simp only [step?, hnone]
      rfl
    · simp only [step?, hmore]
      rfl
  · refine (hnamed u).congr (List.suffix_refl u) ?_ fun v => ?_
    · simp only [step?, hsome]
      rfl
    · simp only [step?, hmore]
      rfl

/-- Two equal characters are an operation, one alone starts a part. -/
theorem step?_twice_local {flags : Flags} {level : Level} {outer : List Level} {parts : Parts}
    {c : Char} {operation : Operation} (hc : c ≠ ')')
    (htwice : ∀ rest, step? flags level outer parts (c :: c :: rest) =
      some (operate flags operation level outer parts rest))
    (honce : ∀ cs, cs.head? ≠ some c → step? flags level outer parts (c :: cs) = (do
      let (set, rest) ← range? flags (c :: cs)
      return .go level outer (parts.add set 0) rest : Option Step)) :
    Local [')'] fun cs => step? flags level outer parts (c :: cs) := by
  intro u
  have hoperate : Local [')'] fun rest => some (operate flags operation level outer parts rest) :=
    go_local _ _ _
  by_cases hhead : u.head? = some c
  · obtain ⟨u, rfl⟩ : ∃ more, u = c :: more := by
      cases u with
      | nil => cases hhead
      | cons d u => exact ⟨u, by rw [Option.some.inj hhead]⟩
    exact hoperate.takes htwice u
  · have hother (v : List Char) : (u ++ ')' :: v).head? ≠ some c := by
      cases u with
      | nil => exact fun h => hc (Option.some.inj h).symm
      | cons d u => exact hhead
    exact (part_local flags level outer parts c u).congr (List.suffix_refl u) (honce u hhead)
      fun v => honce _ (hother v)

theorem step?_cons_local (flags : Flags) (level : Level) (outer : List Level) (parts : Parts)
    (c : Char) : Local [')'] fun cs => step? flags level outer parts (c :: cs) := by
  by_cases hopen : c = '['
  · subst hopen
    exact step?_open_local flags level outer parts
  by_cases hclose : c = ']'
  · subst hclose
    exact close?_local flags level outer parts
  -- the three operations, of which one character alone starts a part
  by_cases hand : c = '&'
  · subst hand
    refine step?_twice_local (by decide) (fun _ => rfl) fun cs hhead => ?_
    cases cs with
    | nil => rfl
    | cons d cs => simp [step?, show d ≠ '&' from fun hd => hhead (hd ▸ rfl)]
  by_cases hhyphen : c = '-'
  · subst hhyphen
    refine step?_twice_local (by decide) (fun _ => rfl) fun cs hhead => ?_
    cases cs with
    | nil => rfl
    | cons d cs => simp [step?, show d ≠ '-' from fun hd => hhead (hd ▸ rfl)]
  by_cases htilde : c = '~'
  · subst htilde
    refine step?_twice_local (by decide) (fun _ => rfl) fun cs hhead => ?_
    cases cs with
    | nil => rfl
    | cons d cs => simp [step?, show d ≠ '~' from fun hd => hhead (hd ▸ rfl)]
  have hstep (cs : List Char) : step? flags level outer parts (c :: cs) = (do
      let (set, rest) ← range? flags (c :: cs)
      return .go level outer (parts.add set 0) rest : Option Step) := by
    simp [step?, hopen, hclose, hand, hhyphen, htilde]
  simp only [hstep]
  exact part_local flags level outer parts c

/-- Only a closing square bracket ends a set. -/
theorem step?_done {flags : Flags} {level : Level} {outer : List Level} {parts : Parts} {c : Char}
    {cs r : List Char} {set : CharSet} {depth : Nat}
    (h : step? flags level outer parts (c :: cs) = some (.done set depth r)) : c = ']' := by
  have hpart {cs : List Char} (h : (do
      let (set, rest) ← range? flags cs
      return .go level outer (parts.add set 0) rest : Option Step) = some (.done set depth r)) :
      False := by
    obtain ⟨_, -, h⟩ := Option.bind_eq_some_iff.1 h
    cases h
  unfold step? at h
  split at h
  · cases h
  · split at h
    · obtain ⟨_, -, h⟩ := Option.bind_eq_some_iff.1 h
      cases h
    · obtain ⟨_, -, h⟩ := Option.bind_eq_some_iff.1 h
      cases h
  · rename_i heq
    exact (List.cons.inj heq).1
  · cases h
  · cases h
  · cases h
  · exact (hpart h).elim

/-! ## Whole sets -/

/-- The steps after a first one. -/
def goOn? (flags : Flags) (n : Nat) : Step → Option (CharSet × Nat × List Char)
  | .go level outer parts rest => readFrom flags n level outer parts rest
  | .done set depth rest => some (set, depth, rest)

theorem readFrom_succ (flags : Flags) (n : Nat) (level : Level) (outer : List Level)
    (parts : Parts) (cs : List Char) : readFrom flags (n + 1) level outer parts cs =
      step? flags level outer parts (flags.skip cs) >>= goOn? flags n := by
  rw [readFrom]
  cases step? flags level outer parts (flags.skip cs) with
  | none => rfl
  | some step => cases step <;> rfl

theorem step?_takes {flags : Flags} {level : Level} {outer : List Level} {parts : Parts}
    {cs : List Char} {step : Step} (h : step? flags level outer parts (flags.skip cs) = some step) :
    rest step <:+ cs ∧ (rest step).length < cs.length := by
  cases hskip : flags.skip cs with
  | nil =>
    rw [hskip] at h
    cases h
  | cons c more =>
    rw [hskip] at h
    have hrest := (step?_cons_local flags level outer parts c).suffix h
    have hmore : c :: more <:+ cs := hskip ▸ flags.skip_suffix cs
    exact ⟨hrest.trans ((List.suffix_cons c more).trans hmore),
      Nat.lt_of_le_of_lt hrest.length_le hmore.length_le⟩

/-- A set takes at least the bracket that ends it. -/
theorem readFrom_takes {flags : Flags} {n : Nat} {level : Level} {outer : List Level}
    {parts : Parts} {cs : List Char} {b : CharSet × Nat × List Char}
    (h : readFrom flags n level outer parts cs = some b) :
    rest b <:+ cs ∧ (rest b).length < cs.length := by
  induction n generalizing level outer parts cs with
  | zero => cases h
  | succ n ih =>
    rw [readFrom_succ] at h
    obtain ⟨step, hstep, h⟩ := Option.bind_eq_some_iff.1 h
    obtain ⟨hstart, hless⟩ := step?_takes hstep
    cases step with
    | go level outer parts r =>
      obtain ⟨hsuffix, hshort⟩ := ih h
      exact ⟨hsuffix.trans hstart, Nat.lt_trans hshort hless⟩
    | done set depth r =>
      cases h
      exact ⟨hstart, hless⟩

theorem readFrom_steps (flags : Flags) (n : Nat) (level : Level) (outer : List Level)
    (parts : Parts) : Local [] (readFrom flags n level outer parts) := by
  induction n generalizing level outer parts with
  | zero => exact .none
  | succ n ih =>
    have hnext (step : Step) : Local [] fun r => goOn? flags n (leave r step) := by
      cases step with
      | go level outer parts _ => exact ih level outer parts
      | done set depth _ => exact (Local.answer depth).pair set
    refine .uncons flags (fun cs => by simp only [readFrom_succ, Flags.skip_skip]) ?_ fun c hc => ?_
    · rw [readFrom_succ, Flags.skip_nil]
      rfl
    simp only [readFrom_succ, hc _]
    by_cases hclose : c = ']'
    · subst hclose
      exact (close?_local flags level outer parts).bind hnext
    · intro u
      refine ((step?_cons_local flags level outer parts c) u).bind_past hnext ?_
      intro v step b hstep hrest hb
      cases step with
      | done set depth r => exact absurd (step?_done hstep) hclose
      | go level outer parts r =>
        obtain ⟨hsuffix, hless⟩ := readFrom_takes hb
        exact suffix_of_shorter hsuffix hless hrest

theorem readFrom_more {flags : Flags} {n m : Nat} {level : Level} {outer : List Level}
    {parts : Parts} {cs : List Char} (hn : cs.length < n) (hnm : n ≤ m) :
    readFrom flags n level outer parts cs = readFrom flags m level outer parts cs := by
  induction n generalizing m level outer parts cs with
  | zero => exact absurd hn (Nat.not_lt_zero _)
  | succ n ih =>
    obtain ⟨m, rfl⟩ : ∃ k, m = k + 1 := ⟨m - 1, by omega⟩
    rw [readFrom_succ, readFrom_succ]
    cases hstep : step? flags level outer parts (flags.skip cs) with
    | none => rfl
    | some step =>
      cases step with
      | done set depth r => rfl
      | go level' outer' parts' r =>
        have hless : r.length < cs.length := (step?_takes hstep).2
        exact ih (by omega) (Nat.le_of_succ_le_succ hnm)

theorem read?_local (flags : Flags) : Local [] (read? flags) := by
  refine .fueled (f := fun n cs => start? flags cs >>= fun b =>
    readFrom flags n ⟨.none, b.1, none⟩ [] b.2.1 b.2.2) 1 (fun n u => ?_) ?_
  · refine (start?_local flags u).bind_past ?_ fun v b c _ hrest hc => ?_
    · rintro ⟨negated, parts, r⟩
      exact readFrom_steps flags n ⟨.none, negated, none⟩ [] parts
    · obtain ⟨hsuffix, hless⟩ := readFrom_takes hc
      exact suffix_of_shorter hsuffix hless hrest
  · intro n m cs hn hnm
    cases hstart : start? flags cs with
    | none => rfl
    | some b =>
      have hle := ((start?_local flags).suffix hstart).length_le
      exact readFrom_more (Nat.lt_of_le_of_lt hle hn) hnm

end Bracket

end AccessControl.Regex
