/-
Which parts of a text an expression matches (`Node.Matches`), a relation between the position where
a match starts and the one where it ends. Main statement: the positions that are found are those
where matches end, no more and no less (`Placed.finds`); so an expression occurs in a text if it
matches a part of it (`Node.occursIn_iff`), and with the ends of the text around it if it matches
the whole of it (`Node.occursIn_between_ends`).
-/
import AccessControl.Regex.Reach

namespace AccessControl.Regex

open Text (CharSet)

/-! ## Matches -/

/-- So many steps of the relation one after the other. -/
def Rounds (R : Nat → Nat → Prop) : Nat → Nat → Nat → Prop
  | 0, i, j => i = j
  | n + 1, i, j => ∃ k, R i k ∧ Rounds R n k j

/-- The expression matches the text from the first position to the second. Of a repetition the body
matches so many times; an upper bound below the lower one is none to the least number of times. -/
def Node.Matches (text : List Char) : Node → Nat → Nat → Prop
  | .empty, i, j => i = j
  | .one set, i, j => j = i + 1 ∧ ∃ c, text[i]? = some c ∧ set.has c = true
  | .look l, i, j => i = j ∧ i ≤ text.length ∧
      l.holds (if i = 0 then none else text[i - 1]?) text[i]? = true
  | .group _ body, i, j => body.Matches text i j
  | .seq first second, i, j => ∃ k, first.Matches text i k ∧ second.Matches text k j
  | .either first second, i, j => first.Matches text i j ∨ second.Matches text i j
  | .repeated body min max, i, j => ∃ n, min ≤ n ∧
      (∀ most, max = some most → n ≤ most ∨ n = min) ∧ Rounds (body.Matches text) n i j

section

variable {R : Nat → Nat → Prop} {n m i j : Nat}

theorem rounds_add : Rounds R (n + m) i j ↔ ∃ k, Rounds R n i k ∧ Rounds R m k j := by
  induction n generalizing i with
  | zero => simp [Rounds]
  | succ n ih =>
    rw [Nat.succ_add]
    simp only [Rounds, ih]
    constructor
    · rintro ⟨k, hk, l, hl, hj⟩
      exact ⟨l, ⟨k, hk, hl⟩, hj⟩
    · rintro ⟨l, ⟨k, hk, hl⟩, hj⟩
      exact ⟨k, hk, l, hl, hj⟩

/-- Steps that may also stay are as many steps or fewer. -/
theorem rounds_staying : Rounds (fun i j => i = j ∨ R i j) n i j ↔ ∃ m ≤ n, Rounds R m i j := by
  induction n generalizing i with
  | zero =>
    constructor
    · exact fun h => ⟨0, Nat.le_refl 0, h⟩
    · rintro ⟨m, hm, h⟩
      cases Nat.le_zero.1 hm
      exact h
  | succ n ih =>
    simp only [Rounds, ih]
    constructor
    · rintro ⟨k, rfl | hk, m, hm, h⟩
      · exact ⟨m, Nat.le_succ_of_le hm, h⟩
      · exact ⟨m + 1, Nat.succ_le_succ hm, k, hk, h⟩
    · rintro ⟨m, hm, h⟩
      cases m with
      | zero => exact ⟨i, .inl rfl, 0, Nat.zero_le n, h⟩
      | succ m =>
        obtain ⟨k, hk, h⟩ := h
        exact ⟨k, .inr hk, m, Nat.le_of_succ_le_succ hm, h⟩

theorem Rounds.forward (hR : ∀ i j, R i j → i ≤ j) (h : Rounds R n i j) : i ≤ j := by
  induction n generalizing i with
  | zero => exact Nat.le_of_eq h
  | succ n ih =>
    obtain ⟨k, hk, h⟩ := h
    exact Nat.le_trans (hR i k hk) (ih h)

/-- Of steps that never go back those that go nowhere can be left out. -/
theorem Rounds.shorten (hR : ∀ i j, R i j → i ≤ j) (h : Rounds R n i j) :
    ∃ m ≤ j - i, Rounds R m i j := by
  induction n generalizing i with
  | zero => exact ⟨0, Nat.zero_le _, h⟩
  | succ n ih =>
    obtain ⟨k, hk, h⟩ := h
    obtain ⟨m, hm, hrest⟩ := ih h
    rcases Nat.eq_or_lt_of_le (hR i k hk) with rfl | hlt
    · exact ⟨m, hm, hrest⟩
    · have hforward : k ≤ j := h.forward hR
      exact ⟨m + 1, by omega, k, hk, hrest⟩

/-- A relation that may leave a position only for one in the text. -/
theorem Rounds.inside {length : Nat} (hR : ∀ i j, R i j → i = j ∨ j ≤ length)
    (h : Rounds R n i j) : i = j ∨ j ≤ length := by
  induction n generalizing i with
  | zero => exact .inl h
  | succ n ih =>
    obtain ⟨k, hk, h⟩ := h
    rcases ih h with rfl | hj
    · exact hR i k hk
    · exact .inr hj

end

namespace Node

variable {text : List Char} {i j : Nat}

/-- A match does not end before it starts. -/
theorem Matches.forward {node : Node} (h : node.Matches text i j) : i ≤ j := by
  induction node generalizing i j with
  | empty => exact Nat.le_of_eq h
  | one set => exact h.1 ▸ Nat.le_succ i
  | look look => exact Nat.le_of_eq h.1
  | group number body ih => exact ih h
  | seq first second ihf ihs =>
    obtain ⟨k, hfirst, hsecond⟩ := h
    exact Nat.le_trans (ihf hfirst) (ihs hsecond)
  | either first second ihf ihs => exact h.elim ihf ihs
  | repeated body min max ih =>
    obtain ⟨n, -, -, h⟩ := h
    exact h.forward fun i j => ih

/-- A match that takes a character ends in the text. -/
theorem Matches.inside {node : Node} (h : node.Matches text i j) : i = j ∨ j ≤ text.length := by
  induction node generalizing i j with
  | empty => exact .inl h
  | one set =>
    obtain ⟨rfl, c, hc, -⟩ := h
    exact .inr (List.getElem?_eq_some_iff.1 hc).1
  | look look => exact .inl h.1
  | group number body ih => exact ih h
  | seq first second ihf ihs =>
    obtain ⟨k, hfirst, hsecond⟩ := h
    rcases ihs hsecond with rfl | hj
    · exact ihf hfirst
    · exact .inr hj
  | either first second ihf ihs => exact h.elim ihf ihs
  | repeated body min max ih =>
    obtain ⟨n, -, -, h⟩ := h
    exact h.inside fun i j => ih

/-- A repetition without an upper bound needs no more rounds after the least number than there are
positions. -/
theorem matches_repeated {body : Node} {min : Nat} {max : Option Nat} :
    (repeated body min max).Matches text i j ↔ ∃ k, Rounds (body.Matches text) min i k ∧
      ∃ m ≤ (match max with | some max => max - min | none => text.length + 1),
        Rounds (body.Matches text) m k j := by
  constructor
  · rintro ⟨n, hmin, hmax, h⟩
    obtain ⟨m, rfl⟩ := Nat.exists_eq_add_of_le hmin
    obtain ⟨k, hfirst, hmore⟩ := rounds_add.1 h
    refine ⟨k, hfirst, ?_⟩
    cases max with
    | some max =>
      have hle : m ≤ max - min := by
        rcases hmax max rfl with hmost | hleast <;> omega
      exact ⟨m, hle, hmore⟩
    | none =>
      obtain ⟨l, hl, hshort⟩ := hmore.shorten fun i j => Matches.forward
      have hinside : k = j ∨ j ≤ text.length := hmore.inside fun i j => Matches.inside
      have hle : l ≤ text.length + 1 := by omega
      exact ⟨l, hle, hshort⟩
  · rintro ⟨k, hfirst, m, hm, hmore⟩
    refine ⟨min + m, Nat.le_add_right min m, ?_, rounds_add.2 ⟨k, hfirst, hmore⟩⟩
    rintro most rfl
    have hle : m ≤ most - min := hm
    omega

end Node

/-! ## Sets of positions -/

theorem Positions.testBit_ofFlags (flags : List Bool) (i : Nat) :
    (Positions.ofFlags flags).testBit i = flags.getD i false := by
  induction flags generalizing i with
  | nil => simp [Positions.ofFlags]
  | cons flag flags ih =>
    have hcons : Positions.ofFlags (flag :: flags) =
        2 * Positions.ofFlags flags + flag.toNat := rfl
    rw [hcons]
    cases i with
    | zero =>
      rw [Nat.testBit_zero]
      cases flag <;> simp
    | succ i =>
      have hhalf : (2 * Positions.ofFlags flags + flag.toNat) / 2 = Positions.ofFlags flags := by
        rw [Nat.mul_add_div (by decide)]
        cases flag <;> rfl
      rw [Nat.testBit_succ, hhalf, ih, List.getD_cons_succ]

/-- The function leads from a set of positions to those that the relation leads to. -/
def Finds (step : Positions → Positions) (R : Nat → Nat → Prop) : Prop :=
  ∀ starts j, (step starts).testBit j = true ↔ ∃ i, starts.testBit i = true ∧ R i j

section

variable {step : Positions → Positions} {R : Nat → Nat → Prop}

theorem times_fixed {starts : Positions} (h : step starts = starts) (n : Nat) :
    times step n starts = starts := by
  cases n with
  | zero => rfl
  | succ n => exact if_pos h

theorem Finds.times (h : Finds step R) (n : Nat) : Finds (times step n) (Rounds R n) := by
  induction n with
  | zero => exact fun starts j => by simp [Regex.times, Rounds]
  | succ n ih =>
    intro starts j
    -- also when it stops early the result is that of the remaining steps
    have hnext : Regex.times step (n + 1) starts = Regex.times step n (step starts) := by
      rw [Regex.times]
      split
      · rename_i hfixed
        rw [hfixed, times_fixed hfixed]
      · rfl
    rw [hnext, ih]
    constructor
    · rintro ⟨k, hk, hrounds⟩
      obtain ⟨i, hi, hik⟩ := (h starts k).1 hk
      exact ⟨i, hi, k, hik, hrounds⟩
    · rintro ⟨i, hi, k, hik, hrounds⟩
      exact ⟨k, (h starts k).2 ⟨i, hi, hik⟩, hrounds⟩

theorem upTo_eq_times (n : Nat) (starts : Positions) :
    upTo step n starts = times (fun starts => starts ||| step starts) n starts := by
  induction n generalizing starts with
  | zero => rfl
  | succ n ih =>
    rw [upTo, times, ih]

theorem Finds.upTo (h : Finds step R) (n : Nat) :
    Finds (upTo step n) fun i j => ∃ m ≤ n, Rounds R m i j := by
  have hstay : Finds (fun starts => starts ||| step starts) fun i j => i = j ∨ R i j := by
    intro starts j
    rw [Nat.testBit_or, Bool.or_eq_true, h starts j]
    constructor
    · rintro (hj | ⟨i, hi, hij⟩)
      · exact ⟨j, hj, .inl rfl⟩
      · exact ⟨i, hi, .inr hij⟩
    · rintro ⟨i, hi, rfl | hij⟩
      · exact .inl hi
      · exact .inr ⟨i, hi, hij⟩
  intro starts j
  rw [upTo_eq_times, hstay.times n starts j]
  simp only [rounds_staying]

end

variable {text : List Char}

theorem lookFlags_getD {look : Look} {before : Option Char} {i : Nat} :
    (lookFlags look before text).getD i false = true ↔
      i ≤ text.length ∧ look.holds (if i = 0 then before else text[i - 1]?) text[i]? = true := by
  induction text generalizing before i with
  | nil =>
    cases i with
    | zero => simp [lookFlags]
    | succ i => simp [lookFlags]
  | cons c rest ih =>
    cases i with
    | zero => simp [lookFlags]
    | succ i =>
      rw [lookFlags, List.getD_cons_succ, ih]
      cases i <;> simp

/-- From a set of positions the search finds where matches end that start there. -/
theorem Placed.finds (node : Node) :
    Finds ((node.place text).reach text.length) (node.Matches text) := by
  induction node with
  | empty => exact fun starts j => by simp [Node.place, reach, Node.Matches]
  | one set =>
    intro starts j
    simp only [Node.place, reach, Positions.before, Nat.testBit_shiftLeft, Nat.testBit_and,
      Bool.and_eq_true, decide_eq_true_eq, Positions.testBit_ofFlags,
      List.getD_eq_getElem?_getD, List.getElem?_map]
    constructor
    · rintro ⟨hj, hstart, hhas⟩
      refine ⟨j - 1, hstart, by omega, ?_⟩
      cases hc : text[j - 1]? with
      | none => simp [hc] at hhas
      | some c => exact ⟨c, rfl, by simpa [hc] using hhas⟩
    · rintro ⟨i, hi, rfl, c, hc, hhas⟩
      exact ⟨Nat.le_add_left 1 i, hi, by simp [hc, hhas]⟩
  | look look =>
    intro starts j
    simp only [Node.place, reach, Nat.testBit_and, Bool.and_eq_true, Positions.testBit_ofFlags,
      lookFlags_getD]
    constructor
    · exact fun h => ⟨j, h.1, rfl, h.2⟩
    · rintro ⟨i, hi, rfl, h⟩
      exact ⟨hi, h⟩
  | group number body ih => exact ih
  | seq first second ihf ihs =>
    intro starts j
    simp only [Node.place, reach, ihs _ j, ihf starts]
    constructor
    · rintro ⟨k, ⟨i, hi, hik⟩, hkj⟩
      exact ⟨i, hi, k, hik, hkj⟩
    · rintro ⟨i, hi, k, hik, hkj⟩
      exact ⟨k, ⟨i, hi, hik⟩, hkj⟩
  | either first second ihf ihs =>
    intro starts j
    simp only [Node.place, reach, Nat.testBit_or, Bool.or_eq_true, ihf starts j, ihs starts j]
    constructor
    · rintro (⟨i, hi, h⟩ | ⟨i, hi, h⟩)
      · exact ⟨i, hi, .inl h⟩
      · exact ⟨i, hi, .inr h⟩
    · rintro ⟨i, hi, h | h⟩
      · exact .inl ⟨i, hi, h⟩
      · exact .inr ⟨i, hi, h⟩
  | repeated body min max ih =>
    intro starts j
    simp only [Node.place, reach, Node.matches_repeated, (ih.upTo _) _ j, (ih.times min) starts]
    constructor
    · rintro ⟨k, ⟨i, hi, hik⟩, hkj⟩
      exact ⟨i, hi, k, hik, hkj⟩
    · rintro ⟨i, hi, k, hik, hkj⟩
      exact ⟨k, ⟨i, hi, hik⟩, hkj⟩

namespace Node

/-- An expression occurs in a text if it matches a part of it. -/
theorem occursIn_iff {node : Node} :
    node.occursIn text = true ↔ ∃ i j, i ≤ text.length ∧ node.Matches text i j := by
  have hstarts (i : Nat) : (Nat.pow 2 (text.length + 1) - 1).testBit i = true ↔
      i ≤ text.length := by
    rw [Nat.pow_eq, Nat.testBit_two_pow_sub_one, decide_eq_true_eq, Nat.lt_succ_iff]
  rw [occursIn, bne_iff_ne]
  constructor
  · intro h
    obtain ⟨j, hj⟩ := Nat.exists_testBit_of_ne_zero h
    obtain ⟨i, hi, hmatch⟩ := (Placed.finds node _ j).1 hj
    exact ⟨i, j, (hstarts i).1 hi, hmatch⟩
  · rintro ⟨i, j, hi, hmatch⟩ hzero
    have hj := (Placed.finds node _ j).2 ⟨i, (hstarts i).2 hi, hmatch⟩
    rw [hzero, Nat.zero_testBit] at hj
    cases hj

/-! ## Sequences -/

variable {i j : Nat}

theorem matches_sequence_cons {node : Node} {rest : List Node} :
    (sequence (node :: rest)).Matches text i j ↔
      ∃ k, node.Matches text i k ∧ (sequence rest).Matches text k j := by
  cases rest with
  | nil => simp [sequence, Matches]
  | cons next rest => rfl

theorem matches_sequence_append {first second : List Node} :
    (sequence (first ++ second)).Matches text i j ↔
      ∃ k, (sequence first).Matches text i k ∧ (sequence second).Matches text k j := by
  induction first generalizing i with
  | nil => simp [sequence, Matches]
  | cons node first ih =>
    simp only [List.cons_append, matches_sequence_cons, ih]
    constructor
    · rintro ⟨k, hk, l, hl, hj⟩
      exact ⟨l, ⟨k, hk, hl⟩, hj⟩
    · rintro ⟨l, ⟨k, hk, hl⟩, hj⟩
      exact ⟨k, hk, l, hl, hj⟩

/-! ## Characters -/

/-- The characters one after the other. -/
def characters (cs : List Char) : List Node := cs.map fun c => one (.single c)

theorem has_single (c d : Char) : (CharSet.single c).has d = true ↔ c = d := by
  simp only [CharSet.has, CharSet.hasPoint, CharSet.single, List.any_cons, List.any_nil,
    Bool.or_false, Bool.and_eq_true, decide_eq_true_eq]
  constructor
  · exact fun h => Char.toNat_inj.1 (Nat.le_antisymm h.1 h.2)
  · rintro rfl
    exact ⟨Nat.le_refl _, Nat.le_refl _⟩

/-- A row of characters matches where it stands. -/
theorem matches_characters {cs : List Char} : (sequence (characters cs)).Matches text i j ↔
    j = i + cs.length ∧ cs <+: text.drop i := by
  induction cs generalizing i with
  | nil => simp [characters, sequence, Matches, eq_comm]
  | cons c cs ih =>
    rw [characters, List.map_cons, matches_sequence_cons]
    simp only [Matches, has_single]
    constructor
    · rintro ⟨_, ⟨rfl, d, hd, rfl⟩, hrest⟩
      obtain ⟨rfl, hprefix⟩ := ih.1 hrest
      obtain ⟨hlt, rfl⟩ := List.getElem?_eq_some_iff.1 hd
      refine ⟨by rw [List.length_cons]; omega, ?_⟩
      rw [List.drop_eq_getElem_cons hlt]
      exact List.cons_prefix_cons.2 ⟨rfl, hprefix⟩
    · rintro ⟨rfl, hprefix⟩
      have hlt : i < text.length := by
        have hlength := hprefix.length_le
        simp only [List.length_cons, List.length_drop] at hlength
        omega
      rw [List.drop_eq_getElem_cons hlt, List.cons_prefix_cons] at hprefix
      refine ⟨i + 1, ⟨rfl, c, by rw [List.getElem?_eq_getElem hlt, hprefix.1], rfl⟩, ?_⟩
      exact ih.2 ⟨by rw [List.length_cons]; omega, hprefix.2⟩

/-! ## Ends of the text -/

theorem matches_textStart : (look .textStart).Matches text i j ↔ i = 0 ∧ j = 0 := by
  simp only [Matches, Look.holds]
  constructor
  · rintro ⟨rfl, hi, hholds⟩
    by_cases hzero : i = 0
    · exact ⟨hzero, hzero⟩
    · rw [if_neg hzero, Option.isNone_iff_eq_none, List.getElem?_eq_none_iff] at hholds
      omega
  · rintro ⟨rfl, rfl⟩
    exact ⟨rfl, Nat.zero_le _, rfl⟩

theorem matches_textEnd : (look .textEnd).Matches text i j ↔ i = text.length ∧ j = i := by
  simp only [Matches, Look.holds, Option.isNone_iff_eq_none, List.getElem?_eq_none_iff]
  omega

/-- Parts with the ends of the text around them have to match all of it. -/
theorem occursIn_between_ends {nodes : List Node} :
    (sequence (look .textStart :: nodes ++ [look .textEnd])).occursIn text = true ↔
      (sequence nodes).Matches text 0 text.length := by
  rw [occursIn_iff]
  constructor
  · rintro ⟨i, j, -, h⟩
    obtain ⟨k, hstart, h⟩ := matches_sequence_cons.1 h
    obtain ⟨l, hnodes, hend⟩ := matches_sequence_append.1 h
    rw [(matches_textStart.1 hstart).2, (matches_textEnd.1 hend).1] at hnodes
    exact hnodes
  · intro h
    have hend : (sequence [look .textEnd]).Matches text text.length text.length :=
      matches_textEnd.2 ⟨rfl, rfl⟩
    exact ⟨0, text.length, Nat.zero_le _, matches_sequence_cons.2
      ⟨0, matches_textStart.2 ⟨rfl, rfl⟩, matches_sequence_append.2 ⟨text.length, h, hend⟩⟩⟩

/-- Characters with the ends of the text around them match just the text of them. -/
theorem occursIn_characters {cs : List Char} :
    (sequence (look .textStart :: characters cs ++ [look .textEnd])).occursIn text = true ↔
      text = cs := by
  rw [occursIn_between_ends, matches_characters, Nat.zero_add, List.drop_zero]
  constructor
  · exact fun h => (h.2.eq_of_length h.1.symm).symm
  · rintro rfl
    exact ⟨rfl, List.prefix_refl text⟩

/-- An expression that takes a whole text, with a row of characters at each end of it, occurs only
in texts with these characters at their ends. -/
theorem occursIn_anchored {first last : List Char} {middle : List Node}
    (h : (sequence (look .textStart :: (characters first ++ middle ++ characters last) ++
      [look .textEnd])).occursIn text = true) :
    ∃ between, text = first ++ between ++ last := by
  obtain ⟨j, hinner, hlast⟩ := matches_sequence_append.1 (occursIn_between_ends.1 h)
  obtain ⟨i, hfirst, hmiddle⟩ := matches_sequence_append.1 hinner
  obtain ⟨rfl, hprefix⟩ := matches_characters.1 hfirst
  obtain ⟨hlength, hsuffix⟩ := matches_characters.1 hlast
  have hforward := hmiddle.forward
  rw [List.drop_zero] at hprefix
  obtain ⟨rest, rfl⟩ := hprefix
  refine ⟨rest.take (j - first.length), ?_⟩
  -- the last row starts at `j` and takes all that is left
  have hdrop : last = (first ++ rest).drop j :=
    hsuffix.eq_of_length (by rw [List.length_drop]; omega)
  have hlast : last = rest.drop (j - first.length) := by
    rw [hdrop, List.drop_append, List.drop_of_length_le (by omega), List.nil_append]
  rw [List.append_assoc, hlast, List.take_append_drop]

end Node

end AccessControl.Regex
