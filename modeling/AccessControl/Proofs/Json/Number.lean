/-
Numbers in JSON texts. What is read as a number where it stands alone is so wherever a value may
stand, because nothing that may follow a value goes on with a number (`scanFrom_number`); so a
number is legible if it is read as itself where it stands alone (`legibleNumber_iff`).
-/
import AccessControl.Proofs.Json.Token

namespace AccessControl.Json

namespace Token

/-! ## What may follow a number -/

/-- The text does not go on with a part of a number. -/
def Stops (rest : Source) : Prop :=
  ∀ c cs, rest = some c :: cs → isDigit c = false ∧ c ≠ '.' ∧ c ≠ 'e' ∧ c ≠ 'E'

theorem Follows.stops {rest : Source} (h : Follows rest) : Stops rest := by
  rintro c cs rfl
  rcases h with h | ⟨c', cs', h, hc'⟩
  · cases h
  · obtain ⟨hc, -⟩ := List.cons.inj h
    obtain rfl := Option.some.inj hc
    simp only [List.mem_cons, List.not_mem_nil, or_false] at hc'
    rcases hc' with rfl | rfl | rfl <;> decide

theorem leadingDigits_append {rest : Source} (h : Stops rest) (cs : Source) :
    leadingDigits (cs ++ rest) = leadingDigits cs := by
  induction cs with
  | nil =>
    cases rest with
    | nil => rfl
    | cons c rest =>
      cases c with
      | none => rfl
      | some c =>
        have hc := (h c rest rfl).1
        simp [leadingDigits, hc]
  | cons c cs ih =>
    cases c with
    | none => rfl
    | some c =>
      simp only [List.cons_append, leadingDigits]
      rw [ih]

theorem length_leadingDigits_le (cs : Source) : (leadingDigits cs).length ≤ cs.length := by
  induction cs with
  | nil => simp [leadingDigits]
  | cons c cs ih =>
    cases c with
    | none => simp [leadingDigits]
    | some c =>
      simp only [leadingDigits]
      split
      · simp only [List.length_cons]
        omega
      · simp

/-! ## The parts of a number -/

theorem wholePart?_append {cs left rest : Source} {ds : List Char} (h : Stops rest)
    (hread : wholePart? cs = some (ds, left)) :
    wholePart? (cs ++ rest) = some (ds, left ++ rest) ∧ cs.length = ds.length + left.length := by
  have hle := length_leadingDigits_le cs
  unfold wholePart? at hread ⊢
  rw [leadingDigits_append h]
  split at hread
  · cases hread
  · cases hread
  · rename_i hne hzero
    obtain ⟨rfl, rfl⟩ := Prod.mk.inj (Option.some.inj hread)
    refine ⟨?_, ?_⟩
    · rw [List.drop_append_of_le_length hle]
    · rw [List.length_drop]
      omega

theorem fractionPart?_append {cs left rest : Source} {ds : Option (List Char)} (h : Stops rest)
    (hread : fractionPart? cs = some (ds, left)) :
    fractionPart? (cs ++ rest) = some (ds, left ++ rest) ∧
      cs.length = (match ds with | some ds => 1 + ds.length | none => 0) + left.length := by
  unfold fractionPart? at hread
  split at hread
  · rename_i tail
    dsimp only at hread
    split at hread
    · cases hread
    · rename_i hne
      obtain ⟨rfl, rfl⟩ := Prod.mk.inj (Option.some.inj hread)
      have hle := length_leadingDigits_le tail
      constructor
      · simp only [List.cons_append, fractionPart?, leadingDigits_append h]
        rw [if_neg hne, List.drop_append_of_le_length hle]
      · simp only [List.length_cons, List.length_drop]
        omega
  · rename_i hpoint
    obtain ⟨rfl, rfl⟩ := Prod.mk.inj (Option.some.inj hread)
    refine ⟨?_, by simp⟩
    unfold fractionPart?
    split
    · rename_i tail hcs
      cases cs with
      | nil => exact absurd rfl (h '.' tail hcs).2.1
      | cons c cs =>
        obtain ⟨rfl, -⟩ := List.cons.inj hcs
        exact absurd rfl (hpoint _)
    · rfl

theorem powerSign_append {cs rest : Source} (hne : leadingDigits (cs.drop (powerSign cs).2) ≠ []) :
    powerSign (cs ++ rest) = powerSign cs ∧ (powerSign cs).2 ≤ cs.length := by
  cases cs with
  | nil => simp [powerSign, leadingDigits] at hne
  | cons c cs =>
    refine ⟨?_, ?_⟩
    · unfold powerSign
      split <;> simp_all
    · unfold powerSign
      split <;> simp

theorem powerPart?_append {cs rest : Source} {power : Option (Bool × List Char)} {length : Nat}
    (h : Stops rest) (hread : powerPart? cs = some (power, length)) :
    powerPart? (cs ++ rest) = some (power, length) ∧ length ≤ cs.length := by
  cases cs with
  | nil =>
    obtain ⟨rfl, rfl⟩ := Prod.mk.inj (Option.some.inj hread)
    refine ⟨?_, Nat.le_refl _⟩
    cases rest with
    | nil => rfl
    | cons c rest =>
      cases c with
      | none => rfl
      | some c =>
        obtain ⟨-, -, he, hE⟩ := h c rest rfl
        simp [powerPart?, he, hE]
  | cons c cs =>
    cases c with
    | none =>
      obtain ⟨rfl, rfl⟩ := Prod.mk.inj (Option.some.inj hread)
      exact ⟨rfl, Nat.zero_le _⟩
    | some c =>
      simp only [powerPart?, List.cons_append] at hread ⊢
      by_cases hc : (c == 'e' || c == 'E') = true
      · rw [if_pos hc] at hread ⊢
        by_cases hne : (leadingDigits (cs.drop (powerSign cs).2)).isEmpty = true
        · rw [if_pos hne] at hread
          cases hread
        · rw [if_neg hne] at hread
          obtain ⟨hsign, hle⟩ :=
            @powerSign_append cs rest fun hnil => hne (List.isEmpty_iff.2 hnil)
          have hdigits := length_leadingDigits_le (cs.drop (powerSign cs).2)
          rw [List.length_drop] at hdigits
          rw [hsign, List.drop_append_of_le_length hle, leadingDigits_append h, if_neg hne]
          refine ⟨hread, ?_⟩
          obtain ⟨-, rfl⟩ := Prod.mk.inj (Option.some.inj hread)
          simp only [List.length_cons]
          omega
      · rw [if_neg hc] at hread ⊢
        refine ⟨hread, ?_⟩
        obtain ⟨-, rfl⟩ := Prod.mk.inj (Option.some.inj hread)
        exact Nat.zero_le _

/-- The number that is read when its sign has been. -/
def unsigned? (negative : Bool) (cs : Source) : Option (Numeral × Nat) := do
  let (digits, cs) ← wholePart? cs
  let (fraction, cs) ← fractionPart? cs
  let (power, powerLength) ← powerPart? cs
  let fractionLength := match fraction with
    | some ds => 1 + ds.length
    | none => 0
  return (⟨negative, digits, fraction, power⟩,
    negative.toNat + digits.length + fractionLength + powerLength)

theorem numeral?_minus (cs : Source) : numeral? (some '-' :: cs) = unsigned? true cs := rfl

theorem numeral?_unsigned {c : Option Char} (hc : c ≠ some '-') (cs : Source) :
    numeral? (c :: cs) = unsigned? false (c :: cs) := by
  have hsign : ((c :: cs).head? == some (some '-')) = false := by simpa using hc
  unfold numeral?
  rw [hsign]
  rfl

theorem unsigned?_append {negative : Bool} {cs rest : Source} {n : Numeral} {length : Nat}
    (h : Stops rest) (hread : unsigned? negative cs = some (n, length)) :
    unsigned? negative (cs ++ rest) = some (n, length) ∧
      length ≤ negative.toNat + cs.length := by
  unfold unsigned? at hread ⊢
  obtain ⟨⟨digits, left⟩, hwhole, hread⟩ := Option.bind_eq_some_iff.1 hread
  obtain ⟨⟨fraction, left'⟩, hfraction, hread⟩ := Option.bind_eq_some_iff.1 hread
  obtain ⟨⟨power, powerLength⟩, hpower, hread⟩ := Option.bind_eq_some_iff.1 hread
  obtain ⟨hwhole, hlen⟩ := wholePart?_append h hwhole
  obtain ⟨hfraction, hlen'⟩ := fractionPart?_append h hfraction
  obtain ⟨hpower, hle⟩ := powerPart?_append h hpower
  refine ⟨?_, ?_⟩
  · rw [hwhole]
    dsimp only [Option.bind_eq_bind, Option.bind_some]
    rw [hfraction]
    dsimp only [Option.bind_some]
    rw [hpower]
    exact hread
  · obtain ⟨-, rfl⟩ := Prod.mk.inj (Option.some.inj hread)
    cases fraction <;> simp only at hlen' ⊢ <;> omega

/-- A number at the start of a text is read in the same way when the text goes on with something
else, and it does not reach beyond the text. -/
theorem numeral?_append {cs rest : Source} {n : Numeral} {length : Nat} (h : Stops rest)
    (hread : numeral? cs = some (n, length)) :
    numeral? (cs ++ rest) = some (n, length) ∧ length ≤ cs.length := by
  cases cs with
  | nil => cases hread
  | cons c cs =>
    by_cases hc : c = some '-'
    · subst hc
      rw [numeral?_minus] at hread
      obtain ⟨hread, hle⟩ := unsigned?_append h hread
      refine ⟨(numeral?_minus (cs ++ rest)).trans hread, ?_⟩
      simp only [Bool.toNat_true, List.length_cons] at hle ⊢
      omega
    · rw [numeral?_unsigned hc] at hread
      obtain ⟨hread, hle⟩ := unsigned?_append h hread
      refine ⟨(numeral?_unsigned hc (cs ++ rest)).trans hread, ?_⟩
      simpa using hle

/-! ## Scanning -/

/-- What is read of a text to its end leaves the text that follows to be read. -/
theorem scanFrom_nil_append {cs : Source} {skip : Nat} (hskip : skip ≤ cs.length)
    (hscan : scanFrom skip cs = []) (rest : Source) :
    scanFrom skip (cs ++ rest) = scanFrom 0 rest := by
  induction cs generalizing skip with
  | nil =>
    obtain rfl : skip = 0 := Nat.le_zero.1 hskip
    rfl
  | cons c cs ih =>
    cases skip with
    | succ skip => exact ih (Nat.le_of_succ_le_succ hskip) hscan
    | zero =>
      cases c with
      | none => cases hscan
      | some c =>
        rw [List.cons_append, scanFrom.eq_4]
        rw [scanFrom.eq_4] at hscan
        by_cases hblank : isBlank c = true
        · rw [if_pos hblank] at hscan ⊢
          exact ih (Nat.zero_le _) hscan
        · rw [if_neg hblank] at hscan
          split at hscan <;> cases hscan

/-- A character that starts a number starts nothing else. -/
theorem startingWith_number {c : Char} {cs : Source} {v : Option Number} {used : Nat}
    (h : startingWith c cs = (.number v, used)) :
    (∃ n length, numeral? (some c :: cs) = some (n, length) ∧ v = n.value ∧ used = length - 1) ∧
      ∀ rest n length, numeral? (some c :: rest) = some (n, length) →
        startingWith c rest = (.number n.value, length - 1) := by
  unfold startingWith at h
  split at h
  case h_11 =>
    refine ⟨?_, fun rest n length hread => ?_⟩
    · split at h
      · rename_i n length hread
        obtain ⟨hv, hused⟩ := Prod.mk.inj h
        exact ⟨n, length, hread, (Token.number.inj hv).symm, hused.symm⟩
      · cases h
    · rw [startingWith.eq_11]
      · rw [hread]
      all_goals assumption
  case h_7 => split at h <;> cases h
  case h_8 => split at h <;> cases h
  case h_9 => split at h <;> cases h
  case h_10 => split at h <;> cases h
  all_goals cases h

/-- A text of a number alone is read in the same way when the text goes on with something else. -/
theorem scanFrom_number {cs rest : Source} {v : Option Number} (h : Stops rest)
    (hscan : scanFrom 0 cs = [.number v]) :
    scanFrom 0 (cs ++ rest) = .number v :: scanFrom 0 rest := by
  induction cs with
  | nil => cases hscan
  | cons c cs ih =>
    cases c with
    | none => cases hscan
    | some c =>
      rw [List.cons_append, scanFrom.eq_4]
      rw [scanFrom.eq_4] at hscan
      by_cases hblank : isBlank c = true
      · rw [if_pos hblank] at hscan ⊢
        exact ih hscan
      · rw [if_neg hblank] at hscan ⊢
        rcases hstart : startingWith c cs with ⟨token, used⟩
        rw [hstart] at hscan
        have hsplit : token = .number v ∧ scanFrom used cs = [] := by
          cases token <;> simp_all
        obtain ⟨rfl, hend⟩ := hsplit
        obtain ⟨⟨n, length, hread, rfl, rfl⟩, hagain⟩ := startingWith_number hstart
        obtain ⟨hread, hle⟩ := numeral?_append h hread
        rw [hagain (cs ++ rest) n length hread]
        dsimp only
        have hused : length - 1 ≤ cs.length := by
          simp only [List.length_cons] at hle
          omega
        rw [scanFrom_nil_append hused hend]

end Token

open Token

/-- A number is legible when its text alone is one token with that number. -/
theorem legibleNumber_iff {n : Number} :
    LegibleNumber n ↔ scan (sourceOf n.render) = [.number (some n)] := by
  constructor
  · intro h
    have hscan := h [] (.inl rfl)
    rwa [List.append_nil] at hscan
  · intro hscan rest hrest
    exact scanFrom_number hrest.stops hscan

end AccessControl.Json
