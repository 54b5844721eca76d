/-
How numbers are written. Every number is written in the shape of a numeral (`exists_numeral`), and a
text of that shape is one token (`scan_text`). So every number is read as some number wherever a
value may stand (`scanFrom_render`): a whole number of the range as itself (`legibleNumber_whole`),
and any other one perhaps as a number next to it.
-/
import AccessControl.Proofs.Double.Shortest
import AccessControl.Proofs.Json.Number
import AccessControl.Proofs.Numeral

namespace AccessControl.Json

namespace Token

/-! ## Digits -/

/-- A row of digits, and not an empty one. -/
structure Digits (ds : List Char) : Prop where
  nonempty : ds ≠ []
  digits : ∀ c ∈ ds, isDigit c = true

theorem Digits.append {ds more : List Char} (h : Digits ds) (hmore : ∀ c ∈ more, isDigit c = true) :
    Digits (ds ++ more) := by
  refine ⟨List.append_ne_nil_of_left_ne_nil h.nonempty more, fun c hc => ?_⟩
  rcases List.mem_append.1 hc with hc | hc
  · exact h.digits c hc
  · exact hmore c hc

theorem digits_toDigits (n : Nat) : Digits (Nat.toDigits 10 n) :=
  ⟨Nat.toDigits_ne_nil, fun _ => Nat.isDigit_of_mem_toDigits (by omega) (by omega)⟩

theorem isDigit_zeros (n : Nat) : ∀ c ∈ List.replicate n '0', isDigit c = true := by
  intro c hc
  rw [List.eq_of_mem_replicate hc]
  decide

theorem digitsValue_toDigits (n : Nat) : digitsValue (Nat.toDigits 10 n) = n := by
  have hvalue := @Nat.ofDigitChars_ten_toDigits n
  rw [Nat.ofDigitChars_eq_foldl] at hvalue
  unfold digitsValue
  simp only [Nat.mul_comm 10] at hvalue
  exact hvalue

/-- A number of more than one digit does not begin with a zero. -/
theorem toDigits_zero_cons {n : Nat} {cs : List Char} (h : Nat.toDigits 10 n = '0' :: cs) :
    n = 0 ∧ cs = [] := by
  induction n using Nat.strongRecOn generalizing cs with
  | _ n ih =>
    by_cases hn : n < 10
    · rw [Nat.toDigits_of_lt_base hn] at h
      obtain ⟨hzero, hcs⟩ := List.cons.inj h
      have hdigit : ∀ m : Fin 10, Nat.digitChar m.val = '0' → m.val = 0 := by decide
      exact ⟨hdigit ⟨n, hn⟩ hzero, hcs.symm⟩
    · rw [Nat.toDigits_of_base_le (by omega) (by omega)] at h
      cases hfirst : Nat.toDigits 10 (n / 10) with
      | nil => exact absurd hfirst Nat.toDigits_ne_nil
      | cons c more =>
        rw [hfirst] at h
        obtain ⟨rfl, -⟩ := List.cons.inj h
        obtain ⟨hzero, -⟩ := ih (n / 10) (by omega) hfirst
        omega

/-! ## The shape of a numeral -/

def fractionText : Option (List Char) → List Char
  | some ds => '.' :: ds
  | none => []

def powerText : Option (Bool × List Char) → List Char
  | some (negative, ds) => 'e' :: (if negative then '-' else '+') :: ds
  | none => []

namespace Numeral

/-- How a numeral is written, after its sign. -/
def text (n : Numeral) : List Char := n.digits ++ (fractionText n.fraction ++ powerText n.power)

/-- There is a digit wherever there has to be one, and a zero before the point stands alone. -/
structure WellFormed (n : Numeral) : Prop where
  digits : Digits n.digits
  zero : ∀ ds, n.digits = '0' :: ds → ds = []
  fraction : ∀ ds, n.fraction = some ds → Digits ds
  power : ∀ negative ds, n.power = some (negative, ds) → Digits ds

/-- A whole number as it is written. -/
def ofInt (n : Int) : Numeral := ⟨n < 0, Nat.toDigits 10 n.natAbs, none, none⟩

theorem wellFormed_ofInt (n : Int) : (ofInt n).WellFormed where
  digits := digits_toDigits _
  zero _ h := (toDigits_zero_cons h).2
  fraction := nofun
  power := nofun

theorem value_ofInt (n : Int) :
    (ofInt n).value =
      if Number.isWhole n then some (.whole n) else (ofInt n).real?.map .real := by
  have hdigits : digitsValue (ofInt n).digits = n.natAbs := digitsValue_toDigits _
  have hwhole :
      (if (ofInt n).negative = true then -((n.natAbs : Nat) : Int) else n.natAbs) = n := by
    by_cases hn : n < 0
    · have hsign : (ofInt n).negative = true := decide_eq_true hn
      rw [if_pos hsign]
      omega
    · have hsign : (ofInt n).negative = false := decide_eq_false hn
      rw [hsign, if_neg Bool.false_ne_true]
      omega
  have hzero : ((ofInt n).negative && n == 0) = false := by
    by_cases hn : n = 0
    · subst hn
      rfl
    · rw [beq_eq_false_iff_ne.2 hn, Bool.and_false]
  unfold value
  dsimp only
  rw [hdigits, hwhole, hzero]
  simp only [ofInt, Option.isNone_none, Bool.true_and, Bool.not_false, Bool.and_true]

end Numeral

/-! ## Reading what has been written -/

theorem leadingDigits_append_digits {ds : List Char} (h : ∀ c ∈ ds, isDigit c = true)
    {rest : Source} (hrest : leadingDigits rest = []) :
    leadingDigits (ds.map some ++ rest) = ds := by
  induction ds with
  | nil => exact hrest
  | cons c ds ih =>
    have hc := h c List.mem_cons_self
    have hds := ih fun d hd => h d (List.mem_cons_of_mem _ hd)
    rw [List.map_cons, List.cons_append, leadingDigits, if_pos hc, hds]

theorem leadingDigits_powerText (power : Option (Bool × List Char)) :
    leadingDigits ((powerText power).map some) = [] := by
  cases power <;> rfl

theorem drop_map_append (ds : List Char) (rest : Source) :
    (ds.map some ++ rest).drop ds.length = rest := by
  rw [List.drop_append_of_le_length (by rw [List.length_map]),
    List.drop_of_length_le (by rw [List.length_map]), List.nil_append]

variable {n : Numeral}

namespace Numeral.WellFormed

theorem wholePart? (h : n.WellFormed) {rest : Source} (hrest : leadingDigits rest = []) :
    wholePart? (n.digits.map some ++ rest) = some (n.digits, rest) := by
  unfold Token.wholePart?
  rw [leadingDigits_append_digits h.digits.digits hrest]
  split
  · rename_i hnil
    exact absurd hnil h.digits.nonempty
  · rename_i hzero
    cases h.zero _ hzero
  · rw [drop_map_append]

theorem fractionPart? (h : n.WellFormed) :
    fractionPart? ((fractionText n.fraction).map some ++ (powerText n.power).map some) =
      some (n.fraction, (powerText n.power).map some) := by
  cases hfraction : n.fraction with
  | none =>
    rcases n.power with - | ⟨negative, ds⟩ <;> rfl
  | some ds =>
    have hds := h.fraction ds hfraction
    have hempty : ¬ ds.isEmpty = true := fun hempty => hds.nonempty (List.isEmpty_iff.1 hempty)
    show Token.fractionPart? (some '.' :: (ds.map some ++ (powerText n.power).map some)) = _
    simp only [Token.fractionPart?]
    rw [leadingDigits_append_digits hds.digits (leadingDigits_powerText _), if_neg hempty,
      drop_map_append]

theorem powerPart? (h : n.WellFormed) :
    powerPart? ((powerText n.power).map some) = some (n.power, (powerText n.power).length) := by
  cases hpower : n.power with
  | none => rfl
  | some power =>
    obtain ⟨negative, ds⟩ := power
    have hds := h.power negative ds hpower
    have hempty : ¬ ds.isEmpty = true := fun hempty => hds.nonempty (List.isEmpty_iff.1 hempty)
    have hread : leadingDigits (ds.map some) = ds := by
      have hread := @leadingDigits_append_digits ds hds.digits [] rfl
      rwa [List.append_nil] at hread
    have hsign :
        powerSign (some (if negative then '-' else '+') :: ds.map some) = (negative, 1) := by
      cases negative <;> rfl
    show Token.powerPart? (some 'e' :: some (if negative then '-' else '+') :: ds.map some) = _
    simp only [Token.powerPart?, beq_self_eq_true, Bool.true_or, if_true, hsign]
    rw [List.drop_one, List.tail_cons, hread, if_neg hempty]
    simp only [powerText, List.length_cons]
    congr 2
    omega

/-- What is written in the shape of a numeral is read as that numeral. -/
theorem unsigned? (h : n.WellFormed) :
    unsigned? n.negative (n.text.map some) = some (n, n.negative.toNat + n.text.length) := by
  have hrest : leadingDigits
      ((fractionText n.fraction).map some ++ (powerText n.power).map some) = [] := by
    cases n.fraction with
    | none => exact leadingDigits_powerText _
    | some ds => rfl
  have htext : n.text.map some = n.digits.map some ++
      ((fractionText n.fraction).map some ++ (powerText n.power).map some) := by
    simp only [text, List.map_append]
  unfold Token.unsigned?
  rw [htext, h.wholePart? hrest]
  dsimp only [Option.bind_eq_bind, Option.bind_some]
  rw [h.fractionPart?]
  dsimp only [Option.bind_some]
  rw [h.powerPart?]
  dsimp only [Option.bind_some]
  refine congrArg (fun length => some (n, length)) ?_
  simp only [text, List.length_append]
  cases n.fraction <;> simp only [fractionText, List.length_cons, List.length_nil] <;> omega

end Numeral.WellFormed

/-- A text that begins with a digit or a minus is a number or nothing. -/
theorem startingWith_numeral {c : Char} {rest : Source} {length : Nat}
    (hc : isDigit c = true ∨ c = '-') (hread : numeral? (some c :: rest) = some (n, length)) :
    startingWith c rest = (.number n.value, length - 1) := by
  rw [startingWith.eq_11]
  · rw [hread]
  all_goals
    rintro rfl
    revert hc
    decide

theorem scan_numeral {c : Char} {cs : List Char} {length : Nat}
    (hc : isDigit c = true ∨ c = '-')
    (hread : numeral? ((c :: cs).map some) = some (n, length)) (hlength : length = cs.length + 1) :
    scan ((c :: cs).map some) = [.number n.value] := by
  have hblank : isBlank c = false := by
    rcases hc with hc | rfl
    · cases hb : isBlank c with
      | false => rfl
      | true =>
        unfold isBlank at hb
        simp only [Bool.or_eq_true, beq_iff_eq] at hb
        rcases hb with ((rfl | rfl) | rfl) | rfl <;> cases hc
    · decide
  have hstart : startingWith c (cs.map some ++ []) = (.number n.value, (cs.map some).length) := by
    rw [List.append_nil, startingWith_numeral hc hread, hlength, List.length_map]
    rfl
  have hnumber : Token.number n.value ≠ .broken := by simp
  have hscan := scanFrom_token c (cs.map some) [] hblank hnumber hstart
  rw [List.append_nil] at hscan
  exact hscan

/-- What stands before the digits of a numeral. -/
def signText (negative : Bool) : List Char := if negative then ['-'] else []

/-- The text of a numeral is one token, with the value of the numeral. -/
theorem scan_text (h : n.WellFormed) :
    scan ((signText n.negative ++ n.text).map some) = [.number n.value] := by
  obtain ⟨c, more, hdigits⟩ := List.exists_cons_of_ne_nil h.digits.nonempty
  have hc : isDigit c = true := h.digits.digits c (by rw [hdigits]; exact List.mem_cons_self)
  have hread := h.unsigned?
  have htext : n.text = c :: (more ++ (fractionText n.fraction ++ powerText n.power)) := by
    rw [Numeral.text, hdigits, List.cons_append]
  cases hnegative : n.negative with
  | false =>
    rw [hnegative, htext] at hread
    rw [htext]
    have hminus : some c ≠ some '-' := by
      rintro heq
      obtain rfl := Option.some.inj heq
      cases hc
    refine scan_numeral (.inl hc) ((numeral?_unsigned hminus _).trans hread) ?_
    simp
  | true =>
    rw [hnegative] at hread
    refine scan_numeral (.inr rfl) ((numeral?_minus _).trans hread) ?_
    simp [Nat.add_comm]

/-! ## Numbers as numerals -/

theorem toList_toString (m : Int) :
    (toString m).toList = signText (Numeral.ofInt m).negative ++ (Numeral.ofInt m).text := by
  have htext : (Numeral.ofInt m).text = Nat.toDigits 10 m.natAbs := List.append_nil _
  rw [Text.toList_toString, htext]
  unfold Numeral.ofInt signText
  by_cases hm : 0 ≤ m
  · have habs : m.toNat = m.natAbs := by omega
    rw [if_pos hm, decide_eq_false (by omega), habs]
    rfl
  · have habs : (-m).toNat = m.natAbs := by omega
    rw [if_neg hm, decide_eq_true (by omega), habs]
    rfl

variable {negative : Bool} {ds : List Char}

theorem digits_zero : Digits ['0'] where
  nonempty := List.cons_ne_nil _ _
  digits c hc := by rw [List.mem_singleton.1 hc]; decide

/-- Digits with zeros after them stand before the point. -/
theorem wellFormed_padded (h : Digits ds) (zeros : Nat)
    (hzero : ∀ more, ds = '0' :: more → more = [] ∧ zeros = 0) :
    Numeral.WellFormed ⟨negative, ds ++ List.replicate zeros '0', some ['0'], none⟩ where
  digits := h.append (isDigit_zeros _)
  zero more hmore := by
    obtain ⟨c, rest, rfl⟩ := List.exists_cons_of_ne_nil h.nonempty
    obtain ⟨rfl, rfl⟩ := List.cons.inj hmore
    obtain ⟨rfl, rfl⟩ := hzero rest rfl
    rfl
  fraction more hmore := by
    obtain rfl := Option.some.inj hmore
    exact digits_zero
  power := nofun

/-- The point stands among the digits. -/
theorem wellFormed_split (h : Digits ds) (hzero : ∀ more, ds = '0' :: more → more = [])
    (places : Nat) (hpos : 0 < places) (hlt : places < ds.length) :
    Numeral.WellFormed ⟨negative, ds.take places, some (ds.drop places), none⟩ where
  digits := ⟨List.ne_nil_of_length_pos (by rw [List.length_take]; omega), fun c hc =>
    h.digits c (List.mem_of_mem_take hc)⟩
  zero more hmore := by
    have hmore : ds.take places = '0' :: more := hmore
    have hds := List.take_append_drop places ds
    rw [hmore, List.cons_append] at hds
    exact (List.append_eq_nil_iff.1 (hzero _ hds.symm)).1
  fraction more hmore := by
    obtain rfl := Option.some.inj hmore
    exact ⟨List.ne_nil_of_length_pos (by rw [List.length_drop]; omega), fun c hc =>
      h.digits c (List.mem_of_mem_drop hc)⟩
  power := nofun

/-- The digits come after the point and some zeros. -/
theorem wellFormed_small (h : Digits ds) (zeros : Nat) :
    Numeral.WellFormed ⟨negative, ['0'], some (List.replicate zeros '0' ++ ds), none⟩ where
  digits := digits_zero
  zero more hmore := (List.cons.inj hmore).2.symm
  fraction more hmore := by
    obtain rfl := Option.some.inj hmore
    refine ⟨List.append_ne_nil_of_right_ne_nil _ h.nonempty, fun c hc => ?_⟩
    rcases List.mem_append.1 hc with hc | hc
    · exact isDigit_zeros _ c hc
    · exact h.digits c hc
  power := nofun

/-- One digit stands before the point, the others after it if there are any, and then a power. -/
theorem wellFormed_power {c : Char} (h : Digits (c :: ds)) (down : Bool) (power : Nat) :
    Numeral.WellFormed ⟨negative, [c], if ds = [] then none else some ds,
      some (down, Nat.toDigits 10 power)⟩ where
  digits := ⟨List.cons_ne_nil c [], fun d hd =>
    h.digits d (List.mem_singleton.1 hd ▸ List.mem_cons_self)⟩
  zero more hmore := (List.cons.inj hmore).2.symm
  fraction more hmore := by
    dsimp only at hmore
    split at hmore
    · cases hmore
    · rename_i hne
      obtain rfl := Option.some.inj hmore
      exact ⟨hne, fun d hd => h.digits d (List.mem_cons_of_mem c hd)⟩
  power _ more hmore := by
    obtain ⟨-, rfl⟩ := Prod.mk.inj (Option.some.inj hmore)
    exact digits_toDigits power

theorem toList_power (places : Int) :
    (if 0 < places then s!"e+{places - 1}" else s!"e{places - 1}").toList =
      powerText (some (decide (¬ 0 < places), Nat.toDigits 10 (places - 1).natAbs)) := by
  by_cases hpos : 0 < places
  · have habs : (places - 1).toNat = (places - 1).natAbs := by omega
    rw [if_pos hpos, decide_eq_false (not_not.2 hpos)]
    show ("e+" ++ toString (places - 1)).toList = _
    rw [String.toList_append, Text.toList_toString, if_pos (by omega), habs]
    rfl
  · have habs : (-(places - 1)).toNat = (places - 1).natAbs := by omega
    rw [if_neg hpos, decide_eq_true hpos]
    show ("e" ++ toString (places - 1)).toList = _
    rw [String.toList_append, Text.toList_toString, if_neg (by omega), habs]
    rfl

/-- A magnitude is written in one of these ways; zero has to be written without a power of ten. -/
theorem exists_magnitude (negative : Bool) {d : Double.Decimal}
    (hnone : d.digits = 0 → d.exponent = 0) :
    ∃ n : Numeral, n.negative = negative ∧ n.WellFormed ∧ d.render.toList = n.text := by
  have hdigits := digits_toDigits d.digits
  have hzero : ∀ more, Nat.toDigits 10 d.digits = '0' :: more → more = [] ∧ d.exponent = 0 :=
    fun more hmore => ⟨(toDigits_zero_cons hmore).2, hnone (toDigits_zero_cons hmore).1⟩
  unfold Double.Decimal.render
  generalize Nat.toDigits 10 d.digits = ds at hdigits hzero
  dsimp only
  split
  · refine ⟨_, rfl, wellFormed_padded hdigits d.exponent.toNat fun more hmore => ?_, ?_⟩
    · obtain ⟨hmore, hexponent⟩ := hzero more hmore
      exact ⟨hmore, by rw [hexponent]; rfl⟩
    · simp [Numeral.text, fractionText, powerText, Double.zeros]
  · rename_i hbroken
    split
    · rename_i hplaces
      have hnegative : d.exponent < 0 := Int.not_le.1 fun h => hbroken ⟨h, hplaces.2⟩
      refine ⟨_, rfl, wellFormed_split hdigits (fun more hmore => (hzero more hmore).1)
        ((ds.length : Int) + d.exponent).toNat (by omega) (by omega), ?_⟩
      simp [Numeral.text, fractionText, powerText]
    · split
      · refine ⟨_, rfl, wellFormed_small hdigits (-((ds.length : Int) + d.exponent)).toNat, ?_⟩
        simp [Numeral.text, fractionText, powerText, Double.zeros]
      · obtain ⟨c, more, rfl⟩ := List.exists_cons_of_ne_nil hdigits.nonempty
        generalize (((c :: more).length : Int) + d.exponent) = places
        refine ⟨_, rfl, wellFormed_power hdigits (decide (¬ 0 < places)) (places - 1).natAbs, ?_⟩
        have hpower := toList_power places
        generalize (if 0 < places then s!"e+{places - 1}" else s!"e{places - 1}") = power
          at hpower ⊢
        generalize (decide (¬ 0 < places), Nat.toDigits 10 (places - 1).natAbs) = part at hpower ⊢
        cases more <;> simp [Numeral.text, fractionText, hpower]

end Token

/-! ## Numbers -/

open Token

/-- Every number is written in the shape of a numeral, and a whole one as its digits. -/
theorem exists_numeral (n : Number) : ∃ numeral : Numeral, numeral.WellFormed ∧
    n.render.toList = signText numeral.negative ++ numeral.text ∧
      ∀ m, n = .whole m → numeral = .ofInt m := by
  cases n with
  | whole m =>
    exact ⟨.ofInt m, Numeral.wellFormed_ofInt m, toList_toString m, fun k hk =>
      congrArg Numeral.ofInt (Number.whole.inj hk)⟩
  | real d =>
    have hzero : d.shortest.digits = 0 → d.shortest.exponent = 0 := by
      intro hdigits
      by_cases hrank : d.rank = 0
      · rw [Double.shortest_zero hrank]
      · exact absurd hdigits (Double.shortest_digits_pos hrank).ne'
    obtain ⟨numeral, hnegative, hformed, htext⟩ := exists_magnitude d.negative hzero
    refine ⟨numeral, hformed, ?_, nofun⟩
    show ((if d.negative then "-" else "") ++ d.shortest.render).toList = _
    rw [String.toList_append, htext, hnegative]
    cases d.negative <;> rfl

/-- What the text of a number is read as, if it is a number that is not too large. -/
def rereadNumber (n : Number) : Option Number :=
  match scan (sourceOf n.render) with
  | [.number value] => value
  | _ => none

theorem scan_number (n : Number) : scan (sourceOf n.render) = [.number (rereadNumber n)] := by
  obtain ⟨numeral, hformed, htext, -⟩ := exists_numeral n
  have hscan : scan (sourceOf n.render) = [.number numeral.value] := by
    unfold sourceOf
    rw [htext]
    exact scan_text hformed
  unfold rereadNumber
  rw [hscan]

/-- The text of a number is read as some number wherever a value may stand. -/
theorem scanFrom_render (n : Number) {rest : Source} (h : Follows rest) :
    scanFrom 0 (sourceOf n.render ++ rest) = .number (rereadNumber n) :: scanFrom 0 rest :=
  scanFrom_number h.stops (scan_number n)

theorem rereadNumber_of_legible {n : Number} (h : LegibleNumber n) : rereadNumber n = some n := by
  have hscan := legibleNumber_iff.1 h
  rw [scan_number] at hscan
  exact Token.number.inj (List.cons.inj hscan).1

theorem rereadNumber_whole (m : Int) :
    rereadNumber (.whole m) =
      if Number.isWhole m then some (.whole m) else (Numeral.ofInt m).real?.map .real := by
  obtain ⟨numeral, hformed, htext, hwhole⟩ := exists_numeral (.whole m)
  obtain rfl := hwhole m rfl
  rw [← Numeral.value_ofInt]
  have hscan := scan_number (.whole m)
  unfold sourceOf at hscan
  rw [htext, scan_text hformed] at hscan
  exact (Token.number.inj (List.cons.inj hscan).1).symm

/-- Whole numbers of the range are read as they are written. -/
theorem legibleNumber_whole {n : Int} (h : Number.isWhole n = true) :
    LegibleNumber (.whole n) := by
  rw [legibleNumber_iff, scan_number, rereadNumber_whole, if_pos h]

/-- A text of a whole number is read as no other whole number. -/
theorem eq_of_rereadNumber_whole {n m : Int} (h : rereadNumber (.whole n) = some (.whole m)) :
    m = n := by
  rw [rereadNumber_whole] at h
  split at h
  · exact (Number.whole.inj (Option.some.inj h)).symm
  · obtain ⟨d, -, hd⟩ := Option.map_eq_some_iff.1 h
    cases hd

end AccessControl.Json
