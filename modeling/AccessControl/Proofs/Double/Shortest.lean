/-
The shortest decimal of a number has digits. Main statement: among the grids that are tried one hits
the interval of every number but zero, so that its decimal is not zero either
(`shortest_digits_pos`). A grid of eighteen digits is finer than the interval is wide.
-/
import AccessControl.Double.Shortest
import Mathlib.Algebra.Order.Group.Nat
import Mathlib.Tactic.Ring

namespace AccessControl.Double

/-! ## Grids -/

theorem gridStep_pos (e : Int) : 0 < (gridStep e).1 ∧ 0 < (gridStep e).2 := by
  have hpower (b n : Nat) (hb : 0 < b) : 0 < Nat.pow b n := Nat.pow_pos hb
  have hunit := hpower 2 1076 (by decide)
  unfold gridStep
  generalize Nat.pow 2 1076 = unit at hunit ⊢
  split
  · exact ⟨Nat.mul_pos (hpower 10 _ (by decide)) hunit, Nat.one_pos⟩
  · exact ⟨hunit, hpower 10 _ (by decide)⟩

/-- With so many digits more the steps of a grid are by that power of ten finer. -/
theorem gridStep_sub (e : Int) (k : Nat) :
    (gridStep e).1 * (gridStep (e - k)).2 =
      10 ^ k * ((gridStep (e - k)).1 * (gridStep e).2) := by
  unfold gridStep
  generalize Nat.pow 2 1076 = unit
  by_cases he : e - k ≥ 0
  · have hsum : e.toNat = k + (e - k).toNat := by omega
    rw [if_pos he, if_pos (by omega), hsum]
    simp only [Nat.pow_eq, pow_add]
    ring
  · rw [if_neg he]
    by_cases hzero : e ≥ 0
    · have hsum : k = e.toNat + (-(e - k)).toNat := by omega
      have hpower : 10 ^ k = 10 ^ e.toNat * 10 ^ (-(e - k)).toNat := by rw [← pow_add, ← hsum]
      rw [if_pos hzero, hpower]
      simp only [Nat.pow_eq]
      ring
    · have hsum : (-(e - k)).toNat = k + (-e).toNat := by omega
      rw [if_neg hzero, hsum]
      simp only [Nat.pow_eq, pow_add]
      ring

/-! ## Hits -/

variable {i : Interval} {e : Int}

theorem nearestOnGrid?_pos {digits : Nat} (h : nearestOnGrid? i e = some digits) : 0 < digits := by
  unfold nearestOnGrid? at h
  dsimp only at h
  split at h
  · rename_i hhits
    simp only [Bool.and_eq_true, decide_eq_true_eq] at hhits
    split at h <;> cases h
    · exact hhits.1.1
    · exact Nat.succ_pos _
  · split at h
    · rename_i hbelow
      simp only [Bool.and_eq_true, decide_eq_true_eq] at hbelow
      cases h
      exact hbelow.1
    · split at h <;> cases h
      exact Nat.succ_pos _

/-- A grid that is finer than the part of the interval below the value has a point there. -/
theorem nearestOnGrid?_isSome (hhigh : i.value < i.high)
    (hstep : (gridStep e).1 ≤ (i.value - i.low) * (gridStep e).2) :
    (nearestOnGrid? i e).isSome = true := by
  obtain ⟨hpos, hden⟩ := gridStep_pos e
  have hcut : (i.value - i.low) * (gridStep e).2 =
      i.value * (gridStep e).2 - i.low * (gridStep e).2 := Nat.sub_mul _ _ _
  have hle : i.value * (gridStep e).2 / (gridStep e).1 * (gridStep e).1 ≤
      i.value * (gridStep e).2 := Nat.div_mul_le_self _ _
  have hlt : i.value * (gridStep e).2 <
      i.value * (gridStep e).2 / (gridStep e).1 * (gridStep e).1 + (gridStep e).1 :=
    Nat.lt_div_mul_add hpos
  have hends : i.value * (gridStep e).2 < i.high * (gridStep e).2 :=
    (Nat.mul_lt_mul_right hden).2 hhigh
  have hdigits : 0 < i.value * (gridStep e).2 / (gridStep e).1 :=
    Nat.div_pos (by omega) hpos
  have hholds : i.holds (i.value * (gridStep e).2 / (gridStep e).1 * (gridStep e).1)
      (gridStep e).2 = true := by
    unfold Interval.holds
    split
    · simp only [Bool.and_eq_true, decide_eq_true_eq]
      omega
    · simp only [Bool.and_eq_true, decide_eq_true_eq]
      omega
  unfold nearestOnGrid?
  dsimp only
  rw [hholds, decide_eq_true hdigits]
  split
  · split <;> rfl
  · rfl

/-- Where the last grid that is tried has a point in the interval, one is found. -/
theorem firstHit_digits_pos {tries : Nat} (h : (nearestOnGrid? i (e - tries)).isSome = true) :
    0 < (firstHit i (tries + 1) e).digits := by
  induction tries generalizing e with
  | zero =>
    obtain ⟨digits, hdigits⟩ := Option.isSome_iff_exists.1 h
    have hhit : nearestOnGrid? i e = some digits := by
      rwa [Int.natCast_zero, Int.sub_zero] at hdigits
    rw [firstHit, hhit]
    exact nearestOnGrid?_pos hhit
  | succ tries ih =>
    have hnext : e - 1 - (tries : Int) = e - (tries + 1 : Nat) := by omega
    rw [firstHit]
    cases hhit : nearestOnGrid? i e with
    | some digits => exact nearestOnGrid?_pos hhit
    | none => exact ih (hnext ▸ h)

theorem strip_digits_pos {fuel : Nat} {d : Decimal} (h : 0 < d.digits) :
    0 < (d.strip fuel).digits := by
  induction fuel generalizing d with
  | zero => exact h
  | succ fuel ih =>
    unfold Decimal.strip
    split
    · refine ih ?_
      dsimp only
      omega
    · exact h

/-! ## Intervals -/

/-- The value is a whole multiple of a unit, which is no wider than the interval on either side. -/
structure Interval.Wide (i : Interval) (unit : Nat) : Prop where
  pos : 0 < unit
  value : 4 * unit ≤ i.value
  below : unit ≤ i.value - i.low
  above : i.value < i.high
  bound : i.value < Nat.pow 2 55 * unit

theorem interval_wide {rank : Nat} (h : rank ≠ 0) :
    (interval rank).Wide (Nat.pow 2 (shiftOf rank)) := by
  have hsignificand : 1 ≤ significandOf rank ∧ significandOf rank < Nat.pow 2 53 := by
    unfold significandOf
    have h52 : Nat.pow 2 52 = 4503599627370496 := rfl
    have h53 : Nat.pow 2 53 = 9007199254740992 := rfl
    have hrest : rank % Nat.pow 2 52 < Nat.pow 2 52 := Nat.mod_lt _ (by decide)
    split <;> omega
  have hunit : 0 < Nat.pow 2 (shiftOf rank) := Nat.pow_pos (by decide)
  have hvalue : (interval rank).value = 4 * (significandOf rank * Nat.pow 2 (shiftOf rank)) := rfl
  have hleast : Nat.pow 2 (shiftOf rank) ≤ significandOf rank * Nat.pow 2 (shiftOf rank) :=
    Nat.le_mul_of_pos_left _ hsignificand.1
  have hmost : significandOf rank * Nat.pow 2 (shiftOf rank) <
      Nat.pow 2 53 * Nat.pow 2 (shiftOf rank) := (Nat.mul_lt_mul_right hunit).2 hsignificand.2
  have hscale : Nat.pow 2 55 * Nat.pow 2 (shiftOf rank) =
      4 * (Nat.pow 2 53 * Nat.pow 2 (shiftOf rank)) := by
    rw [← Nat.mul_assoc]
  refine ⟨hunit, by omega, ?_, ?_, by omega⟩
  · rw [hvalue]
    unfold interval
    dsimp only
    unfold unitsOf
    split <;> omega
  · unfold interval
    dsimp only
    omega

/-- The leading exponent is one whose power is no larger than the value, if the least one that is
tried is. -/
theorem gridStep_leadingExponent {fuel : Nat}
    (h : (gridStep (e - fuel)).1 ≤ i.value * (gridStep (e - fuel)).2) :
    (gridStep (leadingExponent i fuel e)).1 ≤
      i.value * (gridStep (leadingExponent i fuel e)).2 := by
  induction fuel generalizing e with
  | zero => rwa [Int.natCast_zero, Int.sub_zero] at h
  | succ fuel ih =>
    have hnext : e - 1 - (fuel : Int) = e - (fuel + 1 : Nat) := by omega
    unfold leadingExponent
    dsimp only
    split
    · assumption
    · exact ih (hnext ▸ h)

/-- Seventeen digits after the first one are enough to hit the interval. -/
theorem Interval.Wide.hit {unit : Nat} (h : i.Wide unit)
    (hlead : (gridStep e).1 ≤ i.value * (gridStep e).2) :
    (nearestOnGrid? i (e - (17 : Nat))).isSome = true := by
  have hbelow := h.below
  refine nearestOnGrid?_isSome h.above ?_
  have hfiner := gridStep_sub e 17
  obtain ⟨-, hden⟩ := gridStep_pos e
  generalize gridStep (e - (17 : Nat)) = fine at hfiner ⊢
  generalize gridStep e = coarse at hlead hfiner hden
  -- ten to the seventeenth exceeds the ratio of the value and the unit
  have hratio : 10 ^ 17 * (fine.1 * coarse.2) ≤ 10 ^ 17 * (unit * fine.2 * coarse.2) :=
    calc 10 ^ 17 * (fine.1 * coarse.2) = coarse.1 * fine.2 := hfiner.symm
      _ ≤ i.value * coarse.2 * fine.2 := Nat.mul_le_mul_right _ hlead
      _ ≤ Nat.pow 2 55 * unit * coarse.2 * fine.2 :=
        Nat.mul_le_mul_right _ (Nat.mul_le_mul_right _ h.bound.le)
      _ ≤ 10 ^ 17 * unit * coarse.2 * fine.2 :=
        Nat.mul_le_mul_right _ (Nat.mul_le_mul_right _ (Nat.mul_le_mul_right _ (by decide)))
      _ = 10 ^ 17 * (unit * fine.2 * coarse.2) := by ring
  have hsteps : fine.1 * coarse.2 ≤ unit * fine.2 * coarse.2 :=
    Nat.le_of_mul_le_mul_left hratio (by decide)
  exact (Nat.le_of_mul_le_mul_right hsteps hden).trans (Nat.mul_le_mul_right _ hbelow)

/-! ## Shortest decimals -/

theorem shortest_zero {d : Double} (h : d.rank = 0) : d.shortest = ⟨0, 0⟩ := if_pos h

/-- The decimal of a number that is not zero is not zero. -/
theorem shortest_digits_pos {d : Double} (h : d.rank ≠ 0) : 0 < d.shortest.digits := by
  have hwide := interval_wide h
  have hleast : (gridStep ((309 : Int) - (640 : Nat))).1 ≤
      (interval d.rank).value * (gridStep ((309 : Int) - (640 : Nat))).2 := by
    have hfour : 4 ≤ (interval d.rank).value := by
      have hvalue := hwide.value
      have hpos := hwide.pos
      omega
    have hgrid : (gridStep ((309 : Int) - (640 : Nat))).1 ≤
        4 * (gridStep ((309 : Int) - (640 : Nat))).2 := by decide +kernel
    exact hgrid.trans (Nat.mul_le_mul_right _ hfour)
  unfold shortest
  rw [if_neg h]
  exact strip_digits_pos (firstHit_digits_pos (hwide.hit (gridStep_leadingExponent hleast)))

end AccessControl.Double
