/-
Whole numbers are read as they are written. Main statement: the text of a number is read as that
number (`signed?_toString`).
-/
import AccessControl.Text.Numeral
import Mathlib.Data.Nat.Digits.Defs

namespace AccessControl.Text

theorem digits?_toDigits (n : Nat) : digits? (Nat.toDigits 10 n) = some n := by
  have hnonempty : (Nat.toDigits 10 n).isEmpty = false :=
    List.isEmpty_eq_false_iff.2 Nat.toDigits_ne_nil
  have hdigits : (Nat.toDigits 10 n).all Char.isDigit = true :=
    List.all_eq_true.2 fun c hc => Nat.isDigit_of_mem_toDigits (by omega) (by omega) hc
  have hvalue : (Nat.toDigits 10 n).foldl (fun n c => 10 * n + (c.toNat - '0'.toNat)) 0 = n := by
    rw [← Nat.ofDigitChars_eq_foldl, Nat.ofDigitChars_ten_toDigits]
  unfold digits?
  rw [hnonempty, hdigits, hvalue]
  rfl

/-- The digits of a number begin with a digit, so with no sign. -/
theorem toDigits_cons (n : Nat) : ∃ c cs, Nat.toDigits 10 n = c :: cs ∧ c.isDigit = true := by
  cases hdigits : Nat.toDigits 10 n with
  | nil => exact absurd hdigits Nat.toDigits_ne_nil
  | cons c cs =>
    have hc : c ∈ Nat.toDigits 10 n := by simp [hdigits]
    exact ⟨c, cs, rfl, Nat.isDigit_of_mem_toDigits (by omega) (by omega) hc⟩

theorem toList_toString (n : Int) :
    (toString n).toList =
      if 0 ≤ n then Nat.toDigits 10 n.toNat else '-' :: Nat.toDigits 10 (-n).toNat := by
  rw [Int.toString_eq_repr, Int.repr_eq_if]
  split
  · rw [Nat.toList_repr]
  · rw [String.toList_append, Nat.toList_repr]
    rfl

/-- The text of a number is read as that number. -/
theorem signed?_toString (n : Int) : signed? (toString n) = some n := by
  unfold signed?
  rw [toList_toString]
  by_cases hn : 0 ≤ n
  · rw [if_pos hn]
    obtain ⟨c, cs, hcs, hc⟩ := toDigits_cons n.toNat
    have hread := digits?_toDigits n.toNat
    rw [hcs] at hread ⊢
    have hminus : c ≠ '-' := by rintro rfl; exact absurd hc (by decide)
    have hplus : c ≠ '+' := by rintro rfl; exact absurd hc (by decide)
    have hsize : Int.ofNat n.toNat = n := Int.toNat_of_nonneg hn
    split
    · rename_i h; exact absurd (List.cons.inj h).1 hminus
    · rename_i h; exact absurd (List.cons.inj h).1 hplus
    · rw [hread, Option.map_some, hsize]
  · rw [if_neg hn]
    simp only [digits?_toDigits]
    show some (-((-n).toNat : Int)) = some n
    congr 1
    omega

theorem toString_injective {a b : Int} (h : toString a = toString b) : a = b := by
  have hread := signed?_toString a
  rw [h, signed?_toString] at hread
  exact (Option.some.inj hread).symm

/-- A number of 64 bits is read as itself, and one that needs more is not read. -/
theorem int64?_toString (n : Int) :
    int64? (toString n) =
      if -(Nat.pow 2 63 : Int) ≤ n ∧ n < Nat.pow 2 63 then some n else none := by
  unfold int64?
  rw [signed?_toString, Option.filter_some]
  simp only [Bool.and_eq_true, decide_eq_true_eq]

end AccessControl.Text
