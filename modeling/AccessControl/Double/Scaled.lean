/-
Whole numbers scaled by powers of ten. The number, the power and each product or quotient are
rounded by themselves; so the result can lie beside the number that is nearest to the exact value.
-/
import AccessControl.Double

namespace AccessControl.Double

/-- The largest power of ten that is not too large. -/
def maxPower : Nat := 308

def powerOfTen (power : Nat) : Double := (near? false (Nat.pow 10 power) 1).getD .zero

/-- Divides by `divisor` so many times, as long as the result is not zero. -/
def divideTimes (divisor : Double) : Nat → Double → Double
  | 0, d => d
  | n + 1, d =>
    if d.rank = 0 then d
    else match quotient? d divisor with
      | some d => divideTimes divisor n d
      | none => d

/-- The number multiplied or divided by a power of ten. A number is divided by more than the largest
power in several steps, the last of them by what then remains of the power. -/
def scale? (d : Double) (power : Int) : Option Double :=
  let size := power.natAbs
  if 0 ≤ power then
    if size ≤ maxPower then product? d (powerOfTen size) else if d.rank = 0 then some d else none
  else
    let steps := (size - 1) / maxPower
    quotient? (divideTimes (powerOfTen maxPower) steps d) (powerOfTen (size - steps * maxPower))

/-- The number read for `digits * 10 ^ power`, if it is not too large. -/
def ofScaled? (negative : Bool) (digits : Nat) (power : Int) : Option Double :=
  ((ofInt? digits).bind fun d => scale? d power).map fun d => { d with negative }

end AccessControl.Double
