/-
The shortest decimal that reads back as a floating point number. The reals that round to the number
form an interval; the answer is a decimal in it with the fewest digits, and of those the nearest to
the number itself.
-/
import AccessControl.Double

namespace AccessControl.Double

/-- A decimal `digits * 10 ^ exponent`. -/
structure Decimal where
  digits : Nat
  exponent : Int
deriving DecidableEq, Repr

/-- The interval of reals that round to the magnitude of a rank, and the magnitude itself, in
quarters of the smallest magnitude. The ends belong to it when the significand is even. -/
structure Interval where
  low : Nat
  value : Nat
  high : Nat
  closed : Bool

def interval (rank : Nat) : Interval :=
  let unit := Nat.pow 2 (shiftOf rank)
  let value := 4 * unitsOf rank
  let below := if rank % Nat.pow 2 52 = 0 ∧ Nat.pow 2 53 ≤ rank then unit else 2 * unit
  ⟨value - below, value, value + 2 * unit, rank % 2 == 0⟩

/-- Whether `num / den`, in quarters of the smallest magnitude, lies in the interval. -/
def Interval.holds (i : Interval) (num den : Nat) : Bool :=
  if i.closed then i.low * den ≤ num && num ≤ i.high * den
  else i.low * den < num && num < i.high * den

/-- The grid of decimals with a given exponent: a step of it, in quarters of the smallest
magnitude, is the quotient of the two numbers. -/
def gridStep (exponent : Int) : Nat × Nat :=
  if exponent ≥ 0 then (Nat.pow 10 exponent.toNat * Nat.pow 2 1076, 1)
  else (Nat.pow 2 1076, Nat.pow 10 (-exponent).toNat)

/-- The point of the grid in the interval that is nearest to the value; of two equally near ones
the even one. Only the two points next to the value can be it. -/
def nearestOnGrid? (i : Interval) (exponent : Int) : Option Nat :=
  let (step, den) := gridStep exponent
  let value := i.value * den
  let below := value / step
  let hitsBelow := 0 < below && i.holds (below * step) den
  let hitsAbove := i.holds ((below + 1) * step) den
  let rest := 2 * (value % step)
  if hitsBelow && hitsAbove then
    if rest < step || (rest == step && below % 2 == 0) then some below else some (below + 1)
  else if hitsBelow then some below
  else if hitsAbove then some (below + 1)
  else none

/-- The largest exponent `e` with `10 ^ e` at most the value; found by counting down from `e`. -/
def leadingExponent (i : Interval) : Nat → Int → Int
  | 0, e => e
  | fuel + 1, e =>
    let (step, den) := gridStep e
    if step ≤ i.value * den then e else leadingExponent i fuel (e - 1)

/-- The first hit on grids with more and more digits. -/
def firstHit (i : Interval) : Nat → Int → Decimal
  | 0, e => ⟨0, e⟩
  | fuel + 1, e =>
    match nearestOnGrid? i e with
    | some digits => ⟨digits, e⟩
    | none => firstHit i fuel (e - 1)

/-- The decimal without zeros at the end of its digits. -/
def Decimal.strip : Nat → Decimal → Decimal
  | 0, d => d
  | fuel + 1, d =>
    if d.digits ≠ 0 ∧ d.digits % 10 = 0 then strip fuel ⟨d.digits / 10, d.exponent + 1⟩ else d

/-- The shortest decimal that rounds to the magnitude; seventeen digits always suffice. -/
def shortest (d : Double) : Decimal :=
  if d.rank = 0 then ⟨0, 0⟩
  else
    let i := interval d.rank
    (firstHit i 18 (leadingExponent i 640 309)).strip 20

/-! ## The text -/

/-- From how many places before the point a number is written with an exponent. -/
def plainPlaces : Int := 16

/-- How many zeros may stand between the point and the first digit. -/
def plainZeros : Int := 4

def zeros (n : Int) : String := String.ofList (List.replicate n.toNat '0')

/-- The text of a magnitude: with a point and at least one digit on both sides of it, or with an
exponent, which has a sign, when it is very large or very small. -/
def Decimal.render (d : Decimal) : String :=
  let digits := (Nat.toDigits 10 d.digits)
  let places : Int := digits.length + d.exponent
  if 0 ≤ d.exponent ∧ places ≤ plainPlaces then
    String.ofList digits ++ zeros d.exponent ++ ".0"
  else if 0 < places ∧ places ≤ plainPlaces then
    String.ofList (digits.take places.toNat) ++ "." ++ String.ofList (digits.drop places.toNat)
  else if -plainZeros ≤ places ∧ places ≤ 0 then
    "0." ++ zeros (-places) ++ String.ofList digits
  else
    let power := if 0 < places then s!"e+{places - 1}" else s!"e{places - 1}"
    match digits with
    | [] => ""
    | [c] => c.toString ++ power
    | c :: more => c.toString ++ "." ++ String.ofList more ++ power

/-- The text of a number. -/
def render (d : Double) : String := (if d.negative then "-" else "") ++ d.shortest.render

end AccessControl.Double
