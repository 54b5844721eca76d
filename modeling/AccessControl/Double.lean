/-
Finite binary floating point numbers of 64 bits. A number is a sign and a rank: the place of its
magnitude among all magnitudes in ascending order, which is also what its bits spell without the
sign. A magnitude is a whole multiple of the smallest one, `2 ^ (-1074)`.
-/
namespace AccessControl

/-- How many finite magnitudes there are. -/
def Double.ranks : Nat := 2047 * Nat.pow 2 52

/-- A finite number: the sign and the rank of the magnitude. -/
structure Double where
  negative : Bool
  rank : Nat
  rank_lt : rank < Double.ranks
deriving DecidableEq, Repr

namespace Double

def zero : Double := ⟨false, 0, by decide⟩

/-- The significand of the magnitude of a rank. -/
def significandOf (rank : Nat) : Nat :=
  if rank < Nat.pow 2 52 then rank else rank % Nat.pow 2 52 + Nat.pow 2 52

/-- How often the significand is doubled. -/
def shiftOf (rank : Nat) : Nat := rank / Nat.pow 2 52 - 1

/-- The magnitude of a rank, as a multiple of the smallest magnitude. -/
def unitsOf (rank : Nat) : Nat := significandOf rank * Nat.pow 2 (shiftOf rank)

def units (d : Double) : Nat := unitsOf d.rank

/-- The value as a multiple of the smallest magnitude. -/
def signedUnits (d : Double) : Int := if d.negative then -(d.units : Int) else d.units

/-- Both zeros are one value. -/
def same (a b : Double) : Bool := a.signedUnits == b.signedUnits

def lt (a b : Double) : Bool := a.signedUnits < b.signedUnits

def le (a b : Double) : Bool := a.signedUnits ≤ b.signedUnits

/-- The quotient rounded to the nearest whole number; a half goes to the even one. -/
def roundDiv (num den : Nat) : Nat :=
  let q := num / den
  let rest := 2 * (num % den)
  if rest < den || (rest == den && q % 2 == 0) then q else q + 1

/-- The rank of the magnitude nearest to `num / den`, or `ranks` or more if that is too large. Ties
go to the even significand. The significand is cut at 53 bits; one that is rounded up to 54 bits
gives the next rank all the same, because ranks count on from one doubling to the next. -/
def rankNear (num den : Nat) : Nat :=
  let whole := num * Nat.pow 2 1074 / den
  let shift := (whole.log2 + 1) - 53
  let significand := roundDiv (num * Nat.pow 2 1074) (den * Nat.pow 2 shift)
  if shift = 0 then significand else shift * Nat.pow 2 52 + significand

/-- The number nearest to `num / den` with the given sign, if it is not too large. -/
def near? (negative : Bool) (num den : Nat) : Option Double :=
  if h : rankNear num den < ranks then some ⟨negative, rankNear num den, h⟩ else none

/-- The number nearest to a whole one. -/
def ofInt? (n : Int) : Option Double := near? (n < 0) n.natAbs 1

/-- The product rounded to the nearest number, if it is not too large. -/
def product? (a b : Double) : Option Double :=
  near? (a.negative != b.negative) (a.units * b.units) (Nat.pow 2 2148)

/-- The quotient rounded to the nearest number, if there is one and it is not too large. -/
def quotient? (a b : Double) : Option Double :=
  if b.units = 0 then none else near? (a.negative != b.negative) a.units b.units

end Double

end AccessControl
