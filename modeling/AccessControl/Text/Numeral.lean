/-
Whole numbers in decimal digits, as texts from outside write them.
-/
namespace AccessControl.Text

/-- The number that a list of digits writes; leading zeros do not matter. -/
def digits? (cs : List Char) : Option Nat :=
  if cs.isEmpty || !cs.all Char.isDigit then none
  else some (cs.foldl (fun n c => 10 * n + (c.toNat - '0'.toNat)) 0)

/-- The number that digits with or without a sign write. -/
def signed? (s : String) : Option Int :=
  match s.toList with
  | '-' :: cs => (digits? cs).map fun n => -(n : Int)
  | '+' :: cs => (digits? cs).map Int.ofNat
  | cs => (digits? cs).map Int.ofNat

/-- A signed number of 64 bits. -/
def int64? (s : String) : Option Int :=
  (signed? s).filter fun n => decide (-(Nat.pow 2 63 : Int) ≤ n) && decide (n < Nat.pow 2 63)

/-- A number of 64 bits without a sign; a plus may stand before it. -/
def word64? (s : String) : Option Nat :=
  let cs := match s.toList with
    | '+' :: cs => cs
    | cs => cs
  (digits? cs).filter fun n => decide (n < Nat.pow 2 64)

end AccessControl.Text
