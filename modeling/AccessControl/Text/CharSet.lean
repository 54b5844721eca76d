/-
Sets of characters as ascending lists of ranges of code points. Main statement: building a set from
any list of ranges keeps exactly the code points of the ranges (`hasPoint_ofRanges`).
-/
namespace AccessControl.Text

/-- A set of code points, as ranges with both ends included. -/
structure CharSet where
  ranges : List (Nat × Nat)
deriving DecidableEq, Repr

namespace CharSet

/-- The largest code point. -/
def top : Nat := 0x10FFFF

def hasPoint (s : CharSet) (n : Nat) : Bool := s.ranges.any fun r => r.1 ≤ n && n ≤ r.2

def has (s : CharSet) (c : Char) : Bool := s.hasPoint c.toNat

def empty : CharSet := ⟨[]⟩

def full : CharSet := ⟨[(0, top)]⟩

/-- Joins each range with the ones after it that it meets or touches. -/
def joinFrom (lo hi : Nat) : List (Nat × Nat) → List (Nat × Nat)
  | [] => [(lo, hi)]
  | (lo', hi') :: rest =>
    if lo' ≤ hi + 1 ∧ lo ≤ lo' then joinFrom lo (max hi hi') rest
    else (lo, hi) :: joinFrom lo' hi' rest

/-- Ascending ranges, none of which meets or touches the next. -/
def ofRanges (rs : List (Nat × Nat)) : CharSet :=
  match (rs.filter fun r => r.1 ≤ r.2).mergeSort fun a b => a.1 ≤ b.1 with
  | [] => empty
  | (lo, hi) :: rest => ⟨joinFrom lo hi rest⟩

def range (lo hi : Nat) : CharSet := ofRanges [(lo, hi)]

def single (c : Char) : CharSet := ⟨[(c.toNat, c.toNat)]⟩

def ofChars (cs : List Char) : CharSet := ofRanges (cs.map fun c => (c.toNat, c.toNat))

def union (a b : CharSet) : CharSet := ofRanges (a.ranges ++ b.ranges)

/-- The gaps from `start` on between ascending ranges. -/
def gapsFrom (start : Nat) : List (Nat × Nat) → List (Nat × Nat)
  | [] => if start ≤ top then [(start, top)] else []
  | (lo, hi) :: rest =>
    if start < lo then (start, lo - 1) :: gapsFrom (hi + 1) rest else gapsFrom (hi + 1) rest

/-- The code points from `0xD800` to `0xDFFF`, which are no characters. -/
def surrogates : Nat × Nat := (0xD800, 0xDFFF)

/-- All other characters. -/
def complement (s : CharSet) : CharSet := ⟨gapsFrom 0 (ofRanges (surrogates :: s.ranges)).ranges⟩

def inter (a b : CharSet) : CharSet := (a.complement.union b.complement).complement

def diff (a b : CharSet) : CharSet := (a.complement.union b).complement

/-- The code points of one set and not of the other. -/
def symmDiff (a b : CharSet) : CharSet := (a.diff b).union (b.diff a)

theorem hasPoint_joinFrom (lo hi : Nat) (rs : List (Nat × Nat)) (n : Nat)
    (hlo : lo ≤ hi) (hrs : ∀ r ∈ rs, r.1 ≤ r.2) :
    (CharSet.mk (joinFrom lo hi rs)).hasPoint n =
      ((lo ≤ n && n ≤ hi) || (CharSet.mk rs).hasPoint n) := by
  induction rs generalizing lo hi with
  | nil => simp [joinFrom, hasPoint]
  | cons r rs ih =>
    obtain ⟨lo', hi'⟩ := r
    have hr : lo' ≤ hi' := hrs (lo', hi') (by simp)
    have hrest : ∀ r ∈ rs, r.1 ≤ r.2 := fun r hr => hrs r (by simp [hr])
    unfold joinFrom
    split
    · rename_i h
      rw [ih lo (max hi hi') (by omega) hrest]
      simp only [hasPoint, List.any_cons, ← Bool.or_assoc]
      congr 1
      rw [Bool.eq_iff_iff]
      simp only [Bool.and_eq_true, Bool.or_eq_true, decide_eq_true_eq]
      omega
    · have := ih lo' hi' hr hrest
      simp only [hasPoint, List.any_cons] at this ⊢
      rw [this]

/-- A set built from ranges has exactly the code points of the ranges. -/
theorem hasPoint_ofRanges (rs : List (Nat × Nat)) (n : Nat) :
    (ofRanges rs).hasPoint n = rs.any fun r => r.1 ≤ n && n ≤ r.2 := by
  have hsort : ∀ l : List (Nat × Nat), (l.mergeSort fun a b => a.1 ≤ b.1).any
      (fun r => r.1 ≤ n && n ≤ r.2) = l.any fun r => r.1 ≤ n && n ≤ r.2 := fun l => by
    rw [Bool.eq_iff_iff]
    simp only [List.any_eq_true, List.mem_mergeSort]
  have hfilter : (rs.filter fun r => r.1 ≤ r.2).any (fun r => r.1 ≤ n && n ≤ r.2) =
      rs.any fun r => r.1 ≤ n && n ≤ r.2 := by
    rw [Bool.eq_iff_iff]
    simp only [List.any_eq_true, List.mem_filter, decide_eq_true_eq, Bool.and_eq_true]
    constructor
    · rintro ⟨r, ⟨h, -⟩, h'⟩; exact ⟨r, h, h'⟩
    · rintro ⟨r, h, h'⟩; exact ⟨r, ⟨h, by omega⟩, h'⟩
  rw [← hfilter, ← hsort]
  unfold ofRanges
  split
  · rename_i h; simp [h, empty, hasPoint]
  · rename_i lo hi rest h
    have hall : ∀ r ∈ (lo, hi) :: rest, r.1 ≤ r.2 := by
      intro r hr
      rw [← h, List.mem_mergeSort, List.mem_filter] at hr
      simpa using hr.2
    rw [hasPoint_joinFrom lo hi rest n (hall (lo, hi) (by simp))
      (fun r hr => hall r (by simp [hr])), h]
    simp [hasPoint]

end CharSet

end AccessControl.Text
