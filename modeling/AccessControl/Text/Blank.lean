/-
Blank characters, and texts without them at their ends.
-/
namespace AccessControl.Text

/-- The characters with the property White_Space. -/
def isBlank (c : Char) : Bool :=
  let n := c.toNat
  (9 ≤ n && n ≤ 13) || n == 0x20 || n == 0x85 || n == 0xA0 || n == 0x1680 ||
    (0x2000 ≤ n && n ≤ 0x200A) || n == 0x2028 || n == 0x2029 || n == 0x202F || n == 0x205F ||
    n == 0x3000

/-- The characters from the first to the last that is not blank. -/
def trimChars (cs : List Char) : List Char :=
  (((cs.dropWhile isBlank).reverse).dropWhile isBlank).reverse

/-- The text without the blanks at its two ends. -/
def trim (s : String) : String := String.ofList (trimChars s.toList)

/-- A text of which trimming leaves nothing. -/
def isBlankText (s : String) : Bool := s.toList.all isBlank

/-- What trimming leaves starts with no blank. -/
theorem trimChars_head (cs : List Char) (c : Char) (h : (trimChars cs).head? = some c) :
    isBlank c = false := by
  have hd : ∀ (ds : List Char) (d : Char), (ds.dropWhile isBlank).head? = some d →
      isBlank d = false := by
    intro ds d hd
    induction ds with
    | nil => simp at hd
    | cons a r ih =>
      by_cases ha : isBlank a
      · rw [List.dropWhile_cons_of_pos ha] at hd; exact ih hd
      · rw [List.dropWhile_cons_of_neg ha] at hd
        simp at hd; subst hd; simpa using ha
  unfold trimChars at h
  obtain ⟨l, hl⟩ := List.dropWhile_suffix isBlank (l := (cs.dropWhile isBlank).reverse)
  have hrev : cs.dropWhile isBlank =
      (((cs.dropWhile isBlank).reverse).dropWhile isBlank).reverse ++ l.reverse := by
    have := congrArg List.reverse hl
    simpa using this.symm
  apply hd cs c
  rw [hrev]
  cases hx : (((cs.dropWhile isBlank).reverse).dropWhile isBlank).reverse with
  | nil => rw [hx] at h; simp at h
  | cons a r => rw [hx] at h; simpa using h

end AccessControl.Text
