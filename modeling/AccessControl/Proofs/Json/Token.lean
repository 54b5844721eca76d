/-
Strings in JSON texts, and what may follow a value. Main statement: a string in quotes is one token
with that string (`scanFrom_renderText`).
-/
import AccessControl.Json.Token

namespace AccessControl.Json

/-- A text as the characters of a source. -/
def sourceOf (s : String) : Source := s.toList.map some

namespace Token

/-! ## Strings -/

theorem hexUnit?_control : ∀ n : Fin 0x20,
    hexUnit? '0' '0' (Nat.digitChar (n.val / 16)) (Nat.digitChar (n.val % 16)) = some n.val := by
  decide

/-- How a character may be written between quotes, and the part of a string that is read there. -/
inductive Written (c : Char) : List Char → Piece → Prop
  | plain (quote : c ≠ '"') (escape : c ≠ '\\') (control : ¬ c.toNat < 0x20) :
    Written c [c] (.char c)
  | escape {e : Char} (ne : e ≠ 'u') (h : escaped? e = some c) : Written c ['\\', e] (.char c)
  | code {a b : Char} (h : hexUnit? '0' '0' a b = some c.toNat) (control : c.toNat < 0x20) :
    Written c ['\\', 'u', '0', '0', a, b] (.unit c.toNat)

theorem written_escapeChar (c : Char) : ∃ p, Written c (escapeChar c) p := by
  -- the characters with an escape of their own come first
  by_cases h : c ∈ ['"', '\\', '\x08', '\t', '\n', '\x0c', '\r']
  · simp only [List.mem_cons, List.not_mem_nil, or_false] at h
    rcases h with rfl | rfl | rfl | rfl | rfl | rfl | rfl
    all_goals exact ⟨_, .escape (by decide) rfl⟩
  · simp only [List.mem_cons, List.not_mem_nil, or_false, not_or] at h
    obtain ⟨h1, h2, h3, h4, h5, h6, h7⟩ := h
    rw [escapeChar.eq_8 c h1 h2 h3 h4 h5 h6 h7]
    split
    · rename_i hc
      exact ⟨_, .code (hexUnit?_control ⟨c.toNat, hc⟩) hc⟩
    · rename_i hc
      exact ⟨_, .plain h1 h2 hc⟩

theorem pieces?_written {c : Char} {cs : List Char} {p : Piece} (h : Written c cs p)
    {rest : Source} {ps : List Piece} {used : Nat} (hr : pieces? rest = some (ps, used)) :
    pieces? (cs.map some ++ rest) = some (p :: ps, cs.length + used) := by
  cases h with
  | plain hq he hc =>
    rw [List.map_cons, List.map_nil, List.singleton_append,
      pieces?.eq_5 c rest hq (fun _ _ _ _ _ _ e => he e) (fun _ _ _ e => he e), hr]
    simp [hc, he, Nat.add_comm]
  | escape ne he =>
    simp only [List.map_cons, List.map_nil, List.cons_append, List.nil_append]
    rw [pieces?.eq_4 _ rest (fun _ _ _ _ _ _ e => ne e), he, hr]
    simp [Nat.add_comm]
  | code hu _ =>
    simp only [List.map_cons, List.map_nil, List.cons_append, List.nil_append]
    rw [pieces?.eq_3, hu, hr]
    simp [Nat.add_comm]

/-- A unit that is no half of a pair is a character, whatever follows. -/
theorem join?_unit {n : Nat} (h : n < 0xD800) (ps : List Piece) :
    join? (.unit n :: ps) = (join? ps).map (Char.ofNat n :: ·) := by
  have h1 : ¬ (0xD800 ≤ n ∧ n < 0xE000) := by omega
  have h2 : ¬ (0xD800 ≤ n ∧ n < 0xDC00) := by omega
  have h3 : ¬ (0xDC00 ≤ n ∧ n < 0xE000) := by omega
  match ps with
  | [] => simp [join?, h1]
  | .char c :: rest => simp [join?, h1, Option.map_map, Function.comp_def]
  | .unit m :: rest => rw [join?, if_neg h2, if_neg h3]
  | .noise :: rest => simp [join?]

theorem join?_written {c : Char} {cs : List Char} {p : Piece} (h : Written c cs p)
    (ps : List Piece) : join? (p :: ps) = (join? ps).map (c :: ·) := by
  cases h with
  | plain | escape => rw [join?]
  | code _ hc => rw [join?_unit (by omega), Char.ofNat_toNat]

/-- The parts of a written string are those of its characters, up to the closing quote. -/
theorem pieces?_escaped (cs : List Char) (rest : Source) :
    ∃ ps, pieces? ((cs.flatMap escapeChar).map some ++ some '"' :: rest) =
      some (ps, (cs.flatMap escapeChar).length + 1) ∧ join? ps = some cs := by
  induction cs with
  | nil =>
    refine ⟨[], ?_, rfl⟩
    rw [List.flatMap_nil, List.map_nil, List.nil_append, pieces?.eq_2]
    rfl
  | cons c cs ih =>
    obtain ⟨ps, hp, hj⟩ := ih
    obtain ⟨p, hw⟩ := written_escapeChar c
    refine ⟨p :: ps, ?_, by rw [join?_written hw, hj]; rfl⟩
    rw [List.flatMap_cons, List.map_append, List.append_assoc, pieces?_written hw hp,
      List.length_append, Nat.add_assoc]

/-! ## Scanning -/

theorem scanFrom_append (cs rest : Source) : scanFrom cs.length (cs ++ rest) = scanFrom 0 rest := by
  induction cs with
  | nil => rfl
  | cons c cs ih => exact ih

/-- A token is scanned, and then what follows its characters. -/
theorem scanFrom_token (c : Char) (word rest : Source) {token : Token} (hc : isBlank c = false)
    (ht : token ≠ .broken) (hs : startingWith c (word ++ rest) = (token, word.length)) :
    scanFrom 0 (some c :: (word ++ rest)) = token :: scanFrom 0 rest := by
  rw [scanFrom.eq_4, hc, hs, if_neg Bool.false_ne_true]
  cases token with
  | broken => exact absurd rfl ht
  | _ => simp only [scanFrom_append]

/-- A string in quotes is one token. -/
theorem scanFrom_renderText (s : String) (rest : Source) :
    scanFrom 0 (sourceOf (renderText s) ++ rest) = .text (some s) :: scanFrom 0 rest := by
  obtain ⟨ps, hp, hj⟩ := pieces?_escaped s.toList rest
  have hw : sourceOf (renderText s) ++ rest =
      some '"' :: (((s.toList.flatMap escapeChar ++ ['"']).map some) ++ rest) := by
    simp [sourceOf, renderText]
  rw [hw]
  refine scanFrom_token _ _ _ (by decide) (by simp) ?_
  rw [List.map_append, List.append_assoc, List.map_cons, List.map_nil, List.singleton_append]
  simp [startingWith, hp, hj]

/-! ## What may follow a value -/

/-- What may follow a value: the end, a comma or the end of a container. -/
def Follows (rest : Source) : Prop :=
  rest = [] ∨ ∃ c cs, rest = some c :: cs ∧ c ∈ [',', ']', '\x7d']

end Token

open Token

/-- The text of the number is read as that number wherever a value may stand. -/
def LegibleNumber (n : Number) : Prop :=
  ∀ rest, Follows rest →
    scanFrom 0 (sourceOf n.render ++ rest) = .number (some n) :: scanFrom 0 rest

mutual

/-- A value of which all numbers are legible. -/
def Legible : Json → Prop
  | .number n => LegibleNumber n
  | .array items => LegibleItems items
  | .object fields => LegibleFields fields
  | _ => True

def LegibleItems : List Json → Prop
  | [] => True
  | item :: rest => Legible item ∧ LegibleItems rest

def LegibleFields : List (String × Json) → Prop
  | [] => True
  | (_, value) :: rest => Legible value ∧ LegibleFields rest

end

end AccessControl.Json
