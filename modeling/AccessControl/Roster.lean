/-
Rosters: sets of names as ascending lists. Main statements: what a roster holds after a write
(`mem_insert`, `mem_erase`), and that writes keep the order (`Ascending.insert`, `Ascending.erase`).
-/

namespace AccessControl

/-- Names in ascending order, each once; they are compared code point by code point. -/
abbrev Roster := List String

namespace Roster

/-- Each name is smaller than all the names after it. -/
def Ascending (r : Roster) : Prop := r.Pairwise fun a b => a < b

def insert (name : String) : Roster → Roster
  | [] => [name]
  | n :: rest =>
    if name < n then name :: n :: rest
    else if name = n then n :: rest
    else n :: insert name rest

def erase (r : Roster) (name : String) : Roster := r.filter fun n => n != name

/-- The roster of a list of names in any order. -/
def ofList (names : List String) : Roster := names.foldl (fun r name => insert name r) []

theorem mem_insert {r : Roster} {name n : String} : n ∈ insert name r ↔ n = name ∨ n ∈ r := by
  induction r with
  | nil => simp [insert]
  | cons m r ih =>
    unfold insert
    split
    · simp
    · split
      · rename_i h
        subst h
        simp
      · simp only [List.mem_cons, ih]
        exact ⟨fun h => h.elim (.inr ∘ .inl) (Or.imp_right .inr),
          fun h => h.elim (.inr ∘ .inl) (Or.imp_right .inr)⟩

theorem mem_erase {r : Roster} {name n : String} : n ∈ erase r name ↔ n ∈ r ∧ n ≠ name := by
  simp [erase]

theorem Ascending.insert {r : Roster} (h : r.Ascending) (name : String) :
    Ascending (insert name r) := by
  induction r with
  | nil => simp [Roster.insert, Ascending]
  | cons m r ih =>
    unfold Ascending at h
    rw [List.pairwise_cons] at h
    unfold Roster.insert
    split
    · rename_i hlt
      refine List.pairwise_cons.mpr ⟨fun n hn => ?_, List.pairwise_cons.mpr h⟩
      rcases List.mem_cons.mp hn with rfl | hn
      · exact hlt
      · exact String.lt_trans hlt (h.1 n hn)
    · split
      · exact List.pairwise_cons.mpr h
      · rename_i hle hne
        refine List.pairwise_cons.mpr ⟨fun n hn => ?_, ih h.2⟩
        rcases mem_insert.mp hn with rfl | hn
        · exact Decidable.byContradiction fun hn => hne (String.le_antisymm hn hle)
        · exact h.1 n hn

theorem Ascending.erase {r : Roster} (h : r.Ascending) (name : String) : Ascending (erase r name) :=
  List.Pairwise.filter _ h

end Roster

end AccessControl
