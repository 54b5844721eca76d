/-
Finite maps from texts, as lists of pairs in ascending order of their keys. Main statements: what
looking up finds after a write (`get?_put`, `get?_erase`), and that writes keep the order
(`Sorted.put`, `Sorted.erase`).
-/
namespace AccessControl

/-- A map from texts, ascending by key; keys are compared code point by code point. -/
abbrev Assoc (β : Type) := List (String × β)

namespace Assoc

variable {β : Type}

/-- Each key is smaller than all the keys after it. -/
def Sorted (m : Assoc β) : Prop := m.Pairwise fun a b => a.1 < b.1

def get? (m : Assoc β) (key : String) : Option β := (m.find? fun e => e.1 == key).map Prod.snd

def has (m : Assoc β) (key : String) : Bool := m.any fun e => e.1 == key

def keys (m : Assoc β) : List String := m.map Prod.fst

/-- Binds the key to the value, in place of what it was bound to. -/
def put (key : String) (value : β) : Assoc β → Assoc β
  | [] => [(key, value)]
  | (k, v) :: rest =>
    if key < k then (key, value) :: (k, v) :: rest
    else if key = k then (key, value) :: rest
    else (k, v) :: put key value rest

def erase (m : Assoc β) (key : String) : Assoc β := m.filter fun e => e.1 != key

/-- The map of a list of bindings, of which the last one of a key counts. -/
def ofList (bindings : List (String × β)) : Assoc β :=
  bindings.foldl (fun m e => put e.1 e.2 m) []

theorem get?_nil (key : String) : get? ([] : Assoc β) key = none := rfl

theorem get?_cons (e : String × β) (m : Assoc β) (key : String) :
    get? (e :: m) key = if e.1 = key then some e.2 else get? m key := by
  unfold get?
  by_cases h : e.1 = key <;> simp [h]

/-- After a write its key has the value written, and every other key what it had. -/
theorem get?_put (m : Assoc β) (key : String) (value : β) (k : String) :
    get? (put key value m) k = if key = k then some value else get? m k := by
  induction m with
  | nil => simp [put, get?_cons, get?_nil]
  | cons e m ih =>
    obtain ⟨k', v⟩ := e
    unfold put
    split
    · rw [get?_cons]
    · split
      · rename_i h; subst h
        simp only [get?_cons]
        split <;> rfl
      · rename_i h
        simp only [get?_cons, ih]
        by_cases h1 : k' = k <;> by_cases h2 : key = k <;> simp_all

theorem get?_erase (m : Assoc β) (key k : String) :
    get? (erase m key) k = if key = k then none else get? m k := by
  induction m with
  | nil => simp [erase, get?_nil]
  | cons e m ih =>
    obtain ⟨k', v⟩ := e
    unfold erase at ih ⊢
    rw [List.filter_cons]
    by_cases h : k' = key
    · subst h
      simp only [bne_self_eq_false, Bool.false_eq_true, if_false, ih, get?_cons]
      split <;> rfl
    · have : (k' != key) = true := by simpa using h
      simp only [this, if_true, get?_cons, ih]
      by_cases h1 : k' = k <;> by_cases h2 : key = k <;> simp_all

theorem has_eq (m : Assoc β) (key : String) : has m key = (get? m key).isSome := by
  unfold has get?
  rw [Option.isSome_map, Bool.eq_iff_iff, List.any_eq_true, List.find?_isSome]

/-- Every key of a map after a write is the key written or one from before. -/
theorem mem_put {m : Assoc β} {key : String} {value : β} {e : String × β}
    (h : e ∈ put key value m) : e = (key, value) ∨ e ∈ m := by
  induction m with
  | nil => simpa [put] using h
  | cons x m ih =>
    obtain ⟨k, v⟩ := x
    unfold put at h
    split at h
    · simpa using h
    · split at h
      · simp only [List.mem_cons] at h ⊢
        rcases h with h | h
        · exact .inl h
        · exact .inr (.inr h)
      · simp only [List.mem_cons] at h ⊢
        rcases h with h | h
        · exact .inr (.inl h)
        · rcases ih h with h | h
          · exact .inl h
          · exact .inr (.inr h)

theorem Sorted.put {m : Assoc β} (h : m.Sorted) (key : String) (value : β) :
    (m.put key value).Sorted := by
  induction m with
  | nil => simp [Assoc.put, Sorted]
  | cons x m ih =>
    obtain ⟨k, v⟩ := x
    unfold Sorted at h
    rw [List.pairwise_cons] at h
    unfold Assoc.put
    split
    · rename_i hlt
      unfold Sorted
      rw [List.pairwise_cons]
      refine ⟨fun e he => ?_, List.pairwise_cons.mpr h⟩
      rcases List.mem_cons.mp he with rfl | he
      · exact hlt
      · exact String.lt_trans hlt (h.1 e he)
    · split
      · rename_i heq
        subst heq
        exact List.pairwise_cons.mpr h
      · rename_i hle hne
        refine List.pairwise_cons.mpr ⟨fun e he => ?_, ih h.2⟩
        rcases mem_put he with rfl | he
        · exact Decidable.byContradiction fun hn => hne (String.le_antisymm hn hle)
        · exact h.1 e he

theorem Sorted.erase {m : Assoc β} (h : m.Sorted) (key : String) : (m.erase key).Sorted :=
  List.Pairwise.filter _ h

end Assoc

end AccessControl
