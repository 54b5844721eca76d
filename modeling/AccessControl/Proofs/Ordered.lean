/-
Ordered maps and rosters are known by what they hold. Main statements: two rosters with the same
names are the same list (`Ascending.eq_of_mem_iff`), so are two sorted maps in which each key finds
the same value (`Sorted.eq_of_get?`), and writes that change nothing leave the very same list.
-/
import AccessControl.Assoc
import AccessControl.Roster
import Mathlib.Data.List.Sort
import Mathlib.Data.String.Basic

namespace AccessControl

/-! ## Rosters -/

namespace Roster

variable {r s : Roster} {name : String}

/-- A roster is known by the names that it holds. -/
theorem Ascending.eq_of_mem_iff (hr : r.Ascending) (hs : s.Ascending)
    (h : ∀ n, n ∈ r ↔ n ∈ s) : r = s :=
  List.Pairwise.eq_of_mem_iff hr hs h

theorem ascending_nil : Ascending [] := List.Pairwise.nil

/-- A name that is there already is not added again. -/
theorem insert_of_mem (hr : r.Ascending) (h : name ∈ r) : r.insert name = r :=
  (hr.insert name).eq_of_mem_iff hr fun n => by
    rw [mem_insert]
    exact ⟨fun hn => hn.elim (fun e => e ▸ h) id, .inr⟩

theorem insert_ne_nil : r.insert name ≠ [] := fun h => by
  have : name ∈ r.insert name := mem_insert.2 (.inl rfl)
  rw [h] at this
  exact List.not_mem_nil this

/-- One name after the other is added to a roster. -/
theorem foldl_insert (names : List String) (hr : r.Ascending) :
    Ascending (names.foldl (fun r name => r.insert name) r) ∧
      ∀ n, n ∈ names.foldl (fun r name => r.insert name) r ↔ n ∈ names ∨ n ∈ r := by
  induction names generalizing r with
  | nil => exact ⟨hr, fun n => by simp⟩
  | cons a names ih =>
    obtain ⟨h1, h2⟩ := ih (hr.insert a)
    refine ⟨h1, fun n => ?_⟩
    rw [List.foldl_cons, h2, mem_insert, List.mem_cons]
    exact ⟨fun h => h.elim (.inl ∘ .inr) fun h => h.elim (.inl ∘ .inl) .inr,
      fun h => h.elim (fun h => h.elim (.inr ∘ .inl) .inl) (.inr ∘ .inr)⟩

theorem ascending_ofList (names : List String) : (ofList names).Ascending :=
  (foldl_insert names ascending_nil).1

theorem mem_ofList {names : List String} : name ∈ ofList names ↔ name ∈ names := by
  unfold ofList
  rw [(foldl_insert names ascending_nil).2]
  simp

/-- A roster is the roster of its own names. -/
theorem ofList_of_ascending (hr : r.Ascending) : ofList r = r :=
  (ascending_ofList r).eq_of_mem_iff hr fun _ => mem_ofList

end Roster

/-! ## Maps -/

namespace Assoc

variable {β γ : Type} {m : Assoc β} {key : String} {value : β}

theorem get?_none (h : m.get? key = none) : ∀ e ∈ m, e.1 ≠ key := by
  unfold get? at h
  rw [Option.map_eq_none_iff, List.find?_eq_none] at h
  intro e he hk
  exact h e he (beq_iff_eq.2 hk)

theorem mem_of_get? (h : m.get? key = some value) : (key, value) ∈ m := by
  unfold get? at h
  obtain ⟨e, he, rfl⟩ := Option.map_eq_some_iff.1 h
  have hk : e.1 = key := by simpa using List.find?_some he
  subst hk
  exact List.mem_of_find?_eq_some he

/-- In a sorted map each binding is the one that its key finds. -/
theorem Sorted.get?_of_mem (hm : m.Sorted) {e : String × β} (he : e ∈ m) :
    m.get? e.1 = some e.2 := by
  induction m with
  | nil => cases he
  | cons x m ih =>
    obtain ⟨hx, hm⟩ := List.pairwise_cons.1 hm
    rw [get?_cons]
    rcases List.mem_cons.1 he with rfl | he
    · rw [if_pos rfl]
    · rw [if_neg (String.ne_of_lt (hx e he)), ih hm he]

theorem Sorted.nil : Sorted ([] : Assoc β) := List.Pairwise.nil

/-- A sorted map is known by what its keys find. -/
theorem Sorted.eq_of_get? {n : Assoc β} (hm : m.Sorted) (hn : n.Sorted)
    (h : ∀ key, m.get? key = n.get? key) : m = n := by
  have mem_iff : ∀ e, e ∈ m ↔ e ∈ n := fun e => by
    constructor
    · intro he
      have := hm.get?_of_mem he
      rw [h] at this
      exact mem_of_get? this
    · intro he
      have := hn.get?_of_mem he
      rw [← h] at this
      exact mem_of_get? this
  -- keys are ordered without repetition, so bindings are too
  have : Std.Irrefl fun a b : String × β => a.1 < b.1 := ⟨fun a => String.lt_irrefl a.1⟩
  have : Std.Antisymm fun a b : String × β => a.1 < b.1 :=
    ⟨fun a b hab hba => absurd hba (String.lt_asymm hab)⟩
  exact List.Pairwise.eq_of_mem_iff hm hn mem_iff

/-- Binding a key to the value that it has already changes nothing. -/
theorem Sorted.put_of_get? (hm : m.Sorted) (h : m.get? key = some value) : m.put key value = m :=
  (hm.put key value).eq_of_get? hm fun k => by
    rw [get?_put]
    split
    · rename_i hk
      rw [← hk, h]
    · rfl

theorem erase_of_get?_none (h : m.get? key = none) : m.erase key = m :=
  List.filter_eq_self.2 fun e he => bne_iff_ne.2 (get?_none h e he)

theorem mem_erase {e : String × β} (he : e ∈ m.erase key) : e ∈ m := (List.mem_filter.1 he).1

/-! ### Maps with other values -/

/-- The map with each value changed. -/
def mapValues (f : β → γ) (m : Assoc β) : Assoc γ := m.map fun e => (e.1, f e.2)

theorem get?_mapValues (f : β → γ) (m : Assoc β) (key : String) :
    (m.mapValues f).get? key = (m.get? key).map f := by
  induction m with
  | nil => rfl
  | cons e m ih =>
    unfold mapValues at ih ⊢
    rw [List.map_cons, get?_cons, get?_cons, ih]
    split <;> rfl

theorem put_mapValues (f : β → γ) (m : Assoc β) (key : String) (value : β) :
    (m.mapValues f).put key (f value) = (m.put key value).mapValues f := by
  induction m with
  | nil => rfl
  | cons e m ih =>
    obtain ⟨k, v⟩ := e
    unfold mapValues at ih ⊢
    rw [List.map_cons]
    unfold put
    split
    · rfl
    · split
      · rfl
      · rw [ih]
        rfl

theorem erase_mapValues (f : β → γ) (m : Assoc β) (key : String) :
    (m.mapValues f).erase key = (m.erase key).mapValues f := by
  unfold erase mapValues
  rw [List.filter_map]
  rfl

end Assoc

end AccessControl
