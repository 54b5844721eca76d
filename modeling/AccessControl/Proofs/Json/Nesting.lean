/-
How deep values are nested, and what a limit on open containers makes of that. Main statement: the
tree of an ordered value is read as that value exactly when the value does not nest deeper than the
limit (`Decoder.json_ofJson`); deeper ones are malformed. What a reader has accepted is ordered and
within the limit (`Decoder.json_ok`).
-/
import AccessControl.Failure
import AccessControl.Proofs.Json.Document
import AccessControl.Proofs.Ordered
import Mathlib.Order.Lattice

namespace AccessControl

/-! ## Maps from lists -/

namespace Assoc

variable {β : Type}

theorem foldl_put {m : Assoc β} (h : m.Sorted) (bindings : List (String × β)) :
    (bindings.foldl (fun m e => put e.1 e.2 m) m).Sorted ∧
      ∀ e ∈ bindings.foldl (fun m e => put e.1 e.2 m) m, e ∈ bindings ∨ e ∈ m := by
  induction bindings generalizing m with
  | nil => exact ⟨h, fun e he => .inr he⟩
  | cons f rest ih =>
    obtain ⟨hsorted, hmem⟩ := ih (h.put f.1 f.2)
    refine ⟨hsorted, fun e he => ?_⟩
    rcases hmem e he with he | he
    · exact .inl (List.mem_cons_of_mem _ he)
    · rcases mem_put he with rfl | he
      · exact .inl List.mem_cons_self
      · exact .inr he

theorem sorted_ofList (bindings : List (String × β)) : (ofList bindings).Sorted :=
  (@foldl_put β [] List.Pairwise.nil bindings).1

theorem mem_ofList {bindings : List (String × β)} {e : String × β} (he : e ∈ ofList bindings) :
    e ∈ bindings :=
  ((@foldl_put β [] List.Pairwise.nil bindings).2 e he).resolve_right List.not_mem_nil

theorem perm_put {m : Assoc β} {key : String} (value : β) (h : ∀ e ∈ m, e.1 ≠ key) :
    (put key value m).Perm ((key, value) :: m) := by
  induction m with
  | nil => exact List.Perm.refl _
  | cons e m ih =>
    obtain ⟨k, v⟩ := e
    obtain ⟨hk, hrest⟩ := List.forall_mem_cons.1 h
    unfold put
    split
    · exact List.Perm.refl _
    · rw [if_neg fun heq => hk heq.symm]
      exact ((ih hrest).cons (k, v)).trans (List.Perm.swap _ _ _)

/-- A map holds the bindings that it has been made of if they have different keys. -/
theorem perm_ofList {bindings : List (String × β)}
    (h : bindings.Pairwise fun a b => a.1 ≠ b.1) : (ofList bindings).Perm bindings := by
  have hfold (rest : List (String × β)) : ∀ before : Assoc β,
      (∀ e ∈ before, ∀ f ∈ rest, e.1 ≠ f.1) → rest.Pairwise (fun a b => a.1 ≠ b.1) →
        (rest.foldl (fun m e => put e.1 e.2 m) before).Perm (rest ++ before) := by
    induction rest with
    | nil => exact fun before _ _ => List.Perm.refl _
    | cons f rest ih =>
      intro before hbefore hrest
      obtain ⟨hf, hrest⟩ := List.pairwise_cons.1 hrest
      have hput := perm_put f.2 fun e he => hbefore e he f List.mem_cons_self
      refine (ih _ (fun e he g hg => ?_) hrest).trans
        ((hput.append_left rest).trans List.perm_middle)
      rcases mem_put he with rfl | he
      · exact hf g hg
      · exact hbefore e he g (List.mem_cons_of_mem _ hg)
  exact (hfold bindings [] (List.forall_mem_nil _) h).trans (by rw [List.append_nil])

/-- The order of the bindings of a map does not matter. -/
theorem ofList_of_perm {bindings : List (String × β)} {m : Assoc β} (h : bindings.Perm m)
    (hm : m.Sorted) : ofList bindings = m := by
  have hkeys : m.Pairwise fun a b => a.1 ≠ b.1 := hm.imp String.ne_of_lt
  have hbindings : bindings.Pairwise fun a b => a.1 ≠ b.1 := (h.pairwise_iff Ne.symm).2 hkeys
  refine List.Perm.eq_of_pairwise (fun a b _ _ hab hba => ?_) (sorted_ofList bindings) hm
    ((perm_ofList hbindings).trans h)
  exact absurd hab (String.lt_asymm hba)

/-- The map of a list in ascending order is the list. -/
theorem ofList_of_sorted {m : Assoc β} (h : m.Sorted) : ofList m = m :=
  ofList_of_perm (List.Perm.refl m) h

end Assoc

namespace Json

/-! ## Nesting -/

mutual

/-- How many containers are open at once at most. -/
def nesting : Json → Nat
  | .array items => nestingItems items + 1
  | .object fields => nestingFields fields + 1
  | _ => 0

def nestingItems : List Json → Nat
  | [] => 0
  | item :: rest => max (nesting item) (nestingItems rest)

def nestingFields : List (String × Json) → Nat
  | [] => 0
  | (_, value) :: rest => max (nesting value) (nestingFields rest)

end

mutual

/-- The fields of all objects in the value are in ascending order, as in every value that has been
read. -/
def Ordered : Json → Prop
  | .array items => OrderedItems items
  | .object fields => Assoc.Sorted fields ∧ OrderedFields fields
  | _ => True

def OrderedItems : List Json → Prop
  | [] => True
  | item :: rest => Ordered item ∧ OrderedItems rest

def OrderedFields : List (String × Json) → Prop
  | [] => True
  | (_, value) :: rest => Ordered value ∧ OrderedFields rest

end

theorem orderedFields_iff {fields : List (String × Json)} :
    OrderedFields fields ↔ ∀ e ∈ fields, Ordered e.2 := by
  induction fields with
  | nil => simp [OrderedFields]
  | cons e rest ih => simp [OrderedFields, ih]

theorem nestingFields_le_iff {fields : List (String × Json)} {n : Nat} :
    nestingFields fields ≤ n ↔ ∀ e ∈ fields, nesting e.2 ≤ n := by
  induction fields with
  | nil => simp [nestingFields]
  | cons e rest ih => simp [nestingFields, ih]

theorem legibleFields_iff {fields : List (String × Json)} :
    LegibleFields fields ↔ ∀ e ∈ fields, Legible e.2 := by
  induction fields with
  | nil => simp [LegibleFields]
  | cons e rest ih => simp [LegibleFields, ih]

namespace Decoder

/-- What reading comes to under a limit: the value, or the place where too much is open. -/
def within {α : Type} (nesting depth : Nat) (value : α) : Except Fault α :=
  if nesting ≤ depth then .ok value else .error .malformed

theorem within_succ {α : Type} {n depth : Nat} (a : α) :
    within n depth a = within (n + 1) (depth + 1) a := by
  unfold within
  by_cases hn : n ≤ depth
  · rw [if_pos hn, if_pos (Nat.succ_le_succ hn)]
  · rw [if_neg hn, if_neg fun h => hn (Nat.le_of_succ_le_succ h)]

theorem within_cons {α β γ : Type} {n m depth : Nat} {a : α} {b : β} (f : α → β → γ) :
    (do return f (← within n depth a) (← within m depth b) : Except Fault γ) =
      within (max n m) depth (f a b) := by
  unfold within
  by_cases hn : n ≤ depth
  · rw [if_pos hn]
    by_cases hm : m ≤ depth
    · rw [if_pos hm, if_pos (Nat.max_le.2 ⟨hn, hm⟩)]
      rfl
    · rw [if_neg hm, if_neg fun h => hm (Nat.max_le.1 h).2]
      rfl
  · rw [if_neg hn, if_neg fun h => hn (Nat.max_le.1 h).1]
    rfl

/-- A container takes one of the depth that is left. -/
theorem within_enter {α β : Type} {n depth : Nat} {a : α} {b : β} (f : α → β)
    {read : Nat → Except Fault α} (hread : ∀ depth, read depth = within n depth a) (hf : f a = b) :
    (do return f (← read (← enter depth)) : Except Fault β) = within (n + 1) depth b := by
  cases depth with
  | zero => rfl
  | succ depth =>
    show (read depth >>= fun a => pure (f a)) = _
    rw [hread, ← within_succ, ← hf]
    unfold within
    split <;> rfl

mutual

/-- The tree of an ordered value is read as the value, unless it nests too deep. -/
theorem json_ofJson : ∀ (j : Json), Ordered j → ∀ depth : Nat,
    json depth (Document.ofJson j) = within (nesting j) depth j
  | .null, _, _ | .bool _, _, _ | .number _, _, _ | .text _, _, _ => (if_pos (Nat.zero_le _)).symm
  | .array items, h, _ => within_enter Json.array (jsonItems_ofItems items h) rfl
  | .object fields, h, _ =>
    within_enter (fun fields => Json.object (Assoc.ofList fields))
      (jsonFields_ofFields fields h.2) (congrArg Json.object (Assoc.ofList_of_sorted h.1))

theorem jsonItems_ofItems : ∀ (items : List Json), OrderedItems items → ∀ depth : Nat,
    jsonItems depth (Document.ofItems items) = within (nestingItems items) depth items
  | [], _, _ => (if_pos (Nat.zero_le _)).symm
  | item :: rest, h, depth => by
    rw [Document.ofItems, jsonItems, json_ofJson item h.1, jsonItems_ofItems rest h.2]
    exact within_cons List.cons

theorem jsonFields_ofFields : ∀ (fields : List (String × Json)), OrderedFields fields →
    ∀ depth : Nat,
    jsonFields depth (Document.ofFields fields) = within (nestingFields fields) depth fields
  | [], _, _ => (if_pos (Nat.zero_le _)).symm
  | (key, value) :: rest, h, depth => by
    rw [Document.ofFields, jsonFields, json_ofJson value h.1, jsonFields_ofFields rest h.2]
    exact within_cons fun value rest => (key, value) :: rest

end

/-! ## Values that have been read -/

theorem enter_ok {depth left : Nat} (h : enter depth = .ok left) : depth = left + 1 := by
  cases depth with
  | zero => cases h
  | succ depth => exact congrArg (· + 1) (Except.ok.inj h)

mutual

/-- What a reader accepts is ordered and does not nest deeper than the limit. -/
theorem json_ok : ∀ (document : Document) (depth : Nat) (j : Json),
    json depth document = .ok j → Ordered j ∧ nesting j ≤ depth
  | .null, _, _, h | .bool _, _, _, h | .number (some _), _, _, h | .text (some _), _, _, h => by
    obtain rfl := Except.ok.inj h
    exact ⟨trivial, Nat.zero_le _⟩
  | .array items, depth, j, h => by
    obtain ⟨left, hleft, h⟩ := bind_ok_iff.1 h
    obtain ⟨values, hvalues, h⟩ := bind_ok_iff.1 h
    obtain rfl := Except.ok.inj h
    obtain ⟨hordered, hnesting⟩ := jsonItems_ok items left values hvalues
    exact ⟨hordered, enter_ok hleft ▸ Nat.succ_le_succ hnesting⟩
  | .object fields, depth, j, h => by
    obtain ⟨left, hleft, h⟩ := bind_ok_iff.1 h
    obtain ⟨values, hvalues, h⟩ := bind_ok_iff.1 h
    obtain rfl := Except.ok.inj h
    obtain ⟨hordered, hnesting⟩ := jsonFields_ok fields left values hvalues
    -- of the fields with one key the map keeps the last one
    have hfields := orderedFields_iff.1 hordered
    have hdepths := nestingFields_le_iff.1 hnesting
    refine ⟨⟨Assoc.sorted_ofList values, ?_⟩, enter_ok hleft ▸ Nat.succ_le_succ ?_⟩
    · exact orderedFields_iff.2 fun e he => hfields e (Assoc.mem_ofList he)
    · exact nestingFields_le_iff.2 fun e he => hdepths e (Assoc.mem_ofList he)
  | .number none, _, _, h | .text none, _, _, h | .broken, _, _, h => by cases h

theorem jsonItems_ok : ∀ (items : List Document) (depth : Nat) (values : List Json),
    jsonItems depth items = .ok values → OrderedItems values ∧ nestingItems values ≤ depth
  | [], _, _, h => by
    obtain rfl := Except.ok.inj h
    exact ⟨trivial, Nat.zero_le _⟩
  | item :: rest, depth, values, h => by
    obtain ⟨first, hfirst, h⟩ := bind_ok_iff.1 h
    obtain ⟨others, hothers, h⟩ := bind_ok_iff.1 h
    obtain rfl := Except.ok.inj h
    obtain ⟨hordered, hnesting⟩ := json_ok item depth first hfirst
    obtain ⟨hordereds, hnestings⟩ := jsonItems_ok rest depth others hothers
    exact ⟨⟨hordered, hordereds⟩, Nat.max_le.2 ⟨hnesting, hnestings⟩⟩

theorem jsonFields_ok : ∀ (fields : List (Key × Document)) (depth : Nat)
    (values : List (String × Json)), jsonFields depth fields = .ok values →
      OrderedFields values ∧ nestingFields values ≤ depth
  | [], _, _, h => by
    obtain rfl := Except.ok.inj h
    exact ⟨trivial, Nat.zero_le _⟩
  | (.text key, value) :: rest, depth, values, h => by
    obtain ⟨first, hfirst, h⟩ := bind_ok_iff.1 h
    obtain ⟨others, hothers, h⟩ := bind_ok_iff.1 h
    obtain rfl := Except.ok.inj h
    obtain ⟨hordered, hnesting⟩ := json_ok value depth first hfirst
    obtain ⟨hordereds, hnestings⟩ := jsonFields_ok rest depth others hothers
    exact ⟨⟨hordered, hordereds⟩, Nat.max_le.2 ⟨hnesting, hnestings⟩⟩
  | (.other, _) :: _, _, _, h | (.broken, _) :: _, _, _, h => by cases h

end

end Decoder

end Json

end AccessControl
