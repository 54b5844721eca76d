/-
What a register keeps of its accounts. Main statements: a change is one of the account of its number
and of no other (`account?_changed`), and an account that is opened is found under its number and
every other one as before (`account?_opened`).
-/
import AccessControl.Accounts.Register

namespace AccessControl.Accounts.Register

variable {r : Register} {id other : Int}

theorem mem_of_account? {account : Account} (h : r.account? id = some account) :
    ∃ holder ∈ r.holders, holder.account = account := by
  unfold account? at h
  exact List.mem_map.1 (List.mem_of_find?_eq_some h)

theorem id_of_account? {account : Account} (h : r.account? id = some account) :
    account.id = id := by
  unfold account? at h
  simpa using List.find?_some h

/-- The register with the account of a number changed. -/
def changed (r : Register) (id : Int) (f : Account → Account) : Register :=
  { r with holders := r.holders.map fun h =>
      if h.account.id == id then { h with account := f h.account } else h }

/-- The accounts of the other numbers are as before. -/
theorem mem_changed {f : Account → Account} {h : Holder} (hmem : h ∈ (r.changed id f).holders) :
    ∃ before ∈ r.holders, (before.account.id = id ∧ h.account = f before.account) ∨
      (before.account.id ≠ id ∧ h = before) := by
  obtain ⟨before, hbefore, rfl⟩ := List.mem_map.1 hmem
  refine ⟨before, hbefore, ?_⟩
  by_cases hid : before.account.id = id
  · rw [if_pos (beq_iff_eq.2 hid)]
    exact .inl ⟨hid, rfl⟩
  · rw [if_neg fun heq => hid (beq_iff_eq.1 heq)]
    exact .inr ⟨hid, rfl⟩

theorem change_of_account? {account : Account} (h : r.account? id = some account)
    (f : Account → Account) : r.change id f = (.ok (), r.changed id f) := by
  unfold change
  rw [h]
  rfl

/-- A change that leaves the numbers changes the account of its number and no other. -/
theorem account?_changed {f : Account → Account} (hf : ∀ account, (f account).id = account.id)
    (id other : Int) :
    (r.changed id f).account? other =
      (r.account? other).map fun account => if other = id then f account else account := by
  have haccounts : (r.changed id f).holders.map Holder.account =
      (r.holders.map Holder.account).map fun a => if a.id == id then f a else a := by
    unfold changed
    rw [List.map_map, List.map_map]
    refine List.map_congr_left fun h _ => ?_
    simp only [Function.comp_apply]
    split <;> rfl
  have hnumber : (fun a : Account => a.id == other) ∘ (fun a => if a.id == id then f a else a) =
      fun a : Account => a.id == other := by
    funext a
    simp only [Function.comp_apply]
    split
    · rw [hf]
    · rfl
  unfold account?
  rw [haccounts, List.find?_map, hnumber]
  cases hfound : (r.holders.map Holder.account).find? fun a => a.id == other with
  | none => rfl
  | some account =>
    have hid : account.id = other := by simpa using List.find?_some hfound
    simp [hid]

/-- A new account is found under its number, and every other one as before. -/
theorem account?_opened (hgiven : ∀ h ∈ r.holders, h.account.id ≤ r.lastId) (account : Account)
    (hnew : account.id = r.lastId + 1) (password : String) (lastId : Int) (other : Int) :
    account? { r with lastId, holders := r.holders ++ [⟨account, password⟩] } other =
      if other = r.lastId + 1 then some account else r.account? other := by
  unfold account?
  rw [List.map_append, List.find?_append]
  by_cases hother : other = r.lastId + 1
  · have hnone : (r.holders.map Holder.account).find? (fun a => a.id == other) = none := by
      rw [List.find?_eq_none]
      intro a ha
      obtain ⟨h, hh, rfl⟩ := List.mem_map.1 ha
      have hle := hgiven h hh
      simp only [beq_iff_eq]
      omega
    rw [hnone, if_pos hother]
    simp [hnew, hother]
  · rw [if_neg hother]
    have hne : account.id ≠ other := by omega
    simp [hne]

end AccessControl.Accounts.Register
