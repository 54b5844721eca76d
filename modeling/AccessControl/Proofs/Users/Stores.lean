/-
What the storage and the register keep of the users of a directory. The storage keeps a record of
each user and the register an account, which is archived as soon as the record goes. Main
statements: the two follow when a profile is put into the directory (`Kept.put`) and when a user
leaves it (`Kept.removed`), and what they list is what the directory lists (`Kept.shown_eq`).
-/
import AccessControl.Proofs.Accounts.Register
import AccessControl.Proofs.Ordered
import AccessControl.Proofs.Users.Directory
import AccessControl.Storage.Memory

namespace AccessControl

namespace Users

open Accounts (Register)
open Storage (Memory)

/-! ## What the stores keep -/

/-- The records and the accounts are those of the users of a directory. -/
structure Kept (m : Memory) (r : Register) (d : Directory) : Prop where
  sorted : m.users.Sorted
  stored : ∀ id profile, d.profiles.lookup id = some profile →
    m.users.get? (Urn.ofAccount id).text = some (profile.record id)
  named : ∀ name user, m.users.get? name = some user →
    ∃ id profile, d.profiles.lookup id = some profile ∧ name = (Urn.ofAccount id).text
  account : ∀ id profile, d.profiles.lookup id = some profile →
    r.account? id = some ⟨id, profile.username, profile.locked, false⟩
  live : ∀ h ∈ r.holders, h.account.archived = false →
    ∃ profile, d.profiles.lookup h.account.id = some profile ∧
      profile.username = h.account.username
  given : ∀ h ∈ r.holders, h.account.id ≤ r.lastId
  last : d.last = r.lastId
  refuses : d.refusesArchive = r.refusesArchive

variable {m : Memory} {r : Register} {d : Directory}

theorem kept_empty : Kept .empty .empty .empty where
  sorted := .nil
  stored := nofun
  named := nofun
  account := nofun
  live := nofun
  given := nofun
  last := rfl
  refuses := rfl

/-- A username belongs to an account in use exactly when a user of the directory has it. -/
theorem Kept.live?_isSome (h : Kept m r d) (username : String) :
    (r.live? username).isSome = d.hasUsername username := by
  rw [Bool.eq_iff_iff]
  unfold Register.live? Directory.hasUsername
  rw [List.find?_isSome, List.any_eq_true]
  constructor
  · rintro ⟨holder, hmem, hholder⟩
    simp only [Bool.and_eq_true, beq_iff_eq, Bool.not_eq_true'] at hholder
    obtain ⟨profile, hlookup, husername⟩ := h.live holder hmem hholder.2
    refine ⟨_, AList.mem_lookup_iff.1 hlookup, ?_⟩
    simp [husername, hholder.1]
  · rintro ⟨⟨id, profile⟩, hmem, husername⟩
    have haccount := h.account id profile (AList.mem_lookup_iff.2 hmem)
    obtain ⟨holder, hholder, hsame⟩ := Register.mem_of_account? haccount
    refine ⟨holder, hholder, ?_⟩
    simpa [hsame] using husername

/-- A name of a user that is not in the directory has no record. -/
theorem Kept.get?_none (h : Kept m r d) {user : Urn .user}
    (hnone : ∀ id profile, d.profiles.lookup id = some profile → user ≠ Urn.ofAccount id) :
    m.users.get? user.text = none := by
  cases hfound : m.users.get? user.text with
  | none => rfl
  | some record =>
    obtain ⟨id, profile, hlookup, hname⟩ := h.named user.text record hfound
    exact absurd (congrArg Urn.mk hname) (hnone id profile hlookup)

/-! ## What changes -/

/-- A register with an account in use in place of the one of its number, if there was one. -/
structure Puts (r r' : Register) (account : Account) : Prop where
  account? : ∀ id, r'.account? id = if id = account.id then some account else r.account? id
  live : ∀ h ∈ r'.holders, h.account.archived = false →
    (h.account.id = account.id ∧ h.account.username = account.username) ∨
      (h.account.id ≠ account.id ∧ h ∈ r.holders)
  given : ∀ h ∈ r'.holders, h.account.id ≤ r'.lastId

/-- The stores follow when a profile is put into the directory. -/
theorem Kept.put (h : Kept m r d) {r' : Register} {d' : Directory} (id : Int) (profile : Profile)
    (hr : Puts r r' ⟨id, profile.username, profile.locked, false⟩)
    (hprofiles : d'.profiles = d.profiles.insert id profile) (hlast : d'.last = r'.lastId)
    (hrefuses : d'.refusesArchive = r'.refusesArchive) :
    Kept (m.setRecords .user (Assoc.put (Urn.ofAccount id).text (profile.record id) m.users))
      r' d' := by
  have hlookup : ∀ other found, d'.profiles.lookup other = some found →
      (other = id ∧ found = profile) ∨ (other ≠ id ∧ d.profiles.lookup other = some found) := by
    intro other found hfound
    rw [hprofiles] at hfound
    by_cases hother : other = id
    · rw [hother, AList.lookup_insert] at hfound
      exact .inl ⟨hother, (Option.some.inj hfound).symm⟩
    · rw [AList.lookup_insert_ne hother] at hfound
      exact .inr ⟨hother, hfound⟩
  have hself : d'.profiles.lookup id = some profile := by rw [hprofiles, AList.lookup_insert]
  have hrest : ∀ other, other ≠ id → d'.profiles.lookup other = d.profiles.lookup other := by
    intro other hother
    rw [hprofiles, AList.lookup_insert_ne hother]
  refine ⟨h.sorted.put _ _, ?_, ?_, ?_, ?_, hr.given, hlast, hrefuses⟩
  · intro other found hfound
    show Assoc.get? (Assoc.put _ _ m.users) _ = _
    rw [Assoc.get?_put]
    rcases hlookup other found hfound with ⟨rfl, rfl⟩ | ⟨hother, hbefore⟩
    · rw [if_pos rfl]
    · rw [if_neg fun hname => hother (Urn.ofAccount_text_injective hname).symm]
      exact h.stored other found hbefore
  · intro name user huser
    have huser : Assoc.get? (Assoc.put (Urn.ofAccount id).text (profile.record id) m.users) name =
        some user := huser
    rw [Assoc.get?_put] at huser
    by_cases hname : (Urn.ofAccount id).text = name
    · exact ⟨id, profile, hself, hname.symm⟩
    · rw [if_neg hname] at huser
      obtain ⟨other, found, hfound, rfl⟩ := h.named name user huser
      have hother : other ≠ id := fun hid => hname (by rw [hid])
      exact ⟨other, found, (hrest other hother).trans hfound, rfl⟩
  · intro other found hfound
    rw [hr.account?]
    rcases hlookup other found hfound with ⟨rfl, rfl⟩ | ⟨hother, hbefore⟩
    · rw [if_pos rfl]
    · rw [if_neg hother]
      exact h.account other found hbefore
  · intro holder hholder harchived
    rcases hr.live holder hholder harchived with ⟨hid, husername⟩ | ⟨hid, hbefore⟩
    · exact ⟨profile, by rw [hid]; exact hself, husername.symm⟩
    · obtain ⟨found, hfound, husername⟩ := h.live holder hbefore harchived
      exact ⟨found, (hrest _ hid).trans hfound, husername⟩

/-- The holders of a number of a user in the directory have its username. -/
theorem Kept.puts_self (h : Kept m r d) {id : Int} {profile : Profile}
    (hlookup : d.profiles.lookup id = some profile) :
    Puts r r ⟨id, profile.username, profile.locked, false⟩ where
  account? other := by
    split
    · rename_i hother
      rw [hother]
      exact h.account id profile hlookup
    · rfl
  live holder hholder harchived := by
    by_cases hid : holder.account.id = id
    · obtain ⟨found, hfound, husername⟩ := h.live holder hholder harchived
      rw [hid, hlookup] at hfound
      obtain rfl := Option.some.inj hfound
      exact .inl ⟨hid, husername.symm⟩
    · exact .inr ⟨hid, hholder⟩
  given := h.given

theorem Kept.given_changed (h : Kept m r d) {id : Int} {f : Account → Account}
    (hf : ∀ account, (f account).id = account.id) :
    ∀ holder ∈ (r.changed id f).holders, holder.account.id ≤ (r.changed id f).lastId := by
  intro holder hholder
  obtain ⟨before, hbefore, ⟨-, hchanged⟩ | ⟨-, rfl⟩⟩ := Register.mem_changed hholder
  · rw [hchanged, hf]
    exact h.given before hbefore
  · exact h.given holder hbefore

theorem Kept.puts_locked (h : Kept m r d) {id : Int} {profile : Profile}
    (hlookup : d.profiles.lookup id = some profile) (locked : Bool) :
    Puts r (r.changed id fun account => { account with locked })
      ⟨id, profile.username, locked, false⟩ where
  account? other := by
    rw [Register.account?_changed (f := fun account => { account with locked }) fun _ => rfl]
    by_cases hother : other = id
    · rw [if_pos hother, hother, h.account id profile hlookup]
      simp
    · rw [if_neg hother]
      simp [hother]
  live holder hholder harchived := by
    obtain ⟨before, hbefore, ⟨hid, hchanged⟩ | ⟨hid, rfl⟩⟩ := Register.mem_changed hholder
    · rw [hchanged] at harchived ⊢
      obtain ⟨found, hfound, husername⟩ := h.live before hbefore harchived
      rw [hid, hlookup] at hfound
      obtain rfl := Option.some.inj hfound
      exact .inl ⟨hid, husername.symm⟩
    · exact .inr ⟨hid, hbefore⟩
  given := h.given_changed fun _ => rfl

theorem Kept.puts_opened (h : Kept m r d) (username password : String) :
    Puts r { r with
        lastId := r.lastId + 1
        holders := r.holders ++ [⟨⟨r.lastId + 1, username, false, false⟩, password⟩] }
      ⟨r.lastId + 1, username, false, false⟩ where
  account? other := Register.account?_opened h.given _ rfl password _ other
  live holder hholder harchived := by
    rcases List.mem_append.1 hholder with hbefore | hnew
    · have hle := h.given holder hbefore
      exact .inr ⟨by dsimp only; omega, hbefore⟩
    · obtain rfl := List.mem_singleton.1 hnew
      exact .inl ⟨rfl, rfl⟩
  given holder hholder := by
    rcases List.mem_append.1 hholder with hbefore | hnew
    · have hle := h.given holder hbefore
      dsimp only
      omega
    · obtain rfl := List.mem_singleton.1 hnew
      exact le_rfl

/-- The stores follow when a user leaves the directory: its account is archived and its record
erased. -/
theorem Kept.removed (h : Kept m r d) (id : Int) :
    Kept (m.setRecords .user (m.users.erase (Urn.ofAccount id).text))
      (r.changed id fun account => { account with archived := true })
      { d with profiles := d.profiles.erase id } := by
  have hrest : ∀ other found, (d.profiles.erase id).lookup other = some found →
      other ≠ id ∧ d.profiles.lookup other = some found := by
    intro other found hfound
    by_cases hother : other = id
    · rw [hother, AList.lookup_erase] at hfound
      cases hfound
    · rw [AList.lookup_erase_ne hother] at hfound
      exact ⟨hother, hfound⟩
  refine ⟨h.sorted.erase _, ?_, ?_, ?_, ?_, h.given_changed fun _ => rfl, h.last, h.refuses⟩
  · intro other found hfound
    obtain ⟨hother, hbefore⟩ := hrest other found hfound
    show Assoc.get? (Assoc.erase m.users _) _ = _
    rw [Assoc.get?_erase, if_neg fun hname => hother (Urn.ofAccount_text_injective hname).symm]
    exact h.stored other found hbefore
  · intro name user huser
    have huser : Assoc.get? (Assoc.erase m.users (Urn.ofAccount id).text) name = some user := huser
    rw [Assoc.get?_erase] at huser
    by_cases hname : (Urn.ofAccount id).text = name
    · rw [if_pos hname] at huser
      cases huser
    · rw [if_neg hname] at huser
      obtain ⟨other, found, hfound, rfl⟩ := h.named name user huser
      have hother : other ≠ id := fun hid => hname (by rw [hid])
      exact ⟨other, found, (AList.lookup_erase_ne hother).trans hfound, rfl⟩
  · intro other found hfound
    obtain ⟨hother, hbefore⟩ := hrest other found hfound
    rw [Register.account?_changed (f := fun account => { account with archived := true })
      fun _ => rfl, h.account other found hbefore]
    simp [hother]
  · intro holder hholder harchived
    obtain ⟨before, hbefore, ⟨hid, hchanged⟩ | ⟨hid, rfl⟩⟩ := Register.mem_changed hholder
    · rw [hchanged] at harchived
      cases harchived
    · obtain ⟨found, hfound, husername⟩ := h.live holder hbefore harchived
      exact ⟨found, (AList.lookup_erase_ne hid).trans hfound, husername⟩

/-! ## The listing -/

/-- Users with what the register says about their accounts. -/
def shown (r : Register) (users : List User) : List User :=
  users.map fun user => { user with locked := (r.account? user.account).map Account.locked }

/-- What is stored and what is shown under a name are those of a user of the directory. -/
theorem Kept.entry (h : Kept m r d) {e : String × User} (he : e ∈ m.users) :
    ∃ id profile, d.profiles.lookup id = some profile ∧ e.1 = (Urn.ofAccount id).text ∧
      e.2 = profile.record id := by
  have hget := h.sorted.get?_of_mem he
  obtain ⟨id, profile, hlookup, hname⟩ := h.named e.1 e.2 hget
  rw [hname, h.stored id profile hlookup] at hget
  exact ⟨id, profile, hlookup, hname, (Option.some.inj hget).symm⟩

theorem Kept.account_of_entry (h : Kept m r d) {e : String × User} (he : e ∈ m.users) :
    ∃ account, r.account? e.2.account = some account := by
  obtain ⟨id, profile, hlookup, -, hrecord⟩ := h.entry he
  rw [hrecord]
  exact ⟨_, h.account id profile hlookup⟩

theorem Kept.mem_shown (h : Kept m r d) {user : User} :
    user ∈ shown r (m.users.map Prod.snd) ↔
      ∃ id profile, d.profiles.lookup id = some profile ∧ user = profile.user id := by
  unfold shown
  rw [List.map_map, List.mem_map]
  constructor
  · rintro ⟨e, he, rfl⟩
    obtain ⟨id, profile, hlookup, -, hrecord⟩ := h.entry he
    have haccount : r.account? (profile.record id).account = _ := h.account id profile hlookup
    refine ⟨id, profile, hlookup, ?_⟩
    simp only [Function.comp_apply, hrecord, haccount]
    rfl
  · rintro ⟨id, profile, hlookup, rfl⟩
    have haccount : r.account? (profile.record id).account = _ := h.account id profile hlookup
    refine ⟨_, Assoc.mem_of_get? (h.stored id profile hlookup), ?_⟩
    simp only [Function.comp_apply, haccount]
    rfl

theorem mem_users (d : Directory) {user : User} :
    user ∈ d.users ↔
      ∃ id profile, d.profiles.lookup id = some profile ∧ user = profile.user id := by
  unfold Directory.users
  rw [List.mem_mergeSort, List.mem_map]
  constructor
  · rintro ⟨⟨id, profile⟩, he, rfl⟩
    exact ⟨id, profile, AList.mem_lookup_iff.2 he, rfl⟩
  · rintro ⟨id, profile, hlookup, rfl⟩
    exact ⟨⟨id, profile⟩, AList.mem_lookup_iff.1 hlookup, rfl⟩

/-- The users of a directory are listed by name, and no name comes twice. -/
theorem users_ascending (d : Directory) : d.users.Pairwise fun a b => a.id.text < b.id.text := by
  have hordered : d.users.Pairwise fun a b => a.id.text ≤ b.id.text := by
    have hsorted : d.users.Pairwise fun a b => decide (a.id.text ≤ b.id.text) = true := by
      refine List.pairwise_mergeSort (fun a b c hab hbc => ?_) (fun a b => ?_) _
      · exact decide_eq_true (String.le_trans (of_decide_eq_true hab) (of_decide_eq_true hbc))
      · simpa using String.le_total a.id.text b.id.text
    exact hsorted.imp fun h => of_decide_eq_true h
  have hdistinct : d.users.Pairwise fun a b => a.id.text ≠ b.id.text := by
    have hperm : d.users.Perm (d.profiles.entries.map fun e => e.2.user e.1) :=
      List.mergeSort_perm _ _
    refine (hperm.pairwise_iff fun hne => hne.symm).2 ?_
    rw [List.pairwise_map]
    exact (List.nodupKeys_iff_pairwise.1 d.profiles.nodupKeys).imp fun hne htext =>
      hne (Urn.ofAccount_text_injective htext)
  exact (hordered.and hdistinct).imp fun h =>
    Decidable.byContradiction fun hle => h.2 (String.le_antisymm h.1 hle)

/-- What a listing of the storage shows is what the directory lists. -/
theorem Kept.shown_eq (h : Kept m r d) : shown r (m.users.map Prod.snd) = d.users := by
  have hascending : (shown r (m.users.map Prod.snd)).Pairwise fun a b => a.id.text < b.id.text := by
    unfold shown
    rw [List.map_map, List.pairwise_map]
    refine List.Pairwise.imp_of_mem (fun {a b} ha hb hlt => ?_) h.sorted
    obtain ⟨_, _, _, hname, hrecord⟩ := h.entry ha
    obtain ⟨_, _, _, hname', hrecord'⟩ := h.entry hb
    simp only [Function.comp_apply, hrecord, hrecord']
    rw [hname, hname'] at hlt
    exact hlt
  have : Std.Irrefl fun a b : User => a.id.text < b.id.text := ⟨fun a => String.lt_irrefl _⟩
  have : Std.Antisymm fun a b : User => a.id.text < b.id.text :=
    ⟨fun a b hab hba => absurd hba (String.lt_asymm hab)⟩
  exact List.Pairwise.eq_of_mem_iff hascending (users_ascending d) fun user =>
    h.mem_shown.trans (mem_users d).symm

end Users

end AccessControl
