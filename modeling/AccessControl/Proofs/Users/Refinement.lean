/-
The service of users over an empty memory and an empty register does what a directory does. Main
statements: each request is answered as by the directory and the stores follow it
(`follows_request`), and so is every run of requests (`Realm.users_refine_directory`).
-/
import AccessControl.Proofs.Service.Atomic
import AccessControl.Proofs.Users.Stores

namespace AccessControl

/-- The store with its register refusing to archive accounts, or not. -/
def Accounts.Store.refuseArchive (refuses : Bool) : Accounts.Store → Accounts.Store
  | register r => register { r with refusesArchive := refuses }
  | remote client servers sent => remote client servers sent

namespace Users

open Accounts (Register)
open Realm (serve_bind_ok serve_bind_error serve_reads serve_attempt)
open Storage (Memory)

variable {s : Realm} {m : Memory} {r : Register} {d : Directory} {α : Type}

/-! ## Calls -/

/-- A realm stands on a memory and on a register. -/
structure Stands (s : Realm) (m : Memory) (r : Register) : Prop where
  storage : s.storage = .memory m
  accounts : s.accounts = .register r

theorem Stands.answer (h : Stands s m r) (call : Storage.Call) :
    (s.storage.answer call).1 = (m.answer call).1 := by
  rw [h.storage]
  rfl

theorem Stands.serve_storage (h : Stands s m r) (call : Storage.Call) :
    ∃ t, s.serve (Service.storage call) = ((m.answer call).1, t) ∧
      Stands t (m.answer call).2 r := by
  have hask : s.askStorage call =
      ((m.answer call).1, { s with storage := .memory (m.answer call).2 }) := by
    unfold Realm.askStorage
    rw [h.storage]
    rfl
  exact ⟨_, hask, rfl, h.accounts⟩

theorem Stands.serve_accounts (h : Stands s m r) (call : Accounts.Call) :
    ∃ t, s.serve (Service.accounts call) = ((r.answer call).1, t) ∧
      Stands t m (r.answer call).2 := by
  have hask : s.askAccounts call =
      ((r.answer call).1, { s with accounts := .register (r.answer call).2 }) := by
    unfold Realm.askAccounts
    rw [h.accounts]
    rfl
  exact ⟨_, hask, h.storage, rfl⟩

/-- Looking up an account changes nothing. -/
theorem Stands.serve_account (h : Stands s m r) {id : Int} {account : Account}
    (haccount : r.account? id = some account) :
    s.serve (Service.accounts (.account id)) = (.ok account, s) := by
  rw [Realm.serve_accounts]
  unfold Realm.askAccounts
  rw [h.accounts]
  simp only [Accounts.Store.answer, Register.answer, haccount]
  rw [← h.accounts]

/-! ## Requests -/

/-- A service in a realm answers what has been answered by a directory, and the stores of the realm
follow what has become of it. -/
def Follows (s : Realm) (service : Service α) (outcome : Answer α × Directory) :
    Prop :=
  ∃ t m r, s.serve service = (outcome.1, t) ∧ Stands t m r ∧ Kept m r outcome.2

/-- The answer of a storage to loading a user is the record of the one that is found. -/
theorem Kept.load (h : Kept m r d) {user : Urn .user} {id : Int}
    (haccount : accountOf? user = some id) :
    (m.answer (.load .user user)).1 = (d.find user).map fun found => found.2.record found.1 := by
  simp only [Memory.answer]
  cases hfind : d.find user with
  | ok found =>
    obtain ⟨-, huser, hlookup⟩ := Directory.find_ok_iff.1 hfind
    have hstored : (m.records .user).get? user.text = some (found.2.record found.1) := by
      rw [huser]
      exact h.stored found.1 found.2 hlookup
    rw [hstored]
    rfl
  | error failure =>
    have hfailure : failure = Storage.missing .user := by
      unfold Directory.find at hfind
      rw [haccount] at hfind
      dsimp only at hfind
      split at hfind
      · split at hfind
        · cases hfind
        · exact (Except.error.inj hfind).symm
      · exact (Except.error.inj hfind).symm
    have hnone : (m.records .user).get? user.text = none := by
      refine h.get?_none fun other profile hlookup huser => ?_
      have hother : other = id := by
        rw [huser, accountOf?_ofAccount] at haccount
        split at haccount
        · exact Option.some.inj haccount
        · cases haccount
      have hfound : d.find user = .ok (other, profile) :=
        Directory.find_ok_iff.2 ⟨hother ▸ haccount, huser, hlookup⟩
      rw [hfound] at hfind
      cases hfind
    rw [hnone, hfailure]
    rfl

/-- Under the name of an account a service goes on with the record of the user, if it is loaded. -/
theorem serve_loaded {user : Urn .user} {id : Int} (haccount : accountOf? user = some id)
    (service : User → Service α) (s : Realm) :
    s.serve (do
        named user
        Service.guarded .user do service (← Service.storage (.load .user user))) =
      match (s.storage.answer (.load .user user)).1 with
      | .ok record => s.serve (service record)
      | .error failure => (.error failure, s) := by
  have hnamed : s.serve (named user) = (.ok (), s) := by
    unfold named
    rw [haccount]
    rfl
  rw [serve_bind_ok hnamed, Realm.serve_guarded, serve_reads (.load .user user) trivial]
  cases (s.storage.answer (.load .user user)).1 <;> rfl

/-- Where a user is found its record is loaded, and elsewhere the service fails as the directory
does. -/
theorem follows_withUser (hs : Stands s m r) (hk : Kept m r d) (user : Urn .user)
    {service : User → Service α} {next : Int → Profile → Answer α × Directory}
    (hnext : ∀ id profile, d.find user = .ok (id, profile) →
      Follows s (service (profile.record id)) (next id profile)) :
    Follows s
      (do named user; Service.guarded .user do service (← Service.storage (.load .user user)))
      (d.withUser user next) := by
  cases haccount : accountOf? user with
  | none =>
    have hnamed : s.serve (named user) =
        (.error (.invalidArgument s!"invalid user urn {Text.quoted user.text}"), s) := by
      unfold named
      rw [haccount]
      rfl
    have hfind : d.find user =
        .error (.invalidArgument s!"invalid user urn {Text.quoted user.text}") := by
      unfold Directory.find
      rw [haccount]
    unfold Directory.withUser
    rw [hfind]
    exact ⟨s, m, r, serve_bind_error hnamed, hs, hk⟩
  | some id =>
    have hload : (s.storage.answer (.load .user user)).1 = _ :=
      (hs.answer (.load .user user)).trans (hk.load haccount)
    unfold Follows Directory.withUser
    rw [serve_loaded haccount, hload]
    cases hfind : d.find user with
    | ok found => exact hnext found.1 found.2 hfind
    | error failure => exact ⟨s, m, r, rfl, hs, hk⟩

theorem serve_withLock (hs : Stands s m r) {user : User} {account : Account}
    (haccount : r.account? user.account = some account) :
    s.serve (withLock user) = (.ok { user with locked := some account.locked }, s) := by
  unfold withLock
  rw [serve_bind_ok (hs.serve_account haccount)]
  rfl

theorem follows_load (hs : Stands s m r) (hk : Kept m r d) (user : Urn .user) :
    Follows s (load user) (d.answer (.load user)) := by
  refine follows_withUser hs hk user fun id profile hfound => ?_
  have haccount : r.account? (profile.record id).account = _ :=
    hk.account id profile (Directory.find_ok_iff.1 hfound).2.2
  have hlock : s.serve (withLock (profile.record id)) = (.ok (profile.user id), s) :=
    serve_withLock hs haccount
  exact ⟨s, m, r, hlock, hs, hk⟩

theorem serve_load (hs : Stands s m r) (hk : Kept m r d) (user : Urn .user) :
    (s.serve (load user)).1 = (d.find user).map fun found => found.2.user found.1 := by
  obtain ⟨_, _, _, hserve, -, -⟩ := follows_load hs hk user
  exact (congrArg Prod.fst hserve).trans (d.answer_load user)

/-- Asked for every account in turn, the register says of each whether it is locked. -/
theorem serve_withLocks (hs : Stands s m r) {users : List User}
    (haccounts : ∀ user ∈ users, ∃ account, r.account? user.account = some account) :
    s.serve (withLocks users) = (.ok (shown r users), s) := by
  induction users with
  | nil => rfl
  | cons user rest ih =>
    obtain ⟨account, haccount⟩ := haccounts user List.mem_cons_self
    have hrest := ih fun other hother => haccounts other (List.mem_cons_of_mem _ hother)
    unfold withLocks
    rw [serve_bind_ok (serve_withLock hs haccount), serve_bind_ok hrest]
    unfold shown
    rw [List.map_cons, haccount]
    rfl

theorem follows_list (hs : Stands s m r) (hk : Kept m r d) :
    Follows s list (d.answer .list) := by
  have hlist : (s.storage.answer (.list .user)).1 = .ok (m.users.map Prod.snd) :=
    hs.answer (.list .user)
  have hlocks : s.serve (withLocks (m.users.map Prod.snd)) = (.ok d.users, s) := by
    rw [← hk.shown_eq]
    refine serve_withLocks hs fun user huser => ?_
    obtain ⟨e, he, rfl⟩ := List.mem_map.1 huser
    exact hk.account_of_entry he
  refine ⟨s, m, r, ?_, hs, hk⟩
  unfold list
  rw [Realm.serve_guarded, serve_reads (.list .user) trivial, hlist]
  exact hlocks

/-- Locking changes an account and no record, because records do not say what is locked. -/
theorem follows_setLocked (hs : Stands s m r) (hk : Kept m r d) (user : Urn .user)
    (locked : Bool) :
    Follows s (setLocked user locked) (d.answer (.setLocked user locked)) := by
  refine follows_withUser hs hk user fun id profile hfound => ?_
  have hlookup := (Directory.find_ok_iff.1 hfound).2.2
  have hchange := Register.change_of_account? (hk.account id profile hlookup)
    fun account => { account with locked }
  have hkept : Kept m (r.changed id fun account => { account with locked })
      (d.set id { profile with locked }) := by
    have hsame : Assoc.put (Urn.ofAccount id).text (profile.record id) m.users = m.users :=
      hk.sorted.put_of_get? (hk.stored id profile hlookup)
    have hputs := hk.puts_locked hlookup locked
    have hput : Kept
        { m with users := Assoc.put (Urn.ofAccount id).text (profile.record id) m.users }
        _ (d.set id { profile with locked }) :=
      hk.put id { profile with locked } hputs rfl hk.last hk.refuses
    rwa [hsame] at hput
  cases locked with
  | true =>
    obtain ⟨t, hserve, ht⟩ := hs.serve_accounts (.lock id)
    have hanswer : r.answer (.lock id) = _ := hchange
    rw [hanswer] at hserve ht
    exact ⟨t, m, _, hserve, ht, hkept⟩
  | false =>
    obtain ⟨t, hserve, ht⟩ := hs.serve_accounts (.unlock id)
    have hanswer : r.answer (.unlock id) = _ := hchange
    rw [hanswer] at hserve ht
    exact ⟨t, m, _, hserve, ht, hkept⟩

/-- The record of a user is stored with other attributes. -/
theorem follows_store (hs : Stands s m r) (hk : Kept m r d) {id : Int} {profile : Profile}
    (hlookup : d.profiles.lookup id = some profile) (attributes : Option Attributes) :
    Follows s
      (Service.storage (.store .user (Profile.record id { profile with attributes })))
      (.ok (), d.set id { profile with attributes }) := by
  obtain ⟨t, hserve, ht⟩ := hs.serve_storage (.store .user _)
  have hputs := hk.puts_self hlookup
  exact ⟨t, _, r, hserve, ht,
    hk.put id { profile with attributes } hputs rfl hk.last hk.refuses⟩

/-- Where the directory changes the attributes of a user, so does the service. -/
theorem follows_modify (hs : Stands s m r) (hk : Kept m r d) {user : Urn .user}
    {service : Service Unit} {outcome : Answer Unit × Directory}
    (change : Option Attributes → Option Attributes)
    (hservice : service =
      modify user fun record => { record with attributes := change record.attributes })
    (houtcome : outcome = d.modify user change) :
    Follows s service outcome := by
  subst hservice houtcome
  refine follows_withUser hs hk user fun id profile hfound => ?_
  have hlookup := (Directory.find_ok_iff.1 hfound).2.2
  exact follows_store hs hk hlookup (change profile.attributes)

theorem follows_delete (hs : Stands s m r) (hk : Kept m r d) (user : Urn .user) :
    Follows s (delete user) (d.answer (.delete user)) := by
  refine follows_withUser hs hk user fun id profile hfound => ?_
  obtain ⟨-, huser, hlookup⟩ := Directory.find_ok_iff.1 hfound
  obtain ⟨t, harchive, ht⟩ := hs.serve_accounts (.archive id)
  have hanswer : r.answer (.archive id) =
      if d.refusesArchive then (.error (.internal "archive rejected by account store"), r)
      else (.ok (), r.changed id fun account => { account with archived := true }) := by
    have hchange := Register.change_of_account? (hk.account id profile hlookup)
      fun account => { account with archived := true }
    rw [hk.refuses]
    unfold Register.answer
    dsimp only
    rw [hchange]
    rfl
  by_cases hrefused : d.refusesArchive = true
  · rw [if_pos hrefused] at hanswer ⊢
    rw [hanswer] at harchive ht
    exact ⟨t, m, r, serve_bind_error harchive, ht, hk⟩
  · rw [if_neg hrefused] at hanswer ⊢
    rw [hanswer] at harchive ht
    -- the account is archived, and the record is there to be erased
    obtain ⟨u, herase, hu⟩ := ht.serve_storage (.erase .user user)
    have hstored : (m.records .user).has user.text = true := by
      rw [Assoc.has_eq, huser]
      exact Option.isSome_iff_exists.2 ⟨_, hk.stored id profile hlookup⟩
    have herased : m.answer (.erase .user user) =
        (.ok (), m.setRecords .user ((m.records .user).erase user.text)) := if_pos hstored
    rw [herased] at herase hu
    refine ⟨u.announce user, _, _, ?_, ⟨hu.storage, hu.accounts⟩, huser ▸ hk.removed id⟩
    have hrest : t.serve (do Service.storage (.erase .user user); Service.announce user) =
        (.ok (), u.announce user) := serve_bind_ok herase
    exact (serve_bind_ok harchive).trans hrest

/-- A new record is stored where there is none of its name. -/
theorem serve_storeNew (hs : Stands s m r) (user : User)
    (hnew : m.users.get? user.id.text = none) :
    ∃ t, s.serve (storeNew user) = (.ok (), t) ∧
      Stands t (m.setRecords .user (Assoc.put user.id.text user m.users)) r := by
  have hload : (s.storage.answer (.load .user user.id)).1 = .error (Storage.missing .user) := by
    rw [hs.answer (.load .user user.id)]
    have hnone : (m.records .user).get? user.id.text = none := hnew
    simp only [Memory.answer, hnone]
  obtain ⟨t, hstore, ht⟩ := hs.serve_storage (.store .user user)
  refine ⟨t, ?_, ht⟩
  unfold storeNew
  rw [Realm.serve_attempt_reads (.load .user user.id) trivial, hload]
  exact hstore

theorem follows_create (hs : Stands s m r) (hk : Kept m r d) (username password : String)
    (attributes : Option Attributes) :
    Follows s (create username password attributes)
      (d.answer (.create username password attributes)) := by
  obtain ⟨t, hopen, ht⟩ := hs.serve_accounts (.create username password false)
  have hcreate : r.answer (.create username password false) =
      if username.isEmpty then (.error (.invalidArgument "username is required"), r)
      else if d.hasUsername username then (.error (.conflict "account"), r)
      else (.ok (r.lastId + 1), { r with
        lastId := r.lastId + 1
        holders := r.holders ++ [⟨⟨r.lastId + 1, username, false, false⟩, password⟩] }) := by
    rw [← hk.live?_isSome]
    rfl
  unfold Follows create
  rw [Realm.serve_guarded]
  simp only [Directory.answer]
  by_cases hempty : username.isEmpty = true
  · rw [if_pos hempty] at hcreate ⊢
    rw [hcreate] at hopen ht
    exact ⟨t, m, r, serve_bind_error hopen, ht, hk⟩
  rw [if_neg hempty] at hcreate ⊢
  by_cases htaken : d.hasUsername username = true
  · rw [if_pos htaken] at hcreate ⊢
    rw [hcreate] at hopen ht
    exact ⟨t, m, r, serve_bind_error hopen, ht, hk⟩
  rw [if_neg htaken] at hcreate ⊢
  rw [hcreate] at hopen ht
  -- the number of the new account is above all numbers of users, so its name has no record
  have hnew : m.users.get? (Urn.ofAccount (r.lastId + 1)).text = none := by
    refine hk.get?_none fun id profile hlookup hname => ?_
    obtain ⟨holder, hholder, hsame⟩ := Register.mem_of_account? (hk.account id profile hlookup)
    have hle := hk.given holder hholder
    rw [hsame] at hle
    have hid := Urn.ofAccount_injective hname
    simp only at hle
    omega
  let user := User.ofAccount (r.lastId + 1) username attributes
  obtain ⟨u, hstore, hu⟩ := serve_storeNew ht user hnew
  have hkept : Kept (m.setRecords .user (Assoc.put user.id.text user m.users)) _
      { d.set (d.last + 1) ⟨username, attributes, false⟩ with last := d.last + 1 } :=
    hk.put (r.lastId + 1) ⟨username, attributes, false⟩ (hk.puts_opened username password)
      (by rw [hk.last]; rfl) (by rw [hk.last]) hk.refuses
  refine ⟨u, _, _, ?_, hu, hkept⟩
  have hattempt : t.serve (storeNew user).attempt = (.ok (.ok ()), u) := by
    rw [serve_attempt, hstore]
  rw [serve_bind_ok hopen]
  refine (serve_bind_ok hattempt).trans ?_
  rw [hk.last]
  rfl

/-- Every request is answered as by the directory, and the stores follow it. -/
theorem follows_request (hs : Stands s m r) (hk : Kept m r d) (request : Request) :
    Follows s request.service (d.answer request) := by
  cases request with
  | create username password attributes => exact follows_create hs hk _ _ _
  | load user => exact follows_load hs hk user
  | list => exact follows_list hs hk
  | delete user => exact follows_delete hs hk user
  | setLocked user locked => exact follows_setLocked hs hk user locked
  | setAttributes user attributes =>
    exact follows_modify hs hk (fun _ => some attributes) rfl rfl
  | setAttribute user key value =>
    exact follows_modify hs hk (fun attributes => some (Assoc.put key value (attributes.getD [])))
      rfl rfl
  | eraseAttribute user key =>
    exact follows_modify hs hk (Option.map fun attributes => Assoc.erase attributes key)
      rfl rfl

end Users

/-! ## Runs -/

namespace Realm

open Storage (Memory)
open Users

/-- Follows one step after the other; tells what has been answered. -/
def attend (s : Realm) : List Step → Transcript × Realm
  | [] => ([], s)
  | .refuseArchive refuses :: rest =>
    { s with accounts := s.accounts.refuseArchive refuses }.attend rest
  | .ask request :: rest =>
    let (answer, s) := s.serve request.service
    let (answers, s) := s.attend rest
    (⟨request, answer⟩ :: answers, s)

variable {s : Realm} {m : Memory} {r : Accounts.Register} {d : Directory}

/-- A run is answered as by the directory, and the stores follow it. -/
theorem attend_follows (steps : List Step) (hs : Stands s m r) (hk : Kept m r d) :
    ∃ t m r, s.attend steps = ((d.attend steps).1, t) ∧ Stands t m r ∧
      Kept m r (d.attend steps).2 := by
  induction steps generalizing s m r d with
  | nil => exact ⟨s, m, r, rfl, hs, hk⟩
  | cons step rest ih =>
    cases step with
    | refuseArchive refuses =>
      have haccounts : s.accounts.refuseArchive refuses =
          .register { r with refusesArchive := refuses } := by
        rw [hs.accounts]
        rfl
      exact ih ⟨hs.storage, haccounts⟩
        ⟨hk.sorted, hk.stored, hk.named, hk.account, hk.live, hk.given, hk.last, rfl⟩
    | ask request =>
      obtain ⟨t, m', r', hserve, ht, hk'⟩ := follows_request hs hk request
      obtain ⟨u, m'', r'', hattend, hu, hk''⟩ := ih ht hk'
      refine ⟨u, m'', r'', ?_, hu, hk''⟩
      unfold attend Directory.attend
      rw [hserve]
      dsimp only
      rw [hattend]

/-- A request leaves what is shown of every user that it is not about. -/
theorem load_after (hs : Stands s m r) (hk : Kept m r d) (hnumbered : d.Numbered)
    {request : Request} {user : Urn .user} {record : User} (hother : request.subject ≠ some user)
    (hload : (s.serve (load user)).1 = .ok record) :
    ((s.serve request.service).2.serve (load user)).1 = .ok record := by
  obtain ⟨t, m', r', hserve, ht, hk'⟩ := follows_request hs hk request
  rw [serve_load hs hk] at hload
  rw [hserve, serve_load ht hk']
  cases hfind : d.find user with
  | error failure =>
    rw [hfind] at hload
    cases hload
  | ok found =>
    rw [hfind] at hload
    rw [Directory.find_answer hnumbered hother hfind]
    exact hload

/-- Locking a user, or unlocking it, changes nothing that is stored. -/
theorem storage_setLocked (s : Realm) (user : Urn .user) (locked : Bool) :
    (s.serve (setLocked user locked)).2.storage = s.storage := by
  obtain ⟨-, htogether⟩ := run_eq_runVia false (setLocked user locked).run s
  have hstorage := (spectates_setLocked user locked).storage_serveVia (ownBridge s.now) false
    (s, s.accounts)
  have hrealm := congrArg Realm.storage htogether.realm
  exact hrealm.trans hstorage

/-! ## From the start -/

/-- A realm does what a directory does. -/
structure KeepsDirectory (s : Realm) (steps : List Step) : Prop where
  /-- All requests are answered as by the directory. -/
  answers : (s.attend steps).1 = (Directory.empty.attend steps).1
  /-- Each account that is opened has a larger number than all before it. -/
  numbers : ∃ ids : List Int, Directory.opened (s.attend steps).1 = ids.map Urn.ofAccount ∧
    (0 :: ids).Pairwise (· < ·)
  /-- Locking, after all that has been done, changes no record. -/
  locks : ∀ user locked, ((s.attend steps).2.serve (setLocked user locked)).2.storage =
    (s.attend steps).2.storage
  /-- No request, after all that has been done, changes a user that it is not about. -/
  others : ∀ (request : Request) (user : Urn .user) (record : User), request.subject ≠ some user →
    ((s.attend steps).2.serve (load user)).1 = .ok record →
      (((s.attend steps).2.serve request.service).2.serve (load user)).1 = .ok record

theorem numbered_attend (steps : List Step) (hd : d.Numbered) : (d.attend steps).2.Numbered := by
  induction steps generalizing d with
  | nil => exact hd
  | cons step rest ih =>
    cases step with
    | refuseArchive refuses => exact ih (d := { d with refusesArchive := refuses }) hd
    | ask request => exact ih (hd.answer request)

/-- Over an empty storage in memory and an empty register the service of users does what a
directory does. -/
theorem users_refine_directory (now : Nat) (steps : List Step) :
    (start (.memory .empty) (.register .empty) now).KeepsDirectory steps := by
  have hstart : Stands (start (.memory .empty) (.register .empty) now) .empty .empty :=
    ⟨rfl, rfl⟩
  obtain ⟨t, m, r, hattend, ht, hk⟩ := attend_follows steps hstart kept_empty
  have hnumbered := numbered_attend steps Directory.numbered_empty
  refine ⟨by rw [hattend], ?_, fun user locked => storage_setLocked _ user locked, ?_⟩
  · rw [hattend]
    exact Directory.opened_ascending steps .empty
  · intro request user record hother hload
    rw [hattend] at hload ⊢
    exact load_after ht hk hnumbered hother hload

end Realm

end AccessControl
