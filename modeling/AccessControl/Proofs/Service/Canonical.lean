/-
Every record that the services store has the name that belongs to it, whatever names and bodies they
are given. Main statements: every wish keeps a storage of such records one (`Wish.files`), so that
after every run of wishes no user answers to another name than that of its account, and all that is
listed can be loaded by the names it is listed with (`Realm.wellNamed_fulfil`), users as they are
listed where the system keeps the accounts itself (`Realm.users_fulfil`).
-/
import AccessControl.Proofs.Storage.Canonical
import AccessControl.Proofs.Users.Written

namespace AccessControl

open Storage (Backend Entry Medium)

/-- The call stores a record only under the name that belongs to it. -/
def Call.Canonical : Call → Prop
  | storage call => ∀ (k : Kind) (record : Record k), call = .store k record → record.Canonical
  | enter _ | leave _ | accounts _ | decide _ _ | announce _ => True

theorem Call.Spectates.canonical {call : Call} (h : call.Spectates) : call.Canonical := by
  cases call with
  | storage call =>
    intro k record hcall
    subst hcall
    exact h.elim
  | enter _ | leave _ | accounts _ | decide _ _ | announce _ => trivial

/-! ## Services -/

namespace Service

open Realm (serveVia serveVia_bind serveVia_storage serveVia_guarded)

variable {α β : Type}

/-- However its calls are answered, the service leaves a storage of canonical names one. -/
structure Files (service : Service α) : Prop where
  kept : ∀ {σ : Type} (bridge : Accounts.Bridge σ) (givenUp : Bool) (s : Realm × σ),
    s.1.storage.Canonical → (serveVia bridge givenUp service s).2.1.storage.Canonical

theorem only_store {k : Kind} {record : Record k} (h : record.Canonical) :
    (storage (.store k record)).Only Call.Canonical := only_storage fun l stored hstored => by
  cases hstored
  exact h

/-- A service that stores only records under their names. -/
theorem Only.files {service : Service α} (h : service.Only Call.Canonical) : service.Files := by
  refine ⟨fun {σ} bridge givenUp s hs => ?_⟩
  refine Program.Only.run_kept (I := fun t : Realm × σ => t.1.storage.Canonical) h
    (fun origin call hcall t ht => ?_) hs
  cases call with
  | enter _ | leave _ | accounts _ | decide _ _ | announce _ => exact ht
  | storage call =>
    cases hrefused : givenUp && origin == .caller <;>
      simp only [Realm.answerVia, Realm.answer, hrefused]
    · exact ht.answer hcall
    · exact ht

theorem Only.spectates_files {service : Service α} (h : service.Only Call.Spectates) :
    service.Files := Only.files (Program.Only.mono (fun _ => Call.Spectates.canonical) h)

theorem Files.bind {service : Service α} {next : α → Service β} (h : service.Files)
    (hnext : ∀ a, (next a).Files) : (service >>= next).Files := by
  refine ⟨fun bridge givenUp s hs => ?_⟩
  have hfirst := h.kept bridge givenUp s hs
  rw [serveVia_bind]
  rcases hserve : serveVia bridge givenUp service s with ⟨answer, t⟩
  rw [hserve] at hfirst
  cases answer with
  | error failure => exact hfirst
  | ok a => exact (hnext a).kept bridge givenUp t hfirst

theorem Files.guarded {service : Service α} (h : service.Files) (gate : Kind) :
    (guarded gate service).Files := by
  refine ⟨fun bridge givenUp s hs => ?_⟩
  rw [serveVia_guarded]
  cases givenUp with
  | true => exact hs
  | false => exact h.kept bridge false s hs

/-- After a record has been loaded, its name is known to be the one that belongs to it. -/
theorem files_load {k : Kind} (id : Urn k) {next : Record k → Service α}
    (hnext : ∀ record, record.id = id → record.Canonical → (next record).Files) :
    Files (storage (.load k id) >>= next) := by
  refine ⟨fun bridge givenUp s hs => ?_⟩
  cases givenUp with
  | true => exact hs
  | false =>
    have hrun := @Users.serveVia_reads _ _ bridge s (.load k id) trivial next
    rw [hrun]
    cases hrecord : (s.1.storage.answer (.load k id)).1 with
    | error failure => exact hs
    | ok record =>
      obtain ⟨hid, hcanonical⟩ := hs.load hrecord
      exact (hnext record hid hcanonical).kept bridge false s hs

end Service

open Service

/-! ## The service of users -/

namespace Users

theorem files_create (username password : String) (attributes : Option Attributes) :
    (create username password attributes).Files := by
  refine Files.guarded ((only_accounts trivial).files.bind fun account => ?_) .user
  have hstore : (storeNew (User.ofAccount account username attributes)).Only Call.Canonical := by
    refine Only.bind (Only.attempt (only_storage nofun)) fun answer => ?_
    cases answer with
    | ok _ => exact only_throw _
    | error failure =>
      have hrecord := Record.canonical_ofAccount account username attributes
      exact Only.ite (only_store hrecord) (only_throw failure)
  refine ((Only.attempt hstore).bind fun answer => ?_).files
  cases answer with
  | ok _ => exact only_pure _
  | error failure =>
    exact (Only.discard (Only.attempt (Only.detached (only_accounts trivial)))).bind fun _ =>
      only_throw failure

theorem files_named {α : Type} (user : Urn .user) {service : Service α} (h : service.Files) :
    (do named user; guarded .user service : Service α).Files :=
  (spectates_named user).spectates_files.bind fun _ => h.guarded .user

theorem files_delete (user : Urn .user) : (delete user).Files :=
  files_named user <| Only.files <| (only_storage nofun).bind fun _ =>
    (only_accounts trivial).bind fun _ => (only_storage nofun).bind fun _ => only_announce trivial

/-- A change leaves a user its account and its name. -/
def Spares (change : User → User) : Prop :=
  ∀ user, (change user).account = user.account ∧ (change user).id = user.id

theorem files_modify (user : Urn .user) {change : User → User} (h : Spares change) :
    (modify user change).Files := by
  refine files_named user (files_load user fun record _ hrecord => (only_store ?_).files)
  have hrecord : User.Canonical record := hrecord
  obtain ⟨haccount, hid⟩ := h record
  exact ⟨hid.trans (hrecord.id.trans (congrArg Urn.ofAccount haccount.symm)), rfl⟩

end Users

/-! ## The service of groups -/

namespace Groups

theorem files_named {α : Type} (group : Urn .group) {service : Service α} (h : service.Files) :
    (do named group; guarded .group service : Service α).Files := by
  have hnamed : (named group).Only Call.Spectates := Only.ite (only_throw _) (only_pure ())
  exact hnamed.spectates_files.bind fun _ => h.guarded .group

theorem files_list : list.Files := Files.guarded (only_storage nofun).files .group

theorem files_memberships (user : Urn .user) : (memberships user).Files :=
  Files.guarded (only_storage nofun).files .group

theorem files_create (name : String) (comment : Option String) : (create name comment).Files := by
  unfold create
  split
  · exact (only_throw_bind _ _).files
  · rename_i hempty
    dsimp only
    split
    · exact (only_throw_bind _ _).files
    · rename_i hread
      have hname : name ≠ "" := fun h => hempty (String.isEmpty_iff.2 h)
      have hread : (Urn.ofLocal .group name).name = name :=
        Decidable.byContradiction fun h => hread (bne_iff_ne.2 h)
      refine Files.guarded (Only.files ?_) .group
      refine (Only.attempt (only_storage nofun)).bind fun answer => ?_
      cases answer with
      | ok _ => exact only_throw _
      | error failure =>
        have hstore : (do
            storage (.store .group (Group.ofName name comment))
            return (Group.ofName name comment).id : Service (Urn .group)).Only Call.Canonical :=
          (only_store (Record.canonical_ofName hname hread comment)).bind fun _ => only_pure _
        exact Only.ite hstore (only_throw_bind _ _)

theorem files_setComment (group : Urn .group) (comment : Option String) :
    (setComment group comment).Files :=
  files_named group <| files_load group fun record _ hrecord => by
    have hrecord : Group.Canonical record := hrecord
    have hchanged : @Record.Canonical .group ({ record with comment } : Group) :=
      ⟨hrecord.id, hrecord.nonempty, hrecord.isLocal⟩
    exact (only_store hchanged).files

theorem files_delete (group : Urn .group) : (delete group).Files :=
  files_named group <| Only.files <| (Only.discard (only_storage nofun)).bind fun _ =>
    (Only.discard (only_storage nofun)).bind fun _ => only_storage nofun

theorem files_addMember (group : Urn .group) (user : Urn .user) :
    (addMember group user).Files :=
  files_named group <| (spectates_loaded group).spectates_files.bind fun _ =>
    (Only.discard (Users.spectates_load user)).spectates_files.bind fun _ =>
      (only_storage nofun).files

/-- What is done with a group that has been loaded. -/
theorem files_loaded (group : Urn .group) {call : Storage.Call}
    (hcall : (Call.storage call).Canonical) :
    (do
      named group
      guarded .group do
        discard (storage (.load .group group))
        storage call : Service call.Reply).Files :=
  files_named group <| (spectates_loaded group).spectates_files.bind fun _ =>
    (only_storage hcall).files

theorem only_leave (user : Urn .user) (groups : List (Urn .group)) :
    (leave user groups).Only Call.Canonical := by
  induction groups with
  | nil => exact only_pure ()
  | cons group rest ih =>
    exact (Only.discard (Only.attempt (only_storage nofun))).bind fun _ => ih

theorem files_reconcile (user : Urn .user) : (reconcile user).Files :=
  Only.files <| Only.detached <| Only.guarded trivial trivial <|
    (only_storage nofun).bind fun groups => only_leave user groups

end Groups

/-! ## The service of policies -/

namespace Policies

theorem files_named {α : Type} (id : Urn .policy) {service : Service α}
    (h : id.name ≠ "" → service.Files) :
    (do named id; guarded .policy service : Service α).Files := by
  unfold named
  split
  · exact (only_throw_bind _ _).files
  · rename_i hempty
    have hname : id.name ≠ "" := fun h => hempty (String.isEmpty_iff.2 h)
    exact Files.bind (only_pure ()).files fun _ => (h hname).guarded .policy

theorem files_create (name : String) (policy : Policy) : (create name policy).Files := by
  unfold create
  split
  · exact (only_throw_bind _ _).files
  · rename_i hempty
    dsimp only
    split
    · exact (only_throw_bind _ _).files
    · rename_i hread
      have hname : (Urn.ofLocal .policy name).name ≠ "" := fun h => by
        have hread : (Urn.ofLocal .policy name).name = name :=
          Decidable.byContradiction fun h => hread (bne_iff_ne.2 h)
        exact hempty (String.isEmpty_iff.2 (hread.symm.trans h))
      have hrecord := Record.canonical_policy hname policy
      exact Files.guarded ((only_store hrecord).bind fun _ => only_pure _).files .policy

theorem files_list : list.Files := Files.guarded (only_storage nofun).files .policy

end Policies

/-! ## All services -/

theorem Errand.files (errand : Errand) : errand.service.Files := by
  cases errand with
  | createUser username password attributes => exact Users.files_create username password attributes
  | loadUser user => exact (Users.spectates_load user).spectates_files
  | listUsers => exact Users.spectates_list.spectates_files
  | deleteUser user => exact Users.files_delete user
  | setLocked user locked => exact (Users.spectates_setLocked user locked).spectates_files
  | setAttributes user attributes => exact Users.files_modify user fun _ => ⟨rfl, rfl⟩
  | setAttribute user key value => exact Users.files_modify user fun _ => ⟨rfl, rfl⟩
  | eraseAttribute user key => exact Users.files_modify user fun _ => ⟨rfl, rfl⟩
  | createGroup name comment => exact Groups.files_create name comment
  | loadGroup group => exact Groups.files_named group (only_storage nofun).files
  | listGroups => exact Groups.files_list
  | deleteGroup group => exact Groups.files_delete group
  | setComment group comment => exact Groups.files_setComment group comment
  | addMember group user => exact Groups.files_addMember group user
  | removeMember group user => exact Groups.files_loaded group nofun
  | members group => exact Groups.files_loaded group nofun
  | memberships user => exact Groups.files_memberships user
  | reconcile user => exact Groups.files_reconcile user

theorem Wish.files (wish : Wish) : wish.service.Files := by
  cases wish with
  | errand errand => exact errand.files
  | createPolicy name policy => exact Policies.files_create name policy
  | deletePolicy id => exact Policies.files_named id fun _ => (only_storage nofun).files
  | loadPolicy id => exact Policies.files_named id fun _ => (only_storage nofun).files
  | updatePolicy id policy =>
    exact Policies.files_named id fun hname =>
      (only_store (Record.canonical_policy hname policy)).files
  | listPolicies => exact Policies.files_list
  | pagePolicies limit offset =>
    show Files (if limit = 0 ∧ offset = 0 then Policies.list else throw _)
    split
    · exact Policies.files_list
    · exact (only_throw _).files

/-! ## Users by their names -/

/-- The user whose record an errand needs. -/
def Errand.user? : Errand → Option (Urn .user)
  | loadUser user | deleteUser user | setLocked user _ | setAttributes user _
  | setAttribute user _ _ | eraseAttribute user _ | addMember _ user => some user
  | _ => none

open Realm (serveVia serveVia_bind serveVia_guarded of_serveVia_bind_ok serveVia_discard)

variable {σ : Type} {bridge : Accounts.Bridge σ} {givenUp : Bool} {s : Realm × σ}

theorem of_serveVia_guarded_ok {α : Type} {gate : Kind} {service : Service α} {a : α}
    (hok : (serveVia bridge givenUp (guarded gate service) s).1 = .ok a) :
    givenUp = false ∧ (serveVia bridge false service s).1 = .ok a := by
  rw [serveVia_guarded] at hok
  cases givenUp with
  | true => cases hok
  | false => exact ⟨rfl, hok⟩

namespace Users

/-- What succeeds with the record of a user has found it under the name of its account. -/
theorem named_of_withRecord {α : Type} (hs : s.1.storage.Canonical) {user : Urn .user}
    {service : User → Service α} {a : α}
    (hok : (serveVia bridge givenUp (withRecord user service) s).1 = .ok a) :
    ∃ account, accountOf? user = some account ∧ user = .ofAccount account := by
  cases haccount : accountOf? user with
  | none =>
    unfold withRecord named at hok
    rw [haccount] at hok
    cases hok
  | some account =>
    refine ⟨account, rfl, ?_⟩
    unfold withRecord at hok
    rw [serveVia_bind, serveVia_named haccount] at hok
    obtain ⟨record, t, hload, -⟩ := of_serveVia_bind_ok (of_serveVia_guarded_ok hok).2
    obtain ⟨hid, hrecord⟩ := hs.load (congrArg Prod.fst hload)
    have hrecord : User.Canonical record := hrecord
    have hname : user = .ofAccount record.account := hid.symm.trans hrecord.id
    -- the number that is read off the name is that of the account
    rw [hname, accountOf?_ofAccount] at haccount
    split at haccount
    · rw [← Option.some.inj haccount]
      exact hname
    · cases haccount

end Users

/-- Where a user has become a member it has been loaded. -/
theorem Groups.named_of_addMember (hs : s.1.storage.Canonical) {group : Urn .group}
    {user : Urn .user} (hok : (serveVia bridge givenUp (addMember group user) s).1 = .ok ()) :
    ∃ account, Users.accountOf? user = some account ∧ user = .ofAccount account := by
  have hnamed : (named group).Only Call.Spectates := Only.ite (only_throw _) (only_pure ())
  have ht := hnamed.spectates_files.kept bridge givenUp s hs
  obtain ⟨_, t, hfirst, hok⟩ := of_serveVia_bind_ok hok
  rw [hfirst] at ht
  have hu := (spectates_loaded group).spectates_files.kept bridge false t ht
  obtain ⟨_, u, hsecond, hok⟩ := of_serveVia_bind_ok (of_serveVia_guarded_ok hok).2
  rw [hsecond] at hu
  obtain ⟨_, v, hthird, -⟩ := of_serveVia_bind_ok hok
  rw [serveVia_discard] at hthird
  rcases hload : serveVia bridge false (Users.load user) u with ⟨answer, w⟩
  rw [hload] at hthird
  cases answer with
  | error failure => cases hthird
  | ok record =>
    exact @Users.named_of_withRecord _ bridge false u _ hu user Users.withLock record
      (congrArg Prod.fst hload)

theorem Errand.named_of_ok (hs : s.1.storage.Canonical) {errand : Errand} {user : Urn .user}
    (huser : errand.user? = some user) {result : errand.Result}
    (hok : (serveVia bridge givenUp errand.service s).1 = .ok result) :
    ∃ account, Users.accountOf? user = some account ∧ user = .ofAccount account := by
  cases errand with
  | loadUser u | deleteUser u | setLocked u _ | setAttributes u _ | setAttribute u _ _
  | eraseAttribute u _ =>
    obtain rfl := Option.some.inj huser
    exact Users.named_of_withRecord hs hok
  | addMember group u =>
    obtain rfl := Option.some.inj huser
    exact Groups.named_of_addMember hs hok
  | _ => cases huser

/-- Other texts lead to the number of an account as well, but no user is found under them. -/
example : Users.accountOf? ⟨"urn:iam::user/+7"⟩ = some 7 ∧
    Urn.ofAccount 7 ≠ ⟨"urn:iam::user/+7"⟩ := by decide

/-! ## Listings -/

/-- Nothing changes in the account store when it is asked about an account. -/
def Quiet (bridge : Accounts.Bridge σ) (memory : σ) : Prop :=
  ∀ givenUp id, (bridge givenUp (.account id) memory).2 = memory

theorem quiet_register (now : Nat) (r : Accounts.Register) :
    Quiet (Realm.ownBridge now) (.register r) := by
  intro givenUp id
  cases givenUp with
  | true => rfl
  | false =>
    simp only [Realm.ownBridge, Accounts.Store.answer, Accounts.Register.answer]
    cases r.account? id <;> rfl

theorem Groups.serveVia_load {group : Urn .group} (hname : group.name ≠ "") :
    (serveVia bridge false (load group) s).1 = (s.1.storage.answer (.load .group group)).1 := by
  have hempty : ¬ group.name.isEmpty = true := fun h => hname (String.isEmpty_iff.1 h)
  unfold load named
  rw [if_neg hempty]
  rfl

/-- A group that is listed can be loaded. -/
theorem Groups.load_of_list (hs : s.1.storage.Canonical) {groups : List Group}
    (hlist : (serveVia bridge givenUp list s).1 = .ok groups) {group : Group}
    (hmem : group ∈ groups) :
    (serveVia bridge false (load group.id) (serveVia bridge givenUp list s).2).1 = .ok group := by
  have hreads : list.Only Call.Spectates := Only.guarded trivial trivial (only_storage trivial)
  have hloads : (s.1.storage.answer (.load .group group.id)).1 = .ok group :=
    hs.list (k := .group) (of_serveVia_guarded_ok hlist).2 hmem
  have hgroup : Group.Canonical group := (hs.load hloads).2
  have hname : group.id.name ≠ "" := by
    rw [hgroup.id, Urn.name_ofLocal hgroup.isLocal]
    exact hgroup.nonempty
  rw [serveVia_load hname, hreads.storage_serveVia]
  exact hloads

namespace Policies

theorem serveVia_load {id : Urn .policy} (hname : id.name ≠ "") :
    (serveVia bridge false (load id) s).1 = (s.1.storage.answer (.load .policy id)).1 := by
  have hempty : ¬ id.name.isEmpty = true := fun h => hname (String.isEmpty_iff.1 h)
  unfold load named
  rw [if_neg hempty]
  rfl

/-- A policy that is listed can be loaded. -/
theorem load_of_list (hs : s.1.storage.Canonical) {policies : List Policy}
    (hlist : (serveVia bridge givenUp list s).1 = .ok policies) {policy : Policy}
    (hmem : policy ∈ policies) :
    (serveVia bridge false (load policy.id) (serveVia bridge givenUp list s).2).1 =
      .ok policy := by
  have hreads : list.Only Call.Spectates := Only.guarded trivial trivial (only_storage trivial)
  have hloads : (s.1.storage.answer (.load .policy policy.id)).1 = .ok policy :=
    hs.list (k := .policy) (of_serveVia_guarded_ok hlist).2 hmem
  have hpolicy : Policy.Canonical policy := (hs.load hloads).2
  rw [serveVia_load hpolicy.nonempty, hreads.storage_serveVia]
  exact hloads

/-- So can one that is listed on a page. -/
theorem load_of_listPage (hs : s.1.storage.Canonical) {limit offset : Nat} {policies : List Policy}
    (hlist : (serveVia bridge givenUp (listPage limit offset) s).1 = .ok policies) {policy : Policy}
    (hmem : policy ∈ policies) :
    (serveVia bridge false (load policy.id)
      (serveVia bridge givenUp (listPage limit offset) s).2).1 = .ok policy := by
  unfold listPage at hlist ⊢
  split at hlist
  · rename_i hwhole
    rw [if_pos hwhole]
    exact load_of_list hs hlist hmem
  · cases hlist

end Policies

/-- A user that is listed can be loaded as far as its account is, of which it is asked again whether
it is locked. -/
theorem Users.load_of_list (hs : s.1.storage.Canonical) {users : List User}
    (hlist : (serveVia bridge givenUp list s).1 = .ok users) {user : User} (hmem : user ∈ users)
    (hlower : -(Nat.pow 2 63 : Int) ≤ user.account) (hupper : user.account < Nat.pow 2 63) :
    (serveVia bridge false (load user.id) (serveVia bridge givenUp list s).2).1 =
      (bridge false (.account user.account) (serveVia bridge givenUp list s).2.2).1.map
        fun account => { user with locked := some account.locked } := by
  have hstorage := spectates_list.storage_serveVia bridge givenUp s
  obtain ⟨records, t, hrecords, hshown⟩ := of_serveVia_bind_ok (of_serveVia_guarded_ok hlist).2
  obtain ⟨record, hrecord, locked, rfl⟩ := (serveVia_withLocks_ok hshown).2 user hmem
  have hloads : (s.1.storage.answer (.load .user record.id)).1 = .ok record :=
    hs.list (k := .user) (congrArg Prod.fst hrecords) hrecord
  have hcanonical : User.Canonical record := (hs.load hloads).2
  have haccount : accountOf? record.id = some record.account := by
    rw [hcanonical.id, accountOf?_ofAccount, if_pos ⟨hlower, hupper⟩]
  show (serveVia bridge false (withRecord record.id withLock) _).1 = _
  rw [serveVia_withRecord haccount, hstorage, hloads]
  exact serveVia_withLock record

/-- What a quiet account store says of the users that are shown it says after that. -/
theorem Users.serveVia_withLocks_quiet (hquiet : Quiet bridge s.2) {records shown : List User}
    (hok : (serveVia bridge givenUp (withLocks records) s).1 = .ok shown) :
    (serveVia bridge givenUp (withLocks records) s).2.2 = s.2 ∧
      ∀ user ∈ shown, ∃ account, (bridge givenUp (.account user.account) s.2).1 = .ok account ∧
        user.locked = some account.locked := by
  induction records generalizing s shown with
  | nil =>
    obtain rfl := Except.ok.inj hok
    exact ⟨rfl, nofun⟩
  | cons record rest ih =>
    unfold withLocks at hok ⊢
    obtain ⟨first, t, hfirst, hthen⟩ := of_serveVia_bind_ok hok
    obtain ⟨others, u, hrest, hpure⟩ := of_serveVia_bind_ok hthen
    obtain rfl := Except.ok.inj hpure
    have ht : t.2 = s.2 := by
      rw [← hquiet givenUp record.account, ← memory_withLock record, hfirst]
    have hlock := (serveVia_withLock record).symm.trans (congrArg Prod.fst hfirst)
    obtain ⟨account, haccount, rfl⟩ := map_ok_iff.1 hlock
    obtain ⟨hmemory, hshown⟩ := ih (ht ▸ hquiet) (congrArg Prod.fst hrest)
    rw [hrest, ht] at hmemory
    rw [ht] at hshown
    constructor
    · rw [Realm.serveVia_bind_ok hfirst, Realm.serveVia_bind_ok hrest]
      exact hmemory
    · intro user huser
      rcases List.mem_cons.1 huser with rfl | huser
      · exact ⟨account, haccount, rfl⟩
      · exact hshown user huser

/-- Beside a quiet account store a user that is listed can be loaded as it is listed. -/
theorem Users.load_of_list_quiet (hs : s.1.storage.Canonical) (hquiet : Quiet bridge s.2)
    {users : List User} (hlist : (serveVia bridge givenUp list s).1 = .ok users) {user : User}
    (hmem : user ∈ users) (hlower : -(Nat.pow 2 63 : Int) ≤ user.account)
    (hupper : user.account < Nat.pow 2 63) :
    (serveVia bridge false (load user.id) (serveVia bridge givenUp list s).2).1 = .ok user := by
  rw [load_of_list hs hlist hmem hlower hupper]
  obtain ⟨rfl, hserved⟩ := of_serveVia_guarded_ok hlist
  obtain ⟨records, t, hrecords, hshown⟩ := of_serveVia_bind_ok hserved
  have ht : t.2 = s.2 := (congrArg (fun answered => answered.2.2) hrecords).symm
  obtain ⟨hmemory, hlocks⟩ := serveVia_withLocks_quiet (ht ▸ hquiet) hshown
  have hafter : (serveVia bridge false list s).2.2 = s.2 := by
    unfold list
    rw [serveVia_guarded, if_neg Bool.false_ne_true, Realm.serveVia_bind_ok hrecords, hmemory, ht]
  obtain ⟨account, haccount, hlocked⟩ := hlocks user hmem
  rw [hafter, ← ht, haccount, Except.map, ← hlocked]

/-! ## Runs -/

namespace Realm

/-- Does one thing after the other, each for a caller that has given up or not. -/
def fulfil (bridge : Accounts.Bridge σ) (s : Realm × σ) (wishes : List (Bool × Wish)) : Realm × σ :=
  wishes.foldl (fun s wish => (serveVia bridge wish.1 wish.2.service s).2) s

/-- In a realm all records have the names that belong to them, and by those names they are found. -/
structure WellNamed (bridge : Accounts.Bridge σ) (s : Realm × σ) : Prop where
  /-- What is kept under a name is a record of that name, which belongs to it. -/
  entries : ∀ (k : Kind) (name : String) (entry : Entry k),
    s.1.storage.entry k name = some entry →
    ∃ record : Record k, entry.Holds record ∧ record.id.text = name ∧ record.Canonical
  /-- So is what is read of it. -/
  loads : ∀ (k : Kind) (id : Urn k) (record : Record k),
    (s.1.storage.answer (.load k id)).1 = .ok record → record.id = id ∧ record.Canonical
  /-- What succeeds with a user has been asked for by the name of its account. -/
  named : ∀ (givenUp : Bool) (errand : Errand) (user : Urn .user), errand.user? = some user →
    ∀ result, (serveVia bridge givenUp errand.service s).1 = .ok result →
    ∃ account, Users.accountOf? user = some account ∧ user = .ofAccount account
  /-- A user that is listed can be loaded as far as its account is. -/
  users : ∀ (givenUp : Bool) (users : List User),
    (serveVia bridge givenUp Users.list s).1 = .ok users → ∀ user ∈ users,
    -(Nat.pow 2 63 : Int) ≤ user.account → user.account < Nat.pow 2 63 →
    (serveVia bridge false (Users.load user.id) (serveVia bridge givenUp Users.list s).2).1 =
      (bridge false (.account user.account) (serveVia bridge givenUp Users.list s).2.2).1.map
        fun account => { user with locked := some account.locked }
  /-- It is loaded as it is listed where the question about its account changes nothing. -/
  usersQuiet : Quiet bridge s.2 → ∀ (givenUp : Bool) (users : List User),
    (serveVia bridge givenUp Users.list s).1 = .ok users → ∀ user ∈ users,
    -(Nat.pow 2 63 : Int) ≤ user.account → user.account < Nat.pow 2 63 →
    (serveVia bridge false (Users.load user.id)
      (serveVia bridge givenUp Users.list s).2).1 = .ok user
  /-- A group that is listed can be loaded. -/
  groups : ∀ (givenUp : Bool) (groups : List Group),
    (serveVia bridge givenUp Groups.list s).1 = .ok groups → ∀ group ∈ groups,
    (serveVia bridge false (Groups.load group.id)
      (serveVia bridge givenUp Groups.list s).2).1 = .ok group
  /-- A policy that is listed can be loaded. -/
  policies : ∀ (givenUp : Bool) (policies : List Policy),
    (serveVia bridge givenUp Policies.list s).1 = .ok policies → ∀ policy ∈ policies,
    (serveVia bridge false (Policies.load policy.id)
      (serveVia bridge givenUp Policies.list s).2).1 = .ok policy
  /-- So can one that is listed on a page. -/
  pages : ∀ (givenUp : Bool) (limit offset : Nat) (policies : List Policy),
    (serveVia bridge givenUp (Policies.listPage limit offset) s).1 = .ok policies →
    ∀ policy ∈ policies,
    (serveVia bridge false (Policies.load policy.id)
      (serveVia bridge givenUp (Policies.listPage limit offset) s).2).1 = .ok policy

theorem wellNamed (bridge : Accounts.Bridge σ) {s : Realm × σ} (hs : s.1.storage.Canonical) :
    WellNamed bridge s where
  entries _ _ _ hentry := hs.entry hentry
  loads _ _ _ hload := hs.load hload
  named _ _ _ huser _ hok := Errand.named_of_ok hs huser hok
  users _ _ hlist _ hmem hlower hupper := Users.load_of_list hs hlist hmem hlower hupper
  usersQuiet hquiet _ _ hlist _ hmem hlower hupper :=
    Users.load_of_list_quiet hs hquiet hlist hmem hlower hupper
  groups _ _ hlist _ hmem := Groups.load_of_list hs hlist hmem
  policies _ _ hlist _ hmem := Policies.load_of_list hs hlist hmem
  pages _ _ _ _ hlist _ hmem := Policies.load_of_listPage hs hlist hmem

theorem canonical_fulfil (bridge : Accounts.Bridge σ) {s : Realm × σ}
    (hs : s.1.storage.Canonical) (wishes : List (Bool × Wish)) :
    (fulfil bridge s wishes).1.storage.Canonical := by
  induction wishes generalizing s with
  | nil => exact hs
  | cons wish rest ih => exact ih (wish.2.files.kept bridge wish.1 s hs)

/-- Whatever is asked of the services, over an empty storage of either kind and beside any account
store, all records have the names that belong to them. -/
theorem wellNamed_fulfil (bridge : Accounts.Bridge σ) (medium : Medium) (accounts : Accounts.Store)
    (now : Nat) (memory : σ) (wishes : List (Bool × Wish)) :
    WellNamed bridge (fulfil bridge (.start medium.empty accounts now, memory) wishes) :=
  wellNamed bridge (canonical_fulfil bridge (Backend.canonical_empty medium) wishes)

/-- A store of accounts that the system keeps itself stays one. -/
theorem register_serveVia {α : Type} (now : Nat) (givenUp : Bool) (service : Service α)
    {s : Realm × Accounts.Store} (hs : ∃ r, s.2 = .register r) :
    ∃ r, (serveVia (ownBridge now) givenUp service s).2.2 = .register r := by
  refine Program.Only.run_kept (I := fun t : Realm × Accounts.Store => ∃ r, t.2 = .register r)
    service.run.only_any (fun origin call _ t ht => ?_) hs
  obtain ⟨realm, store⟩ := t
  obtain ⟨r, rfl⟩ := ht
  cases call with
  | accounts call =>
    cases hrefused : givenUp && origin == .caller <;>
      simp only [answerVia, ownBridge, hrefused] <;> exact ⟨_, rfl⟩
  | enter _ | leave _ | storage _ | decide _ _ | announce _ => exact ⟨r, rfl⟩

theorem register_fulfil (now : Nat) (wishes : List (Bool × Wish)) {s : Realm × Accounts.Store}
    (hs : ∃ r, s.2 = .register r) : ∃ r, (fulfil (ownBridge now) s wishes).2 = .register r := by
  induction wishes generalizing s with
  | nil => exact hs
  | cons wish rest ih => exact ih (register_serveVia now wish.1 wish.2.service hs)

/-- Where the system keeps the accounts itself, a user that is listed can be loaded as it is
listed, whatever has been asked of the services before. -/
theorem users_fulfil (medium : Medium) (now : Nat) (register : Accounts.Register)
    (wishes : List (Bool × Wish)) :
    let s := fulfil (ownBridge now)
      (.start medium.empty (.register register) now, .register register) wishes
    ∀ (givenUp : Bool) (users : List User),
      (serveVia (ownBridge now) givenUp Users.list s).1 = .ok users → ∀ user ∈ users,
      -(Nat.pow 2 63 : Int) ≤ user.account → user.account < Nat.pow 2 63 →
      (serveVia (ownBridge now) false (Users.load user.id)
        (serveVia (ownBridge now) givenUp Users.list s).2).1 = .ok user := by
  intro s givenUp users hlist user hmem
  have hs : s.1.storage.Canonical := canonical_fulfil _ (Backend.canonical_empty medium) wishes
  obtain ⟨r, hr⟩ := register_fulfil now wishes
    (s := (.start medium.empty (.register register) now, .register register)) ⟨register, rfl⟩
  have hquiet : Quiet (ownBridge now) s.2 := by
    rw [hr]
    exact quiet_register now r
  exact Users.load_of_list_quiet hs hquiet hlist hmem

end Realm

end AccessControl
