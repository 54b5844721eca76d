/-
What the service of users writes to a table beside an account store of any kind. Main statements: a
request that writes only what stays readable leaves every stored user readable, stores what it is
told to if it is accepted, and leaves the users that it does not write to
(`Shelved.comes_request`).
-/
import AccessControl.Proofs.Service.Atomic
import AccessControl.Proofs.Users.Directory
import AccessControl.Proofs.Users.Stored

namespace AccessControl

/-- The account store fails so at some time. -/
def Accounts.Bridge.Says {σ : Type} (bridge : Accounts.Bridge σ) (failure : Failure) : Prop :=
  ∃ givenUp call memory, (bridge givenUp call memory).1 = .error failure

namespace Users

open Storage.Table (undecodable)

variable {users : Assoc User} {user : Urn .user} {record : User}

/-! ## Services -/

open Realm (serveVia serveVia_bind serveVia_bind_ok serveVia_bind_error of_serveVia_bind_ok
  of_serveVia_bind_error serveVia_accounts serveVia_storage serveVia_guarded serveVia_attempt)

variable {σ α β : Type} {bridge : Accounts.Bridge σ} {givenUp : Bool} {s : Realm × σ}

/-- What is done with the record of a user, behind the gate of the service. -/
def withRecord (user : Urn .user) (service : User → Service α) : Service α := do
  named user
  Service.guarded .user do service (← Service.storage (.load .user user))

/-- Stores a record with a change. -/
def rewrite (change : User → User) (record : User) : Service Unit :=
  Service.storage (.store .user ({ change record with locked := none } : User))

/-- Stores a record for an account, which is archived if that fails. -/
def enroll (username : String) (attributes : Option Attributes) (account : Int) :
    Service (Urn .user) := do
  let user := User.ofAccount account username attributes
  match ← Service.attempt (storeNew user) with
  | .ok () => return user.id
  | .error failure =>
    discard (Service.attempt (Service.detached (Service.accounts (.archive account))))
    throw failure

theorem modify_eq (user : Urn .user) (change : User → User) :
    modify user change = withRecord user (rewrite change) := rfl

/-- Archives the account of a record and erases the record. -/
def dismiss (user : Urn .user) (record : User) : Service Unit := do
  Service.accounts (.archive record.account)
  Service.storage (.erase .user user)
  Service.announce user

theorem delete_eq (user : Urn .user) : delete user = withRecord user (dismiss user) := rfl

/-- Locks the account of a record, or unlocks it. -/
def turn (locked : Bool) (record : User) : Service Unit :=
  if locked then Service.accounts (.lock record.account)
  else Service.accounts (.unlock record.account)

theorem serveVia_look {call : Storage.Call} (h : call.Reads) :
    serveVia bridge false (Service.storage call) s = ((s.1.storage.answer call).1, s) := by
  rw [serveVia_storage, s.1.storage.answer_reads h]

theorem serveVia_reads (call : Storage.Call) (h : call.Reads) (next : call.Reply → Service α) :
    serveVia bridge false (Service.storage call >>= next) s =
      match (s.1.storage.answer call).1 with
      | .ok reply => serveVia bridge false (next reply) s
      | .error failure => (.error failure, s) := by
  rw [serveVia_bind, serveVia_look h]
  cases (s.1.storage.answer call).1 <;> rfl

theorem serveVia_named {id : Int} (haccount : accountOf? user = some id) :
    serveVia bridge givenUp (named user) s = (.ok (), s) := by
  unfold named
  rw [haccount]
  rfl

theorem serveVia_withRecord {id : Int} (haccount : accountOf? user = some id)
    (service : User → Service α) :
    serveVia bridge false (withRecord user service) s =
      match (s.1.storage.answer (.load .user user)).1 with
      | .ok record => serveVia bridge false (service record) s
      | .error failure => (.error failure, s) := by
  unfold withRecord
  rw [serveVia_bind, serveVia_named haccount]
  dsimp only
  rw [serveVia_guarded, if_neg Bool.false_ne_true, serveVia_reads (.load .user user) trivial]
  cases (s.1.storage.answer (.load .user user)).1 <;> rfl

theorem Shelved.withRecord (hs : Shelved s.1.storage users)
    (hfound : users.get? user.text = some record) (service : User → Service α) :
    serveVia bridge false (withRecord user service) s =
      serveVia bridge false (service record) s := by
  obtain ⟨rfl, hlasting⟩ := hs.found hfound
  rw [serveVia_withRecord hlasting.accountOf?, hs.load hfound]

/-- A service goes on with a stored record, or fails for another reason than that it cannot be read.
-/
theorem Shelved.withRecord_cases (hs : Shelved s.1.storage users) (user : Urn .user)
    (service : User → Service α) :
    (∃ record, users.get? user.text = some record ∧
      serveVia bridge givenUp (Users.withRecord user service) s =
        serveVia bridge false (service record) s) ∨
    ∃ failure, failure ≠ undecodable ∧
      serveVia bridge givenUp (Users.withRecord user service) s = (.error failure, s) := by
  cases haccount : accountOf? user with
  | none =>
    let failure := Failure.invalidArgument s!"invalid user urn {Text.quoted user.text}"
    have hnamed : serveVia bridge givenUp (named user) s = (.error failure, s) := by
      unfold named
      rw [haccount]
      rfl
    refine .inr ⟨failure, by simp [failure, undecodable], ?_⟩
    unfold Users.withRecord
    rw [serveVia_bind, hnamed]
  | some id =>
    cases givenUp with
    | true =>
      refine .inr ⟨.cancelled, by simp [undecodable], ?_⟩
      unfold Users.withRecord
      rw [serveVia_bind, serveVia_named haccount]
      dsimp only
      rw [serveVia_guarded, if_pos rfl]
    | false =>
      cases hfound : users.get? user.text with
      | some record => exact .inl ⟨record, rfl, hs.withRecord hfound service⟩
      | none =>
        refine .inr ⟨Storage.missing .user, by simp [Storage.missing, undecodable], ?_⟩
        rw [serveVia_withRecord haccount, hs.load_missing hfound]

theorem serveVia_account (id : Int) :
    serveVia bridge givenUp (Service.accounts (.account id)) s =
      ((bridge givenUp (.account id) s.2).1, (s.1, (bridge givenUp (.account id) s.2).2)) := by
  cases givenUp <;> rfl

theorem serveVia_withLock (record : User) :
    (serveVia bridge givenUp (withLock record) s).1 =
      (bridge givenUp (.account record.account) s.2).1.map fun account =>
        { record with locked := some account.locked } := by
  unfold withLock
  rw [serveVia_bind, serveVia_account]
  cases (bridge givenUp (.account record.account) s.2).1 <;> rfl

theorem memory_withLock (record : User) :
    (serveVia bridge givenUp (withLock record) s).2.2 =
      (bridge givenUp (.account record.account) s.2).2 := by
  unfold withLock
  rw [serveVia_bind, serveVia_account]
  cases (bridge givenUp (.account record.account) s.2).1 <;> rfl

theorem map_ok_iff {ε : Type} {answer : Except ε α} {f : α → β} {b : β} :
    answer.map f = .ok b ↔ ∃ a, answer = .ok a ∧ f a = b := by
  cases answer <;> simp [Except.map]

theorem map_error_iff {ε : Type} {answer : Except ε α} {f : α → β} {failure : ε} :
    answer.map f = .error failure ↔ answer = .error failure := by
  cases answer <;> simp [Except.map]

/-- Records that cannot be shown are those of an account that is not found. -/
theorem serveVia_withLocks_error {records : List User} {failure : Failure}
    (hfails : (serveVia bridge false (withLocks records) s).1 = .error failure) :
    ∃ id memory, (bridge false (.account id) memory).1 = .error failure := by
  induction records generalizing s with
  | nil => cases hfails
  | cons record rest ih =>
    unfold withLocks at hfails
    rcases of_serveVia_bind_error hfails with hfirst | ⟨first, t, -, hthen⟩
    · rw [serveVia_withLock, map_error_iff] at hfirst
      exact ⟨record.account, s.2, hfirst⟩
    · rcases of_serveVia_bind_error hthen with hrest | ⟨others, u, -, hpure⟩
      · exact ih hrest
      · cases hpure

/-- Each record is shown with what its account says about locking, and nothing else is. -/
theorem serveVia_withLocks_ok {records shown : List User}
    (hok : (serveVia bridge givenUp (withLocks records) s).1 = .ok shown) :
    (∀ record ∈ records, ∃ locked, { record with locked } ∈ shown) ∧
      ∀ user ∈ shown, ∃ record ∈ records, ∃ locked, user = { record with locked } := by
  induction records generalizing s shown with
  | nil =>
    obtain rfl := Except.ok.inj hok
    exact ⟨nofun, nofun⟩
  | cons record rest ih =>
    unfold withLocks at hok
    obtain ⟨first, t, hfirst, hthen⟩ := of_serveVia_bind_ok hok
    obtain ⟨others, u, hrest, hpure⟩ := of_serveVia_bind_ok hthen
    obtain rfl := Except.ok.inj hpure
    have hlock := (serveVia_withLock record).symm.trans (congrArg Prod.fst hfirst)
    obtain ⟨account, -, rfl⟩ := map_ok_iff.1 hlock
    obtain ⟨hshown, hfrom⟩ := ih (congrArg Prod.fst hrest)
    constructor
    · intro other hother
      rcases List.mem_cons.1 hother with rfl | hother
      · exact ⟨_, List.mem_cons_self⟩
      · obtain ⟨locked, hmem⟩ := hshown other hother
        exact ⟨locked, List.mem_cons_of_mem _ hmem⟩
    · intro user huser
      rcases List.mem_cons.1 huser with rfl | huser
      · exact ⟨record, List.mem_cons_self, _, rfl⟩
      · obtain ⟨other, hother, hsame⟩ := hfrom user huser
        exact ⟨other, List.mem_cons_of_mem _ hother, hsame⟩

/-! ## Requests -/

/-- What the request writes stays readable. -/
def Request.Lasting : Request → Prop
  | create _ _ attributes => ∀ a, attributes = some a → LastingAttributes a
  | setAttributes _ attributes => LastingAttributes attributes
  | setAttribute _ _ value => Json.Lasting 125 value
  | _ => True

/-- An answered request has written to a user: what its attributes have become, told by what they
were. -/
inductive Wrote : (request : Request) → Answer request.Reply → Urn .user →
    (Option Attributes → Option Attributes) → Prop
  | created (username password : String) (attributes : Option Attributes) (user : Urn .user) :
      Wrote (.create username password attributes) (.ok user) user fun _ => attributes
  | replaced (user : Urn .user) (attributes : Attributes) :
      Wrote (.setAttributes user attributes) (.ok ()) user fun _ => some attributes
  | bound (user : Urn .user) (key : String) (value : Json) :
      Wrote (.setAttribute user key value) (.ok ()) user fun before =>
        some (Assoc.put key value (before.getD []))

/-- The request leaves the record of the user as it is. -/
def Request.Spares (user : Urn .user) : Request → Prop
  | delete subject | setAttributes subject _ | setAttribute subject _ _
  | eraseAttribute subject _ => subject ≠ user
  | create _ _ _ | load _ | list | setLocked _ _ => True

/-- The users that have been opened are named by numbers of 64 bits. -/
def Transcript.Numbered (transcript : Transcript) : Prop :=
  ∀ user ∈ Directory.opened transcript, (accountOf? user).isSome = true

theorem numbered_append {before after : Transcript} :
    Transcript.Numbered (before ++ after) ↔
      Transcript.Numbered before ∧ Transcript.Numbered after := by
  unfold Transcript.Numbered Directory.opened
  rw [List.filterMap_append, List.forall_mem_append]

/-- What a request has come to, by what it is answered and by the users that are stored before and
after it. -/
structure Outcome (bridge : Accounts.Bridge σ) (users : Assoc User) (request : Request)
    (answer : Answer request.Reply) (after : Assoc User) : Prop where
  spared : ∀ user record, request.Spares user → users.get? user.text = some record →
    after.get? user.text = some record
  written : ∀ user change, Wrote request answer user change →
    ∃ record, after.get? user.text = some record ∧
      record.attributes = change ((users.get? user.text).bind User.attributes)
  blamed : answer = .error undecodable → bridge.Says undecodable

variable {request : Request} {answer : Answer request.Reply} {after : Assoc User}

/-- A request that writes to nobody may leave all users as they are. -/
theorem Outcome.kept (hreads : ∀ user change, ¬ Wrote request answer user change)
    (hblamed : answer = .error undecodable → bridge.Says undecodable) :
    Outcome bridge users request answer users where
  spared _ _ _ hfound := hfound
  written user change hwrote := absurd hwrote (hreads user change)
  blamed := hblamed

theorem Outcome.failed {failure : Failure}
    (hblamed : failure = undecodable → bridge.Says undecodable) :
    Outcome bridge users request (.error failure) users :=
  .kept (fun _ _ hwrote => by cases hwrote) fun h => hblamed (Except.error.inj h)

/-- A request that puts a record under the name of one user spares the others. -/
theorem Outcome.put {reply : request.Reply} (subject : Urn .user) (record : User)
    (hspares : ∀ user, request.Spares user → ∀ before, users.get? user.text = some before →
      subject ≠ user)
    (hwrote : ∀ user change, Wrote request (.ok reply) user change → user = subject ∧
      record.attributes = change ((users.get? user.text).bind User.attributes)) :
    Outcome bridge users request (.ok reply) (users.put subject.text record) where
  spared user before hspared hfound := by
    have hother : subject.text ≠ user.text := fun htext =>
      hspares user hspared before hfound (congrArg Urn.mk htext)
    rw [Assoc.get?_put, if_neg hother]
    exact hfound
  written user change hwritten := by
    obtain ⟨rfl, hattributes⟩ := hwrote user change hwritten
    exact ⟨record, (Assoc.get?_put _ _ _ _).trans (if_pos rfl), hattributes⟩
  blamed h := by cases h

/-- What a request comes to over stored users, and what is stored of them then. -/
def Comes (bridge : Accounts.Bridge σ) (givenUp : Bool) (s : Realm × σ) (users : Assoc User)
    (request : Request) : Prop :=
  ∃ answer t after, serveVia bridge givenUp request.service s = (answer, t) ∧
    Shelved t.1.storage after ∧ Outcome bridge users request answer after

namespace Shelved

variable (hs : Shelved s.1.storage users)

include hs

/-- What only looks at the storage leaves all users as they are. -/
theorem comes_spectating (hservice : request.service.Only Call.Spectates)
    (hreads : ∀ answer user change, ¬ Wrote request answer user change)
    (hblamed : (serveVia bridge givenUp request.service s).1 = .error undecodable →
      bridge.Says undecodable) :
    Comes bridge givenUp s users request := by
  have hkept := hservice.storage_serveVia bridge givenUp s
  rcases hserve : serveVia bridge givenUp request.service s with ⟨answer, t⟩
  rw [hserve] at hkept hblamed
  exact ⟨answer, t, users, hserve, hkept ▸ hs, .kept (hreads answer) hblamed⟩

theorem comes_load (user : Urn .user) : Comes bridge givenUp s users (.load user) := by
  refine hs.comes_spectating (spectates_load user) (fun _ _ _ h => by cases h) fun hfails => ?_
  rcases @withRecord_cases _ _ _ bridge givenUp _ hs user withLock with
    ⟨record, -, hserve⟩ | ⟨failure, hother, hserve⟩
  · have hlock := (congrArg Prod.fst hserve).symm.trans hfails
    exact ⟨_, _, _, map_error_iff.1 ((serveVia_withLock record).symm.trans hlock)⟩
  · exact absurd (Except.error.inj ((congrArg Prod.fst hserve).symm.trans hfails)) hother

theorem serveVia_list :
    serveVia bridge false Users.list s =
      serveVia bridge false (withLocks (users.map Prod.snd)) s := by
  unfold Users.list
  rw [serveVia_guarded, if_neg Bool.false_ne_true, serveVia_reads (.list .user) trivial, hs.list]
  rfl

theorem comes_list : Comes bridge givenUp s users .list := by
  refine hs.comes_spectating spectates_list (fun _ _ _ h => by cases h) fun hfails => ?_
  cases givenUp with
  | true => cases hfails
  | false =>
    have hlocks := (congrArg Prod.fst hs.serveVia_list).symm.trans hfails
    obtain ⟨id, memory, hasked⟩ := serveVia_withLocks_error hlocks
    exact ⟨_, _, _, hasked⟩

theorem comes_setLocked (user : Urn .user) (locked : Bool) :
    Comes bridge givenUp s users (.setLocked user locked) := by
  refine hs.comes_spectating (spectates_setLocked user locked) (fun _ _ _ h => by cases h)
    fun hfails => ?_
  rcases @withRecord_cases _ _ _ bridge givenUp _ hs user (turn locked) with
    ⟨record, -, hserve⟩ | ⟨failure, hother, hserve⟩
  · have hcall := (congrArg Prod.fst hserve).symm.trans hfails
    cases locked with
    | true => exact ⟨_, _, _, hcall⟩
    | false => exact ⟨_, _, _, hcall⟩
  · exact absurd (Except.error.inj ((congrArg Prod.fst hserve).symm.trans hfails)) hother

/-- A stored user is changed into one that stays readable. -/
theorem serveVia_rewrite {change : User → User}
    (hchange : ({ change record with locked := none } : User).Lasting) :
    ∃ t, serveVia bridge false (rewrite change record) s = (.ok (), t) ∧
      Shelved t.1.storage
        (users.put (change record).id.text { change record with locked := none }) := by
  obtain ⟨hanswer, hafter⟩ := hs.store hchange
  exact ⟨_, Prod.ext hanswer rfl, hafter⟩

/-- A request that changes the attributes of a user. -/
theorem comes_modify (subject : Urn .user) (change : Option Attributes → Option Attributes)
    {reply : request.Reply}
    (hok : ∀ t, serveVia bridge givenUp (Users.modify subject fun record =>
        { record with attributes := change record.attributes }) s = (.ok (), t) →
      serveVia bridge givenUp request.service s = (.ok reply, t))
    (herror : ∀ failure, serveVia bridge givenUp (Users.modify subject fun record =>
        { record with attributes := change record.attributes }) s = (.error failure, s) →
      serveVia bridge givenUp request.service s = (.error failure, s))
    (hchange : ∀ record : User, record.Lasting → ∀ a, change record.attributes = some a →
      LastingAttributes a)
    (hspares : ∀ user, request.Spares user → subject ≠ user)
    (hwrote : ∀ user written, Wrote request (.ok reply) user written →
      user = subject ∧ written = change) :
    Comes bridge givenUp s users request := by
  rcases @withRecord_cases _ _ _ bridge givenUp _ hs subject
      (rewrite fun record => { record with attributes := change record.attributes }) with
    ⟨record, hfound, hserve⟩ | ⟨failure, hother, hserve⟩
  · -- the name under which the record is put is the one under which it has been found
    obtain ⟨rfl, hlasting⟩ := hs.found hfound
    obtain ⟨t, hrewrite, ht⟩ := @serveVia_rewrite _ record _ bridge _ hs
      (fun record => { record with attributes := change record.attributes })
      ⟨hlasting.id, hlasting.lower, hlasting.upper, hchange record hlasting⟩
    refine ⟨_, t, _, hok t (hserve.trans hrewrite), ht,
      .put record.id _ (fun user hspared _ _ => hspares user hspared) ?_⟩
    intro user written hwritten
    obtain ⟨rfl, rfl⟩ := hwrote user written hwritten
    refine ⟨rfl, ?_⟩
    rw [hfound]
    rfl
  · exact ⟨_, s, users, herror failure hserve, hs, .failed fun h => absurd h hother⟩

/-- The record of a stored user is erased if its account can be archived. -/
theorem serveVia_dismiss (hfound : users.get? user.text = some record) :
    (∃ failure memory, bridge false (.archive record.account) s.2 = (.error failure, memory) ∧
      serveVia bridge false (dismiss user record) s = (.error failure, (s.1, memory))) ∨
    ∃ t, (bridge false (.archive record.account) s.2).1 = .ok () ∧
      serveVia bridge false (dismiss user record) s = (.ok (), t) ∧
      Shelved t.1.storage (users.erase user.text) := by
  obtain ⟨herased, hafter⟩ := hs.erase hfound
  rcases hasked : bridge false (.archive record.account) s.2 with ⟨answer, memory⟩
  have harchive := serveVia_accounts hasked
  cases answer with
  | error failure => exact .inl ⟨failure, memory, rfl, serveVia_bind_error harchive⟩
  | ok reply =>
    have herase : serveVia bridge false (Service.storage (.erase .user user)) (s.1, memory) =
        (.ok (), ({ s.1 with storage := (s.1.storage.answer (.erase .user user)).2 }, memory)) :=
      Prod.ext herased rfl
    exact .inr ⟨_, rfl, (serveVia_bind_ok harchive).trans (serveVia_bind_ok herase), hafter⟩

theorem comes_delete (subject : Urn .user) :
    Comes bridge givenUp s users (.delete subject) := by
  rcases @withRecord_cases _ _ _ bridge givenUp _ hs subject (dismiss subject) with
    ⟨record, hfound, hserve⟩ | ⟨failure, hother, hserve⟩
  · rcases @serveVia_dismiss _ _ _ _ bridge _ hs hfound with
      ⟨failure, memory, hasked, hdismiss⟩ | ⟨t, -, hdismiss, ht⟩
    · refine ⟨_, _, users, hserve.trans hdismiss, hs, .failed ?_⟩
      rintro rfl
      exact ⟨_, _, _, congrArg Prod.fst hasked⟩
    · refine ⟨_, t, _, hserve.trans hdismiss, ht, ?_, fun _ _ h => (by cases h),
        fun h => (by cases h)⟩
      intro user before hspared hstored
      have hother : subject.text ≠ user.text := fun htext => hspared (congrArg Urn.mk htext)
      rw [Assoc.get?_erase, if_neg hother]
      exact hstored
  · exact ⟨_, s, users, hserve, hs, .failed fun h => absurd h hother⟩

/-- A new record is stored where there is none of its name. -/
theorem serveVia_storeNew (hnone : users.get? record.id.text = none) :
    serveVia bridge false (storeNew record) s =
      serveVia bridge false (Service.storage (.store .user record)) s := by
  have hlook := @serveVia_look _ bridge s (.load .user record.id) trivial
  rw [hs.load_missing hnone] at hlook
  refine (serveVia_bind_ok (serveVia_attempt _)).trans ?_
  rw [hlook]
  rfl

theorem serveVia_storeNew_taken {other : User}
    (hfound : users.get? record.id.text = some other) :
    serveVia bridge false (storeNew record) s = (.error (.conflict "user"), s) := by
  have hlook := @serveVia_look _ bridge s (.load .user record.id) trivial
  rw [hs.load hfound] at hlook
  refine (serveVia_bind_ok (serveVia_attempt _)).trans ?_
  rw [hlook]
  rfl

theorem serveVia_enroll {username : String} {attributes : Option Attributes} {id : Int}
    (hnone : users.get? (Urn.ofAccount id).text = none) :
    ∃ t, serveVia bridge false (enroll username attributes id) s = (.ok (Urn.ofAccount id), t) ∧
      t.1.storage =
        (s.1.storage.answer (.store .user (User.ofAccount id username attributes))).2 := by
  let user := User.ofAccount id username attributes
  have hstore := @serveVia_storeNew _ user _ bridge _ hs hnone
  have hok : serveVia bridge false (Service.storage (.store .user user)) s =
      (.ok (), ({ s.1 with storage := (s.1.storage.answer (.store .user user)).2 }, s.2)) :=
    Prod.ext (hs.store_any user).1 rfl
  have hattempt := @serveVia_attempt _ _ bridge false s (storeNew user)
  rw [hstore, hok] at hattempt
  exact ⟨_, serveVia_bind_ok hattempt, rfl⟩

theorem serveVia_enroll_taken {username : String} {attributes : Option Attributes} {id : Int}
    (hfound : users.get? (Urn.ofAccount id).text = some record) :
    ∃ memory, serveVia bridge false (enroll username attributes id) s =
      (.error (.conflict "user"), (s.1, memory)) := by
  let user := User.ofAccount id username attributes
  have htaken := @serveVia_storeNew_taken _ user _ bridge _ hs _ hfound
  have hattempt := @serveVia_attempt _ _ bridge false s (storeNew user)
  rw [htaken] at hattempt
  exact ⟨_, serveVia_bind_ok hattempt⟩

/-- A new user is stored if its account can be opened and there is no record of its name. -/
theorem comes_create (username password : String) (attributes : Option Attributes)
    (hattributes : ∀ a, attributes = some a → LastingAttributes a)
    (hnumber : ∀ user,
      (serveVia bridge givenUp (create username password attributes) s).1 = .ok user →
        (accountOf? user).isSome = true) :
    Comes bridge givenUp s users (.create username password attributes) := by
  have hguarded : serveVia bridge givenUp (create username password attributes) s = _ :=
    serveVia_guarded .user _
  cases givenUp with
  | true => exact ⟨_, s, users, hguarded, hs, .failed fun h => (by cases h)⟩
  | false =>
    rw [if_neg Bool.false_ne_true] at hguarded
    rcases hasked : bridge false (.create username password false) s.2 with ⟨answer, memory⟩
    have hopen := serveVia_accounts hasked
    have hs : Shelved (s.1, memory).1.storage users := hs
    cases answer with
    | error failure =>
      refine ⟨_, _, users, hguarded.trans (serveVia_bind_error hopen), hs, .failed ?_⟩
      rintro rfl
      exact ⟨_, _, _, congrArg Prod.fst hasked⟩
    | ok id =>
      have hcreate := hguarded.trans (serveVia_bind_ok hopen)
      -- nothing is known of the number, so there may be a user of that name already
      cases hstored : users.get? (Urn.ofAccount id).text with
      | some record =>
        obtain ⟨_, henroll⟩ := hs.serveVia_enroll_taken hstored
        exact ⟨_, _, users, hcreate.trans henroll, hs, .failed fun h => (by cases h)⟩
      | none =>
        obtain ⟨t, henroll, hstorage⟩ := hs.serveVia_enroll hstored
        have haccount := hnumber _ (congrArg Prod.fst (hcreate.trans henroll))
        have hshelved := (hs.store (User.lasting_ofAccount username haccount hattributes)).2
        refine ⟨_, t, _, hcreate.trans henroll, hstorage ▸ hshelved,
          .put (Urn.ofAccount id) _ ?_ ?_⟩
        · rintro user - before hbefore rfl
          rw [hstored] at hbefore
          cases hbefore
        · intro user change hwrote
          cases hwrote
          exact ⟨rfl, rfl⟩

/-- Requests that write what stays readable keep stored users readable. -/
theorem comes_request (hrequest : request.Lasting)
    (hnumbered : Transcript.Numbered
      [⟨request, (serveVia bridge givenUp request.service s).1⟩]) :
    Comes bridge givenUp s users request := by
  cases request with
  | create username password attributes =>
    refine hs.comes_create username password attributes hrequest fun user hok => hnumbered user ?_
    have hok : (serveVia bridge givenUp (Request.create username password attributes).service s).1 =
        .ok user := hok
    rw [hok]
    exact List.mem_singleton_self user
  | load user => exact hs.comes_load user
  | list => exact hs.comes_list
  | delete user => exact hs.comes_delete user
  | setLocked user locked => exact hs.comes_setLocked user locked
  | setAttributes user attributes =>
    refine hs.comes_modify user (fun _ => some attributes) (fun _ h => h) (fun _ h => h)
      (fun _ _ a ha => ?_) (fun _ h => h) fun _ _ hwrote => ?_
    · obtain rfl := Option.some.inj ha
      exact hrequest
    · cases hwrote
      exact ⟨rfl, rfl⟩
  | setAttribute user key value =>
    refine hs.comes_modify user (fun before => some (Assoc.put key value (before.getD [])))
      (fun _ h => h) (fun _ h => h) (fun record hlasting a ha => ?_) (fun _ h => h)
      fun _ _ hwrote => ?_
    · obtain rfl := Option.some.inj ha
      exact hlasting.getD.put key hrequest
    · cases hwrote
      exact ⟨rfl, rfl⟩
  | eraseAttribute user key =>
    refine hs.comes_modify user (Option.map fun attributes => Assoc.erase attributes key)
      (fun _ h => h) (fun _ h => h) (fun record hlasting a ha => ?_) (fun _ h => h)
      fun _ _ hwrote => ?_
    · obtain ⟨before, hbefore, rfl⟩ := Option.map_eq_some_iff.1 ha
      exact (hlasting.attributes before hbefore).erase key
    · cases hwrote

end Shelved

end Users

end AccessControl
