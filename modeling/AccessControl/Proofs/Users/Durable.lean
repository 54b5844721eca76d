/-
Attributes that are written over a table can be read again if they leave room for the record around
them: a reader follows 127 open containers, of which a user is one and its attributes are another.
Main statements: whatever an account store answers, what has been written stays stored until
something else is, all that is stored can be read, and nothing fails because it cannot
(`Realm.durable_attend`); a value that is accepted alone but leaves no room is accepted as an
attribute, and loses the user (`Realm.setAttribute_lost`).
-/
import AccessControl.Proofs.Users.Written

namespace AccessControl

open Users
open Storage.Table (undecodable)

namespace Realm

variable {σ : Type} {bridge : Accounts.Bridge σ} {s : Realm × σ} {users : Assoc User}
  {user : Urn .user} {record : User}

/-! ## What is stored -/

/-- The storage answers with the record of the user. -/
def Stored (s : Realm × σ) (user : Urn .user) (record : User) : Prop :=
  (s.1.storage.answer (.load .user user)).1 = .ok record

/-- The attributes that are stored of a user. -/
def attributes (s : Realm × σ) (user : Urn .user) : Option Attributes :=
  match (s.1.storage.answer (.load .user user)).1 with
  | .ok record => User.attributes record
  | .error _ => none

theorem stored_iff (hs : Shelved s.1.storage users) :
    Stored s user record ↔ users.get? user.text = some record := by
  unfold Stored
  cases hfound : users.get? user.text with
  | none =>
    rw [hs.load_missing hfound]
    exact ⟨fun h => (by cases h), fun h => (by cases h)⟩
  | some found =>
    rw [hs.load hfound]
    refine ⟨fun h => congrArg some (Except.ok.inj h), fun h => ?_⟩
    exact congrArg Except.ok (Option.some.inj h)

theorem attributes_eq (hs : Shelved s.1.storage users) :
    attributes s user = (users.get? user.text).bind User.attributes := by
  unfold attributes
  cases hfound : users.get? user.text with
  | none =>
    rw [hs.load_missing hfound]
    rfl
  | some found =>
    rw [hs.load hfound]
    rfl

/-- All that is stored can be read: a user is loaded and deleted as far as its account is, its
record is changed in any case, and users are listed unless one of their accounts is not found. -/
structure Readable (bridge : Accounts.Bridge σ) (s : Realm × σ) : Prop where
  loads : ∀ user record, Stored s user record → (serveVia bridge false (load user) s).1 =
    (bridge false (.account record.account) s.2).1.map fun account =>
      { record with locked := some account.locked }
  lists : ∀ shown, (serveVia bridge false list s).1 = .ok shown →
    ∀ user record, Stored s user record → ∃ locked, { record with locked } ∈ shown
  unlisted : ∀ failure, (serveVia bridge false list s).1 = .error failure →
    ∃ id memory, (bridge false (.account id) memory).1 = .error failure
  modifies : ∀ user record, Stored s user record → ∀ change,
    (serveVia bridge false (modify user change) s).1 = .ok ()
  deletes : ∀ user record, Stored s user record → (serveVia bridge false (delete user) s).1 =
    (bridge false (.archive record.account) s.2).1

theorem readable (hs : Shelved s.1.storage users) : Readable bridge s where
  loads user record hstored := by
    have hload : serveVia bridge false (load user) s = serveVia bridge false (withLock record) s :=
      hs.withRecord ((stored_iff hs).1 hstored) withLock
    rw [hload, serveVia_withLock]
  lists shown hshown user record hstored := by
    rw [hs.serveVia_list] at hshown
    have hmem := Assoc.mem_of_get? ((stored_iff hs).1 hstored)
    exact (serveVia_withLocks_ok hshown).1 record (List.mem_map_of_mem hmem)
  unlisted failure hfails := by
    rw [hs.serveVia_list] at hfails
    exact serveVia_withLocks_error hfails
  modifies user record hstored change := by
    rw [modify_eq, hs.withRecord ((stored_iff hs).1 hstored)]
    exact (hs.store_any _).1
  deletes user record hstored := by
    have hfound := (stored_iff hs).1 hstored
    rw [delete_eq, hs.withRecord hfound]
    rcases @Shelved.serveVia_dismiss _ _ _ _ bridge _ hs hfound with
      ⟨failure, memory, hasked, hdismiss⟩ | ⟨t, hasked, hdismiss, -⟩ <;>
    · rw [hdismiss, hasked]
      rfl

/-! ## Runs -/

/-- Answers one request after the other, each for a caller that has given up or not; tells what has
been answered. -/
def attendVia (bridge : Accounts.Bridge σ) (s : Realm × σ) :
    List (Bool × Request) → Transcript × (Realm × σ)
  | [] => ([], s)
  | (givenUp, request) :: rest =>
    let (answer, s) := serveVia bridge givenUp request.service s
    let (answers, s) := attendVia bridge s rest
    (⟨request, answer⟩ :: answers, s)

theorem attendVia_cons (givenUp : Bool) (request : Request) (rest : List (Bool × Request)) :
    attendVia bridge s ((givenUp, request) :: rest) =
      (⟨request, (serveVia bridge givenUp request.service s).1⟩ ::
          (attendVia bridge (serveVia bridge givenUp request.service s).2 rest).1,
        (attendVia bridge (serveVia bridge givenUp request.service s).2 rest).2) := rfl

theorem attendVia_append (before after : List (Bool × Request)) :
    attendVia bridge s (before ++ after) =
      ((attendVia bridge s before).1 ++ (attendVia bridge (attendVia bridge s before).2 after).1,
        (attendVia bridge (attendVia bridge s before).2 after).2) := by
  induction before generalizing s with
  | nil => rfl
  | cons step rest ih =>
    obtain ⟨givenUp, request⟩ := step
    rw [List.cons_append, attendVia_cons, attendVia_cons, ih]
    rfl

/-- Along a run stored users stay readable, and those that are spared stay stored. -/
theorem shelved_attendVia (hs : Shelved s.1.storage users) {steps : List (Bool × Request)}
    (hsteps : ∀ step ∈ steps, step.2.Lasting)
    (hnumbered : (attendVia bridge s steps).1.Numbered) :
    ∃ after, Shelved (attendVia bridge s steps).2.1.storage after ∧
      (∀ user record, (∀ step ∈ steps, step.2.Spares user) →
        users.get? user.text = some record → after.get? user.text = some record) ∧
      ∀ request, ⟨request, .error undecodable⟩ ∈ (attendVia bridge s steps).1 →
        bridge.Says undecodable := by
  -- one request after the other, each over the users that the one before has left
  induction steps generalizing s users with
  | nil => exact ⟨users, hs, fun _ _ _ hfound => hfound, fun _ h => absurd h List.not_mem_nil⟩
  | cons step rest ih =>
    obtain ⟨givenUp, request⟩ := step
    obtain ⟨hfirst, hrest⟩ := List.forall_mem_cons.1 hsteps
    rw [attendVia_cons] at hnumbered ⊢
    obtain ⟨hnumber, hnumbers⟩ := (@numbered_append [_] _).1 hnumbered
    have hfirst : request.Lasting := hfirst
    obtain ⟨answer, t, between, hserve, ht, houtcome⟩ := hs.comes_request hfirst hnumber
    rw [hserve] at hnumbers ⊢
    obtain ⟨after, hafter, hspared, hblamed⟩ := ih ht hrest hnumbers
    refine ⟨after, hafter, fun user record hspares hfound => ?_, fun other hmem => ?_⟩
    · obtain ⟨hspare, hspares⟩ := List.forall_mem_cons.1 hspares
      exact hspared user record hspares (houtcome.spared user record hspare hfound)
    · rcases List.mem_cons.1 hmem with heq | hmem
      · obtain ⟨rfl, hanswer⟩ := Sigma.mk.inj heq
        exact houtcome.blamed (eq_of_heq hanswer).symm
      · exact hblamed other hmem

/-- What is written along a run can be read again. -/
structure Durable (bridge : Accounts.Bridge σ) (s : Realm × σ) (steps : List (Bool × Request)) :
    Prop where
  /-- A user that has been written to is stored with exactly what has been written, as long as
  nothing else is. -/
  writes : ∀ (before between : List (Bool × Request)) (givenUp : Bool) (request : Request)
    (user : Urn .user) (change : Option Attributes → Option Attributes),
    steps = before ++ (givenUp, request) :: between →
    Wrote request (serveVia bridge givenUp request.service (attendVia bridge s before).2).1 user
      change →
    (∀ step ∈ between, step.2.Spares user) →
    ∃ record, Stored (attendVia bridge s steps).2 user record ∧
      record.attributes = change (attributes (attendVia bridge s before).2 user)
  /-- All that is stored in the end can be read. -/
  readable : Readable bridge (attendVia bridge s steps).2
  /-- No request has failed because a record cannot be read. -/
  decodes : ∀ request, ⟨request, .error undecodable⟩ ∈ (attendVia bridge s steps).1 →
    bridge.Says undecodable

/-- Whatever an account store answers, over a table of readable users all that is written can be
read again if it stays readable in a record. -/
theorem durable_attend (bridge : Accounts.Bridge σ) (hs : Shelved s.1.storage users)
    {steps : List (Bool × Request)} (hsteps : ∀ step ∈ steps, step.2.Lasting)
    (hnumbered : (attendVia bridge s steps).1.Numbered) : Durable bridge s steps := by
  obtain ⟨after, hafter, -, hdecodes⟩ := shelved_attendVia hs hsteps hnumbered
  refine ⟨?_, readable hafter, hdecodes⟩
  rintro before between givenUp request user change rfl hwrote hspares
  obtain ⟨hbefore, hlater⟩ := List.forall_mem_append.1 hsteps
  obtain ⟨hrequest, hbetween⟩ := List.forall_mem_cons.1 hlater
  have hrequest : request.Lasting := hrequest
  -- the run up to the request, the request, and the run after it
  rw [attendVia_append, attendVia_cons] at hnumbered ⊢
  obtain ⟨hnumbers, hnumbered⟩ := numbered_append.1 hnumbered
  obtain ⟨hnumber, hnumbered⟩ := (@numbered_append [_] _).1 hnumbered
  obtain ⟨known, hknown, -, -⟩ := shelved_attendVia hs hbefore hnumbers
  obtain ⟨answer, t, written, hserve, ht, houtcome⟩ := hknown.comes_request hrequest hnumber
  rw [hserve] at hwrote hnumbered ⊢
  obtain ⟨record, hrecord, hattributes⟩ := houtcome.written user change hwrote
  obtain ⟨after, hafter, hspared, -⟩ := shelved_attendVia ht hbetween hnumbered
  refine ⟨record, (stored_iff hafter).2 (hspared user record hspares hrecord), ?_⟩
  rw [attributes_eq hknown]
  exact hattributes

/-! ## Attributes that leave no room -/

/-- A record that cannot be read keeps its user from being loaded, changed or deleted, and all users
from being listed. -/
structure Lost (bridge : Accounts.Bridge σ) (s : Realm × σ) (user : Urn .user) : Prop where
  loads : (serveVia bridge false (load user) s).1 = .error undecodable
  lists : (serveVia bridge false list s).1 = .error undecodable
  modifies : ∀ change, (serveVia bridge false (modify user change) s).1 = .error undecodable
  deletes : (serveVia bridge false (delete user) s).1 = .error undecodable

theorem lost_of_answers {id : Int} (haccount : accountOf? user = some id)
    (hload : (s.1.storage.answer (.load .user user)).1 = .error undecodable)
    (hlist : (s.1.storage.answer (.list .user)).1 = .error undecodable) : Lost bridge s user := by
  have hfails {α : Type} (service : User → Service α) :
      (serveVia bridge false (withRecord user service) s).1 = .error undecodable := by
    rw [serveVia_withRecord haccount, hload]
  refine ⟨hfails withLock, ?_, fun change => hfails (rewrite change), hfails (dismiss user)⟩
  unfold list
  rw [serveVia_guarded, if_neg Bool.false_ne_true, serveVia_reads (.list .user) trivial, hlist]

/-- A value that is accepted alone, but leaves no room for a record around it, is accepted as an
attribute and loses the user. -/
theorem setAttribute_lost (bridge : Accounts.Bridge σ) (hs : Shelved s.1.storage users)
    (hstored : Stored s user record) (key : String) {value : Json} {text : String}
    (hparse : Json.parse? text = some value) (hnumbers : Json.Legible value)
    (hdeep : 125 < value.nesting) :
    ∃ t, serveVia bridge false (setAttribute user key value) s = (.ok (), t) ∧
      Lost bridge t user := by
  have hfound := (stored_iff hs).1 hstored
  obtain ⟨rfl, hlasting⟩ := hs.found hfound
  let attributes := Assoc.put key value (record.attributes.getD [])
  let deep : User := { record with attributes := some attributes, locked := none }
  have hattributes : Json.Lasting 128 (.object attributes) :=
    (hlasting.getD.mono (by omega)).put key (Json.lasting_of_parse? hparse hnumbers)
  have hloses : @Storage.Table.Loses .user deep := by
    obtain ⟨hproper, hlegible, -⟩ := @User.proper_of_lasting deep hlasting.lower hlasting.upper 128
      fun a ha => by
        obtain rfl := Option.some.inj ha
        exact hattributes
    refine Storage.Table.loses_of_deep hproper hlegible ?_
    have hmem : (key, value) ∈ attributes :=
      Assoc.mem_of_get? ((Assoc.get?_put _ _ _ _).trans (if_pos rfl))
    have hdepth : value.nesting ≤ Json.nestingFields attributes :=
      Json.nestingFields_le_iff.1 (Nat.le_refl _) (key, value) hmem
    show 127 < deep.toJson.nesting
    rw [User.nesting_toJson]
    show 127 < Json.nestingFields attributes + 1 + 1
    omega
  -- the text is written, and nobody finds out before it is read
  obtain ⟨hanswer, table, m, htable, hwrites, husers⟩ := hs.store_any deep
  have hrecord : (m.records .user).get? record.id.text = some deep := by
    show m.users.get? _ = _
    rw [husers]
    exact (Assoc.get?_put _ _ _ _).trans (if_pos rfl)
  have hstore : serveVia bridge false (setAttribute record.id key value) s =
      (.ok (), ({ s.1 with storage := .table table }, s.2)) := by
    rw [← htable]
    exact (hs.withRecord hfound (rewrite (User.setAttribute key value))).trans
      (Prod.ext hanswer rfl)
  exact ⟨_, hstore, lost_of_answers hlasting.accountOf? (hwrites.load_lost hrecord hloses)
    (hwrites.list_lost (Assoc.mem_of_get? hrecord) hloses)⟩

/-! ## The first user of a realm -/

/-- A realm over an empty table, beside an empty register. -/
def fresh : Realm × Accounts.Store :=
  (start (.table .empty) (.register .empty) 0, .register .empty)

/-- The first account of a register is number 1. -/
theorem create_fresh :
    (serveVia (ownBridge 0) false (create "ada" "pw" none) fresh).1 = .ok (Urn.ofAccount 1) := by
  decide +kernel

theorem numbered_fresh {rest : Transcript} (hrest : Directory.opened rest = []) :
    Transcript.Numbered (⟨.create "ada" "pw" none,
      (serveVia (ownBridge 0) false (create "ada" "pw" none) fresh).1⟩ :: rest) := by
  have hopened : Directory.opened (⟨.create "ada" "pw" none, .ok (Urn.ofAccount 1)⟩ :: rest) =
      [Urn.ofAccount 1] := congrArg (Urn.ofAccount 1 :: ·) hrest
  have hsame := congrArg (fun answer : Answer (Request.create "ada" "pw" none).Reply =>
    Directory.opened (⟨_, answer⟩ :: rest)) create_fresh
  intro user huser
  have huser : user ∈ [Urn.ofAccount 1] := (hsame.trans hopened) ▸ huser
  obtain rfl := List.mem_singleton.1 huser
  rw [accountOf?_ofAccount]
  rfl

/-- The deepest attribute that leaves room for a record can be read again. -/
theorem durable_attend_nested :
    Durable (ownBridge 0) fresh [(false, .create "ada" "pw" none),
      (false, .setAttribute (Urn.ofAccount 1) "deep" (Json.nested 124))] := by
  refine durable_attend (ownBridge 0) shelved_empty (fun step hstep => ?_) (numbered_fresh rfl)
  rcases List.mem_cons.1 hstep with rfl | hstep
  · exact fun a ha => by cases ha
  · obtain rfl := List.mem_singleton.1 hstep
    exact Json.lasting_nested 124

/-- An attribute that is accepted, both alone and by the service, and loses the user. -/
theorem setAttribute_lost_nested :
    let s := (attendVia (ownBridge 0) fresh [(false, .create "ada" "pw" none)]).2
    let deep := Json.nested 125
    Json.parse? deep.render = some deep ∧
      ∃ t, serveVia (ownBridge 0) false (setAttribute (Urn.ofAccount 1) "deep" deep) s =
        (.ok (), t) ∧ Lost (ownBridge 0) t (Urn.ofAccount 1) := by
  intro s deep
  have hlasting := Json.lasting_nested 125
  have hparse : Json.parse? deep.render = some deep :=
    Json.parse?_render (hlasting.mono (by decide))
  refine ⟨hparse, ?_⟩
  have hfresh : Shelved fresh.1.storage [] := shelved_empty
  obtain ⟨answer, t, after, hserve, ht, houtcome⟩ :=
    @Shelved.comes_request _ _ (ownBridge 0) false _ (.create "ada" "pw" none) hfresh
      (fun a ha => by cases ha) (numbered_fresh rfl)
  have hanswer : answer = .ok (Urn.ofAccount 1) :=
    (congrArg Prod.fst hserve).symm.trans create_fresh
  subst hanswer
  obtain ⟨record, hrecord, -⟩ := houtcome.written _ _ (.created "ada" "pw" none _)
  have hs : s = t := congrArg Prod.snd hserve
  rw [hs]
  exact setAttribute_lost (ownBridge 0) ht ((stored_iff ht).2 hrecord) "deep" hparse
    hlasting.numbers (by rw [Json.nesting_nested]; decide)

end Realm

end AccessControl
