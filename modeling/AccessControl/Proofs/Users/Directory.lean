/-
A directory of users: what the service of users does, told without a storage and an account store.
A directory knows each user by the number of its account. Main statements: a request leaves every
user as it is that it is not about (`Directory.find_answer`), and accounts are numbered in the order
in which they are opened (`Directory.opened_ascending`).
-/
import AccessControl.Proofs.Urn
import Mathlib.Data.List.AList

namespace AccessControl.Users

/-! ## Requests -/

/-- What is asked of the service of users. -/
inductive Request
  | create (username password : String) (attributes : Option Attributes)
  | load (user : Urn .user)
  | list
  | delete (user : Urn .user)
  | setLocked (user : Urn .user) (locked : Bool)
  | setAttributes (user : Urn .user) (attributes : Attributes)
  | setAttribute (user : Urn .user) (key : String) (value : Json)
  | eraseAttribute (user : Urn .user) (key : String)

namespace Request

/-- What is answered to a request that does not fail. -/
def Reply : Request → Type
  | create _ _ _ => Urn .user
  | load _ => User
  | list => List User
  | delete _ | setLocked _ _ | setAttributes _ _ | setAttribute _ _ _ | eraseAttribute _ _ => Unit

def service : (request : Request) → Service request.Reply
  | create username password attributes => Users.create username password attributes
  | load user => Users.load user
  | list => Users.list
  | delete user => Users.delete user
  | setLocked user locked => Users.setLocked user locked
  | setAttributes user attributes => Users.setAttributes user attributes
  | setAttribute user key value => Users.setAttribute user key value
  | eraseAttribute user key => Users.eraseAttribute user key

/-- The user that a request is about. -/
def subject : Request → Option (Urn .user)
  | create _ _ _ | list => none
  | load user | delete user | setLocked user _ | setAttributes user _ | setAttribute user _ _
  | eraseAttribute user _ => some user

end Request

/-- One thing after the other that is done with a service: it is asked something, or its account
store comes to refuse to archive accounts, or to do so again. -/
inductive Step
  | ask (request : Request)
  | refuseArchive (refuses : Bool)

/-- What is asked and what is answered to it, one after the other. -/
abbrev Transcript := List (Σ request : Request, Answer request.Reply)

/-! ## The directory -/

/-- What is known about a user. -/
structure Profile where
  username : String
  attributes : Option Attributes
  locked : Bool

namespace Profile

/-- The record of the user of an account; it does not say whether the account is locked. -/
def record (id : Int) (profile : Profile) : User :=
  User.ofAccount id profile.username profile.attributes

/-- The user of an account as it is shown. -/
def user (id : Int) (profile : Profile) : User :=
  { profile.record id with locked := some profile.locked }

end Profile

structure Directory where
  /-- The largest number given so far. -/
  last : Int
  /-- The users by the numbers of their accounts. -/
  profiles : AList fun _ : Int => Profile
  /-- Accounts cannot be archived for now. -/
  refusesArchive : Bool

namespace Directory

def empty : Directory := ⟨0, ∅, false⟩

/-- There is a user of that name. -/
def hasUsername (d : Directory) (username : String) : Bool :=
  d.profiles.entries.any fun e => e.2.username == username

/-- The number and the profile of the user that a name stands for. -/
def find (d : Directory) (user : Urn .user) : Answer (Int × Profile) :=
  match accountOf? user with
  | none => .error (.invalidArgument s!"invalid user urn {Text.quoted user.text}")
  | some id =>
    match d.profiles.lookup id with
    | some profile =>
      -- other texts may lead to the same number, but they name nobody
      if user = Urn.ofAccount id then .ok (id, profile) else .error (Storage.missing .user)
    | none => .error (Storage.missing .user)

/-- Does something with the user that a name stands for. -/
def withUser {α : Type} (d : Directory) (user : Urn .user)
    (next : Int → Profile → Answer α × Directory) : Answer α × Directory :=
  match d.find user with
  | .ok (id, profile) => next id profile
  | .error failure => (.error failure, d)

/-- Puts a profile in place of the one of that number. -/
def set (d : Directory) (id : Int) (profile : Profile) : Directory :=
  { d with profiles := d.profiles.insert id profile }

/-- Changes the attributes of a user and nothing else. -/
def modify (d : Directory) (user : Urn .user) (change : Option Attributes → Option Attributes) :
    Answer Unit × Directory :=
  d.withUser user fun id profile =>
    (.ok (), d.set id { profile with attributes := change profile.attributes })

/-- All users, ascending by name. -/
def users (d : Directory) : List User :=
  (d.profiles.entries.map fun e => e.2.user e.1).mergeSort fun a b => a.id.text ≤ b.id.text

/-- Answers a request, and tells what the directory is after it. -/
def answer (d : Directory) : (request : Request) → Answer request.Reply × Directory
  | .create username _ attributes =>
    if username.isEmpty then (.error (.invalidArgument "username is required"), d)
    else if d.hasUsername username then (.error (.conflict "account"), d)
    else
      let id := d.last + 1
      (.ok (Urn.ofAccount id), { d.set id ⟨username, attributes, false⟩ with last := id })
  | .load user => d.withUser user fun id profile => (.ok (profile.user id), d)
  | .list => (.ok d.users, d)
  | .delete user => d.withUser user fun id _ =>
    if d.refusesArchive then (.error (.internal "archive rejected by account store"), d)
    else (.ok (), { d with profiles := d.profiles.erase id })
  | .setLocked user locked => d.withUser user fun id profile =>
    (.ok (), d.set id { profile with locked })
  | .setAttributes user attributes => d.modify user fun _ => some attributes
  | .setAttribute user key value => d.modify user fun attributes =>
    some ((attributes.getD []).put key value)
  -- a user without attributes stays without
  | .eraseAttribute user key => d.modify user fun attributes =>
    attributes.map fun attributes => attributes.erase key

/-- Follows one step after the other; tells what has been answered. -/
def attend (d : Directory) : List Step → Transcript × Directory
  | [] => ([], d)
  | .refuseArchive refuses :: rest => { d with refusesArchive := refuses }.attend rest
  | .ask request :: rest =>
    let (answer, d) := d.answer request
    let (answers, d) := d.attend rest
    (⟨request, answer⟩ :: answers, d)

variable {d : Directory}

/-! ### What is found -/

theorem find_ok_iff {user : Urn .user} {id : Int} {profile : Profile} :
    d.find user = .ok (id, profile) ↔ accountOf? user = some id ∧
      user = Urn.ofAccount id ∧ d.profiles.lookup id = some profile := by
  unfold find
  cases haccount : accountOf? user with
  | none => simp
  | some account =>
    dsimp only
    constructor
    · intro h
      split at h
      · rename_i found hlookup
        by_cases huser : user = Urn.ofAccount account
        · rw [if_pos huser] at h
          obtain ⟨rfl, rfl⟩ := Prod.mk.inj (Except.ok.inj h)
          exact ⟨rfl, huser, hlookup⟩
        · rw [if_neg huser] at h
          cases h
      · cases h
    · rintro ⟨hid, huser, hlookup⟩
      obtain rfl := Option.some.inj hid
      rw [hlookup]
      exact if_pos huser

theorem answer_load (d : Directory) (user : Urn .user) :
    (d.answer (.load user)).1 = (d.find user).map fun found => found.2.user found.1 := by
  show (d.withUser user fun id profile => (Except.ok (profile.user id), d)).1 = _
  unfold withUser
  cases d.find user <;> rfl

/-! ### What a request does -/

/-- What a request may make of a directory. -/
inductive Turns (d : Directory) : Request → Directory → Prop
  | same (request : Request) : Turns d request d
  | opened (username password : String) (attributes : Option Attributes) :
      Turns d (.create username password attributes)
        { d.set (d.last + 1) ⟨username, attributes, false⟩ with last := d.last + 1 }
  | changed {request : Request} {user : Urn .user} {id : Int} {profile : Profile}
      (subject : request.subject = some user) (found : d.find user = .ok (id, profile))
      (next : Profile) : Turns d request (d.set id next)
  | removed {user : Urn .user} {id : Int} {profile : Profile}
      (found : d.find user = .ok (id, profile)) :
      Turns d (.delete user) { d with profiles := d.profiles.erase id }

theorem Turns.withUser {request : Request} {user : Urn .user} {α : Type}
    {next : Int → Profile → Answer α × Directory}
    (h : ∀ id profile, d.find user = .ok (id, profile) → d.Turns request (next id profile).2) :
    d.Turns request (d.withUser user next).2 := by
  unfold Directory.withUser
  split
  · rename_i id profile hfound
    exact h id profile hfound
  · exact .same request

theorem turns_answer (d : Directory) (request : Request) :
    d.Turns request (d.answer request).2 := by
  cases request with
  | create username password attributes =>
    simp only [answer]
    split
    · exact .same _
    · split
      · exact .same _
      · exact .opened username password attributes
  | load user => exact .withUser fun _ _ _ => .same _
  | list => exact .same _
  | delete user =>
    refine .withUser fun id profile hfound => ?_
    split
    · exact .same _
    · exact .removed hfound
  | setLocked user locked => exact .withUser fun _ _ hfound => .changed rfl hfound _
  | setAttributes _ _ | setAttribute _ _ _ | eraseAttribute _ _ =>
    exact .withUser fun _ _ hfound => .changed rfl hfound _

/-- All numbers in use have been given. -/
def Numbered (d : Directory) : Prop :=
  ∀ id profile, d.profiles.lookup id = some profile → id ≤ d.last

theorem numbered_empty : empty.Numbered := by
  intro id profile h
  cases h

theorem Numbered.answer (h : d.Numbered) (request : Request) : (d.answer request).2.Numbered := by
  have hturns := d.turns_answer request
  generalize (d.answer request).2 = after at hturns ⊢
  cases hturns with
  | same _ => exact h
  | opened username _ attributes =>
    intro id profile hlookup
    by_cases hid : id = d.last + 1
    · exact hid.le
    · have hbefore : d.profiles.lookup id = some profile := by
        rwa [← AList.lookup_insert_ne hid]
      have hle := h id profile hbefore
      show id ≤ d.last + 1
      omega
  | @changed _ user id profile _ hfound next =>
    intro other found hlookup
    by_cases hother : other = id
    · rw [hother]
      exact h id profile (find_ok_iff.1 hfound).2.2
    · rw [Directory.set, AList.lookup_insert_ne hother] at hlookup
      exact h other found hlookup
  | @removed user id profile hfound =>
    intro other found hlookup
    by_cases hother : other = id
    · rw [hother, AList.lookup_erase] at hlookup
      cases hlookup
    · rw [AList.lookup_erase_ne hother] at hlookup
      exact h other found hlookup

/-- A request leaves every user as it is that it is not about. -/
theorem find_answer (h : d.Numbered) {request : Request} {user : Urn .user} {id : Int}
    {profile : Profile} (hother : request.subject ≠ some user)
    (hfound : d.find user = .ok (id, profile)) :
    (d.answer request).2.find user = .ok (id, profile) := by
  obtain ⟨haccount, huser, hlookup⟩ := find_ok_iff.1 hfound
  -- two names that stand for one number are the same name
  have hne : ∀ {subject : Urn .user} {number : Int} {found : Profile},
      request.subject = some subject → d.find subject = .ok (number, found) → id ≠ number := by
    rintro subject number found hsubject hfind rfl
    exact hother (hsubject.trans (congrArg some ((find_ok_iff.1 hfind).2.1.trans huser.symm)))
  refine find_ok_iff.2 ⟨haccount, huser, ?_⟩
  have hturns := d.turns_answer request
  generalize (d.answer request).2 = after at hturns ⊢
  cases hturns with
  | same _ => exact hlookup
  | opened username _ attributes =>
    have hle := h id profile hlookup
    have hid : id ≠ d.last + 1 := by omega
    exact (AList.lookup_insert_ne hid).trans hlookup
  | changed hsubject hfind next =>
    exact (AList.lookup_insert_ne (hne hsubject hfind)).trans hlookup
  | removed hfind => exact (AList.lookup_erase_ne (hne rfl hfind)).trans hlookup

/-! ### Numbers of accounts -/

/-- Only opening an account gives a number. -/
theorem last_answer {request : Request} (d : Directory)
    (h : ∀ username password attributes, request ≠ .create username password attributes) :
    (d.answer request).2.last = d.last := by
  have hturns := d.turns_answer request
  generalize (d.answer request).2 = after at hturns ⊢
  cases hturns with
  | same _ => rfl
  | opened username password attributes => exact absurd rfl (h username password attributes)
  | changed _ _ _ => rfl
  | removed _ => rfl

/-- The users whose accounts have been opened, one after the other. -/
def opened (transcript : Transcript) : List (Urn .user) :=
  transcript.filterMap fun
    | ⟨.create _ _ _, .ok user⟩ => some user
    | _ => none

/-- Accounts are numbered in the order in which they are opened. -/
theorem opened_ascending (steps : List Step) (d : Directory) :
    ∃ ids : List Int, opened (d.attend steps).1 = ids.map Urn.ofAccount ∧
      (d.last :: ids).Pairwise (· < ·) := by
  induction steps generalizing d with
  | nil => exact ⟨[], rfl, List.pairwise_singleton _ _⟩
  | cons step rest ih =>
    cases step with
    | refuseArchive refuses => exact ih { d with refusesArchive := refuses }
    | ask request =>
      have hrest := ih (d.answer request).2
      have hlast := @last_answer request d
      cases request with
      | create username password attributes =>
        simp only [attend, answer]
        split
        · exact ih d
        · split
          · exact ih d
          · obtain ⟨ids, hopened, hascending⟩ := ih
              { d.set (d.last + 1) ⟨username, attributes, false⟩ with last := d.last + 1 }
            refine ⟨(d.last + 1) :: ids, congrArg (Urn.ofAccount (d.last + 1) :: ·) hopened, ?_⟩
            obtain ⟨habove, -⟩ := List.pairwise_cons.1 hascending
            refine List.pairwise_cons.2 ⟨fun id hid => ?_, hascending⟩
            rcases List.mem_cons.1 hid with rfl | hid
            · omega
            · have hlt : d.last + 1 < id := habove id hid
              omega
      | _ =>
        rw [hlast (by simp)] at hrest
        exact hrest

end Directory

end AccessControl.Users
