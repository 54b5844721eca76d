/-
A realm in which programs run side by side. A move lets one program make one call, which the realm
answers as it answers a program that runs alone; only gates make a program wait for others. Between
calls callers may give up or vanish, and deletions that have been announced start programs of their
own.
-/
import AccessControl.Proofs.Storage.Names

namespace AccessControl

/-! ## Errands -/

/-- What is wanted of the services of users and groups. -/
inductive Errand
  | createUser (username password : String) (attributes : Option Attributes)
  | loadUser (user : Urn .user)
  | listUsers
  | deleteUser (user : Urn .user)
  | setLocked (user : Urn .user) (locked : Bool)
  | setAttributes (user : Urn .user) (attributes : Attributes)
  | setAttribute (user : Urn .user) (key : String) (value : Json)
  | eraseAttribute (user : Urn .user) (key : String)
  | createGroup (name : String) (comment : Option String)
  | loadGroup (group : Urn .group)
  | listGroups
  | deleteGroup (group : Urn .group)
  | setComment (group : Urn .group) (comment : Option String)
  | addMember (group : Urn .group) (user : Urn .user)
  | removeMember (group : Urn .group) (user : Urn .user)
  | members (group : Urn .group)
  | memberships (user : Urn .user)
  /-- What follows the deletion of a user; no caller asks for it. -/
  | reconcile (user : Urn .user)

namespace Errand

/-- What an errand answers when it does not fail. -/
def Result : Errand → Type
  | createUser .. => Urn .user
  | loadUser _ => User
  | listUsers => List User
  | createGroup .. => Urn .group
  | loadGroup _ => Group
  | listGroups => List Group
  | members _ => List (Urn .user)
  | memberships _ => List (Urn .group)
  | _ => Unit

def service : (errand : Errand) → Service errand.Result
  | createUser username password attributes => Users.create username password attributes
  | loadUser user => Users.load user
  | listUsers => Users.list
  | deleteUser user => Users.delete user
  | setLocked user locked => Users.setLocked user locked
  | setAttributes user attributes => Users.setAttributes user attributes
  | setAttribute user key value => Users.setAttribute user key value
  | eraseAttribute user key => Users.eraseAttribute user key
  | createGroup name comment => Groups.create name comment
  | loadGroup group => Groups.load group
  | listGroups => Groups.list
  | deleteGroup group => Groups.delete group
  | setComment group comment => Groups.setComment group comment
  | addMember group user => Groups.addMember group user
  | removeMember group user => Groups.removeMember group user
  | members group => Groups.members group
  | memberships user => Groups.memberships user
  | reconcile user => Groups.reconcile user

/-- The errand is a caller's. -/
def isCall : Errand → Bool
  | reconcile _ => false
  | _ => true

/-- The user whose end the errand sees to. -/
def subject : Errand → Option String
  | deleteUser user => some user.text
  | reconcile user => some user.text
  | _ => none

theorem eq_of_subject {errand : Errand} {user : Urn .user} (h : errand.subject = some user.text) :
    errand = .deleteUser user ∨ errand = .reconcile user := by
  have hid : ∀ u : Urn .user, some u.text = some user.text → u = user := fun u hu =>
    congrArg Urn.mk (Option.some.inj hu)
  cases errand with
  | deleteUser u => exact .inl (congrArg _ (hid u h))
  | reconcile u => exact .inr (congrArg _ (hid u h))
  | _ => cases h

end Errand

/-- An errand with what is left of its program. -/
structure Task where
  errand : Errand
  left : Program (Answer errand.Result)
  /-- Its caller has given up; calls under the caller's context are refused from then on. -/
  givenUp : Bool

namespace Task

def ofErrand (errand : Errand) : Task := ⟨errand, errand.service.run, false⟩

def Done (t : Task) : Prop := ∃ answer, t.left = .done answer

/-- The task waits for the answer of a call, so its caller can leave it there. Announcing a deletion
and leaving a gate do not wait: what follows a storage call is not interrupted up to the next. -/
def waits (t : Task) : Bool :=
  match t.left with
  | .done _ => false
  | .ask _ (.announce _) _ => false
  | .ask _ (.leave _) _ => false
  | .ask .. => true

end Task

/-! ## Moves -/

structure World where
  realm : Realm
  /-- Which task holds the gate of each kind. -/
  gates : Kind → Option Nat
  tasks : Nat → Option Task

inductive Move
  /-- A caller starts an errand. -/
  | begin (id : Nat) (errand : Errand)
  /-- A caller gives up its context. -/
  | giveUp (id : Nat)
  /-- A caller vanishes, and with it the task and its hold of gates. -/
  | abandon (id : Nat)
  /-- A task makes its next call, if it does not have to wait for a gate. -/
  | proceed (id : Nat)
  /-- The subscriber to deletions starts on one of the notices, whichever. -/
  | hear (place id : Nat)
  /-- The account store and the time change from outside. -/
  | outside (accounts : Accounts.Store) (now : Nat)

namespace World

/-- A realm in which nothing runs. -/
def start (realm : Realm) : World := ⟨realm, fun _ => none, fun _ => none⟩

def setTask (w : World) (id : Nat) (t : Option Task) : World :=
  { w with tasks := fun j => if j = id then t else w.tasks j }

/-- Whether a call can be answered now: a gate that is held cannot be entered, but a caller that has
given up does not wait for it. -/
def admits (w : World) (givenUp : Bool) (origin : Origin) : Call → Bool
  | .enter gate => (w.gates gate).isNone || (givenUp && origin == .caller)
  | _ => true

/-- Who holds the gates after a task has been answered. -/
def gatesAfter (w : World) (id : Nat) : (call : Call) → call.Reply → Kind → Option Nat
  | .enter gate, .ok () => fun k => if k = gate then some id else w.gates k
  | .leave gate, _ => fun k => if k = gate then none else w.gates k
  | _, _ => w.gates

/-- The world after a task has made its call. -/
def proceed (w : World) (id : Nat) (t : Task) : World :=
  match t.left with
  | .done _ => w
  | .ask origin call next =>
    if w.admits t.givenUp origin call then
      let (reply, realm) := w.realm.answer t.givenUp origin call
      let tasks := (w.setTask id (some { t with left := next reply })).tasks
      { realm, gates := w.gatesAfter id call reply, tasks }
    else w

def step (w : World) : Move → World
  | .begin id errand =>
    match w.tasks id with
    | none => if errand.isCall then w.setTask id (some (.ofErrand errand)) else w
    | some _ => w
  | .giveUp id =>
    match w.tasks id with
    | some t => w.setTask id (some { t with givenUp := true })
    | none => w
  | .abandon id =>
    match w.tasks id with
    | some t =>
      if t.errand.isCall && t.waits then
        { w.setTask id none with gates := fun k => if w.gates k = some id then none else w.gates k }
      else w
    | none => w
  | .proceed id =>
    match w.tasks id with
    | some t => w.proceed id t
    | none => w
  | .hear place id =>
    match w.tasks id, w.realm.pending[place]? with
    | none, some (_, .reconciler, user) =>
      { w.setTask id (some (.ofErrand (.reconcile user))) with
        realm := { w.realm with pending := w.realm.pending.eraseIdx place } }
    | _, _ => w
  | .outside accounts now => { w with realm := { w.realm with accounts, now } }

def run (w : World) (moves : List Move) : World := moves.foldl step w

/-! ## What can be seen of a world -/

/-- The storage tells that the user belongs to the group. -/
def Member (w : World) (user : Urn .user) (group : Urn .group) : Prop :=
  ∃ groups : List (Urn .group),
    (w.realm.storage.answer (.memberships user)).1 = .ok groups ∧ group ∈ groups

/-- There is a record of the user. -/
def HasUser (w : World) (user : Urn .user) : Prop := w.realm.storage.Stored .user user.text

/-- There is a record of the group. -/
def HasGroup (w : World) (group : Urn .group) : Prop := w.realm.storage.Stored .group group.text

/-- A deletion of the user or what follows one has not finished, or not begun yet. -/
def Ending (w : World) (user : Urn .user) : Prop :=
  (∃ n, (n, Listener.reconciler, user) ∈ w.realm.pending) ∨
    ∃ id t, w.tasks id = some t ∧ (t.errand = .deleteUser user ∨ t.errand = .reconcile user) ∧
      ¬ t.Done

/-- All tasks have finished, and none is still to begin. -/
def Settled (w : World) : Prop :=
  (∀ id t, w.tasks id = some t → t.Done) ∧
    ∀ n user, (n, Listener.reconciler, user) ∉ w.realm.pending

end World

end AccessControl
