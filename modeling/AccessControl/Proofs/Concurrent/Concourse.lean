/-
All calls side by side, before gates that are handed on in the order of their lines. Whoever comes
to a gate takes a place in its line and keeps it until it leaves the gate; the first in line has the
gate, or has been handed it. A move lets one program come to its next call, which is answered unless
it has to wait for a gate; callers may give up or vanish at any time.
-/
import AccessControl.Proofs.Service.Atomic
import AccessControl.Service.Authority
import Mathlib.Logic.Function.Basic

namespace AccessControl

/-- What may run beside others. -/
inductive Job
  /-- What is wanted of a service, or follows the deletion of a user. -/
  | wish (wish : Wish)
  /-- Finds out what is known about a user. -/
  | lookUp (start name : String)
  /-- One call to the storage, past the services. -/
  | storage (call : Storage.Call)
  /-- One call to the account store, past the services. -/
  | accounts (call : Accounts.Call)

namespace Job

def Result : Job → Type
  | wish w => w.Result
  | lookUp _ _ => Attributes
  | storage call => call.Reply
  | accounts call => call.Reply

def program : (job : Job) → Program (Answer job.Result)
  | wish w => w.service.run
  | lookUp start name => Authority.userInfo start name
  | storage call => (Service.storage call).run
  | accounts call => (Service.accounts call).run

end Job

/-- The gate that a program has come to. -/
def Program.awaits {α : Type} : Program α → Option Kind
  | ask _ (.enter gate) _ => some gate
  | _ => none

/-- A job with what is left of its program. -/
structure Visit where
  job : Job
  left : Program (Answer job.Result)
  /-- Its caller has given up. -/
  givenUp : Bool

namespace Visit

def ofJob (job : Job) (givenUp : Bool) : Visit := ⟨job, job.program, givenUp⟩

def Done (v : Visit) : Prop := ∃ answer, v.left = .done answer

end Visit

structure Concourse where
  realm : Realm
  /-- Who has come to the gate of each kind and not left it, in the order in which they came. -/
  lines : Kind → List Nat
  visits : Nat → Option Visit

namespace Concourse

inductive Move
  /-- A job begins, maybe under a context that has been given up. -/
  | begin (id : Nat) (job : Job) (givenUp : Bool)
  | giveUp (id : Nat)
  /-- A caller vanishes, and with it its places in lines. -/
  | abandon (id : Nat)
  /-- A program comes to its next call. -/
  | proceed (id : Nat)
  /-- What follows a deletion begins with one of the notices, whichever. -/
  | hear (place id : Nat)
  /-- The account store and the time change from outside. -/
  | outside (accounts : Accounts.Store) (now : Nat)

/-- A realm in which nothing runs. -/
def start (realm : Realm) : Concourse := ⟨realm, fun _ => [], fun _ => none⟩

def setVisit (c : Concourse) (id : Nat) (v : Option Visit) : Concourse :=
  { c with visits := fun j => if j = id then v else c.visits j }

def setLine (c : Concourse) (gate : Kind) (line : List Nat) : Concourse :=
  { c with lines := fun k => if k = gate then line else c.lines k }

/-- Takes the last place in a line, if it has none yet. -/
def stand (id : Nat) (line : List Nat) : List Nat := if id ∈ line then line else line ++ [id]

/-- Takes a place before a gate. A caller that has given up does not. -/
def arrive (c : Concourse) (id : Nat) (refused : Bool) : Call → Concourse
  | .enter gate => if refused then c else c.setLine gate (stand id (c.lines gate))
  | _ => c

/-- Whether a call can be answered now: a gate is entered by the first in its line, and a caller
that has given up does not wait for it. -/
def admits (c : Concourse) (id : Nat) (refused : Bool) : Call → Bool
  | .enter gate => refused || (c.lines gate).head? == some id
  | _ => true

/-- Gives up the place before a gate that is left or has not been entered. -/
def depart (c : Concourse) (id : Nat) : (call : Call) → call.Reply → Concourse
  | .enter gate, .error _ => c.setLine gate ((c.lines gate).erase id)
  | .leave gate, _ => c.setLine gate ((c.lines gate).erase id)
  | _, _ => c

def proceed (c : Concourse) (id : Nat) (v : Visit) : Concourse :=
  match v.left with
  | .done _ => c
  | .ask origin call next =>
    let refused := v.givenUp && origin == .caller
    let c := c.arrive id refused call
    if c.admits id refused call then
      let (reply, realm) := c.realm.answer v.givenUp origin call
      { (c.depart id call reply).setVisit id (some { v with left := next reply }) with realm }
    else c

def step (c : Concourse) : Move → Concourse
  | .begin id job givenUp =>
    match c.visits id with
    | none => c.setVisit id (some (.ofJob job givenUp))
    | some _ => c
  | .giveUp id =>
    match c.visits id with
    | some v => c.setVisit id (some { v with givenUp := true })
    | none => c
  | .abandon id => { c.setVisit id none with lines := fun gate => (c.lines gate).erase id }
  | .proceed id =>
    match c.visits id with
    | some v => c.proceed id v
    | none => c
  | .hear place id =>
    match c.visits id, c.realm.pending[place]? with
    | none, some (_, .reconciler, user) =>
      { c.setVisit id (some (.ofJob (.wish (.errand (.reconcile user))) false)) with
        realm := { c.realm with pending := c.realm.pending.eraseIdx place } }
    | _, _ => c
  | .outside accounts now => { c with realm := { c.realm with accounts, now } }

def run (c : Concourse) (moves : List Move) : Concourse := moves.foldl step c

/-- The next call of a job is answered when the job comes to it now. -/
def Proceeds (c : Concourse) (id : Nat) : Prop :=
  ∃ v origin call next reply, c.visits id = some v ∧ v.left = .ask origin call next ∧
    (c.step (.proceed id)).visits id = some { v with left := next reply }

/-! ## What a move leaves alone -/

variable {c : Concourse} {id other : Nat} {v : Visit} {gate : Kind}

theorem visits_setVisit (c : Concourse) (id : Nat) (o : Option Visit) :
    (c.setVisit id o).visits id = o := if_pos rfl

theorem visits_setVisit_of_ne (o : Option Visit) (h : other ≠ id) :
    (c.setVisit id o).visits other = c.visits other := if_neg h

theorem setVisit_eq_update (c : Concourse) (id : Nat) (o : Option Visit) :
    c.setVisit id o = { c with visits := Function.update c.visits id o } := by
  unfold setVisit
  congr 1
  funext j
  rw [Function.update_apply]

theorem setVisit_self {o : Option Visit} (h : c.visits id = o) : c.setVisit id o = c := by
  rw [setVisit_eq_update, ← h, Function.update_eq_self]

theorem setVisit_setVisit (c : Concourse) (id : Nat) (o o' : Option Visit) :
    (c.setVisit id o).setVisit id o' = c.setVisit id o' := by
  simp only [setVisit_eq_update, Function.update_idem]

theorem setVisit_comm (h : other ≠ id) (c : Concourse) (o o' : Option Visit) :
    (c.setVisit id o).setVisit other o' = (c.setVisit other o').setVisit id o := by
  simp only [setVisit_eq_update, Function.update_comm h.symm]

theorem lines_setLine (c : Concourse) (gate k : Kind) (line : List Nat) :
    (c.setLine gate line).lines k = if k = gate then line else c.lines k := rfl

theorem visits_arrive (c : Concourse) (id : Nat) (refused : Bool) (call : Call) :
    (c.arrive id refused call).visits = c.visits := by
  unfold arrive
  split
  · split <;> rfl
  · rfl

theorem realm_arrive (refused : Bool) (call : Call) :
    (c.arrive id refused call).realm = c.realm := by
  unfold arrive
  split
  · split <;> rfl
  · rfl

theorem run_append (c : Concourse) (first second : List Move) :
    c.run (first ++ second) = (c.run first).run second := List.foldl_append

theorem step_proceed (hv : c.visits id = some v) : c.step (.proceed id) = c.proceed id v := by
  show (match c.visits id with | some v => c.proceed id v | none => c) = _
  rw [hv]

/-- A job whose next call is admitted goes on. -/
theorem proceeds_of_admits {origin : Origin} {call : Call} {next : call.Reply → _}
    (hv : c.visits id = some v) (hleft : v.left = .ask origin call next)
    (hadmits : (c.arrive id (v.givenUp && origin == .caller) call).admits id
      (v.givenUp && origin == .caller) call = true) : c.Proceeds id := by
  refine ⟨v, origin, call, next, (c.realm.answer v.givenUp origin call).1, hv, hleft, ?_⟩
  rw [step_proceed hv]
  unfold proceed
  rw [hleft]
  simp only [hadmits, if_true, realm_arrive]
  exact if_pos rfl

end Concourse

end AccessControl
