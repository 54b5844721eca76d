/-
Programs: what the services do, as trees of calls to the gates, the storage, the account store and
the subscribers. A program says which calls it makes and what it does with their answers; who
answers is decided elsewhere. Main statements: the laws of sequencing (`bind_done`, `bind_assoc`).
-/
import AccessControl.Accounts
import AccessControl.Decision
import AccessControl.Storage

namespace AccessControl

/-- A step that a program asks for. -/
inductive Call
  /-- Waits for the gate of the service of a kind and takes it. -/
  | enter (gate : Kind)
  | leave (gate : Kind)
  | storage (call : Storage.Call)
  | accounts (call : Accounts.Call)
  /-- Decides a request by a list of policies. -/
  | decide (policies : List Policy) (request : AccessRequest)
  /-- Tells the subscribers that a user has been deleted. -/
  | announce (user : Urn .user)

/-- What a step answers. -/
def Call.Reply : Call → Type
  | enter _ => Answer Unit
  | leave _ => Unit
  | storage call => Answer call.Reply
  | accounts call => Answer call.Reply
  | decide _ _ => Answer Decision
  | announce _ => Unit

/-- Under which context a step is asked for: that of the caller, who may have given up, or one of
the program's own, which nobody gives up. -/
inductive Origin
  | caller
  | own
deriving DecidableEq, Repr

/-- A tree of calls with a value at each end. -/
inductive Program (α : Type)
  | done (value : α)
  | ask (origin : Origin) (call : Call) (next : call.Reply → Program α)

namespace Program

variable {α β γ : Type}

def bind : Program α → (α → Program β) → Program β
  | done value, f => f value
  | ask origin call next, f => ask origin call fun reply => (next reply).bind f

instance : Monad Program where
  pure := done
  bind := bind

/-- The program that makes one call. -/
def call (origin : Origin) (call : Call) : Program call.Reply := ask origin call done

/-- The program with all its calls under a context of its own. -/
def detached : Program α → Program α
  | done value => done value
  | ask _ call next => ask .own call fun reply => (next reply).detached

/-- Runs a program on a state, where `answer` answers each call. -/
def run {σ : Type} (answer : Origin → (call : Call) → σ → call.Reply × σ) :
    Program α → σ → α × σ
  | done value, state => (value, state)
  | ask origin call next, state =>
    let (reply, state) := answer origin call state
    (next reply).run answer state

theorem bind_done (p : Program α) : p.bind done = p := by
  induction p with
  | done value => rfl
  | ask origin call next ih => simp only [bind, ih]

theorem bind_assoc (p : Program α) (f : α → Program β) (g : β → Program γ) :
    (p.bind f).bind g = p.bind fun a => (f a).bind g := by
  induction p with
  | done value => rfl
  | ask origin call next ih => simp only [bind, ih]

/-- A sequence runs its second part on what the first one leaves. -/
theorem run_bind {σ : Type} (answer : Origin → (call : Call) → σ → call.Reply × σ) (p : Program α)
    (f : α → Program β) (state : σ) :
    (p.bind f).run answer state =
      (f (p.run answer state).1).run answer (p.run answer state).2 := by
  induction p generalizing state with
  | done value => rfl
  | ask origin call next ih => exact ih _ _

end Program

/-! ## Programs that may fail -/

/-- A program that ends with a value or a failure. -/
abbrev Service := ExceptT Failure Program

namespace Service

variable {α : Type}

def storage (call : Storage.Call) : Service call.Reply :=
  (Program.call .caller (.storage call) : Program (Answer call.Reply))

def accounts (call : Accounts.Call) : Service call.Reply :=
  (Program.call .caller (.accounts call) : Program (Answer call.Reply))

def announce (user : Urn .user) : Service Unit :=
  ExceptT.lift (Program.call .caller (.announce user))

/-- The answer of a service as a value. -/
def attempt (service : Service α) : Service (Answer α) := ExceptT.lift service.run

/-- The service under a context of its own. -/
def detached (service : Service α) : Service α := Program.detached service.run

/-- Runs a service while it holds a gate, which it leaves however it ends. -/
def guarded (gate : Kind) (service : Service α) : Service α :=
  (do
    match ← Program.call .caller (.enter gate) with
    | .error failure => return .error failure
    | .ok () =>
      let answer ← service.run
      Program.call .caller (.leave gate)
      return answer : Program (Answer α))

end Service

end AccessControl
