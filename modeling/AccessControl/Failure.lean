/-
Why an operation fails: the kind of failure decides what a caller can do about it, the text says
what happened.
-/
namespace AccessControl

/-- Failures by kind, with what their text tells. -/
inductive Failure
  /-- An argument is malformed or missing. -/
  | invalidArgument (text : String)
  /-- There is no entity of the named kind. -/
  | notFound (entity : String)
  /-- An entity of the named kind is there already. -/
  | conflict (entity : String)
  /-- Credentials are missing or do not verify. -/
  | unauthenticated (text : String)
  /-- The request is refused. -/
  | permissionDenied (reason : String)
  | notImplemented (text : String)
  /-- The caller gave up before the operation finished. -/
  | cancelled
  /-- A storage, a server or an encoding failed. -/
  | internal (text : String)
deriving DecidableEq, Repr

namespace Failure

/-- The full text of a failure. -/
def message : Failure → String
  | invalidArgument text => s!"invalid argument: {text}"
  | notFound entity => s!"Request {entity} not found"
  | conflict entity => s!"{entity} already exists"
  | unauthenticated text => s!"unauthenticated: {text}"
  | permissionDenied reason => s!"Access denied: {reason}"
  | notImplemented text => s!"not implemented: {text}"
  | cancelled => "operation cancelled"
  | internal text => s!"internal error: {text}"

/-- Says where the failure arose, before its text. A missing or present entity and a cancelled call
say all there is to say and stay. -/
def within (place : String) : Failure → Failure
  | invalidArgument text => invalidArgument s!"{place}: {text}"
  | unauthenticated text => unauthenticated s!"{place}: {text}"
  | permissionDenied reason => permissionDenied s!"{place}: {reason}"
  | notImplemented text => notImplemented s!"{place}: {text}"
  | internal text => internal s!"{place}: {text}"
  | other => other

def isNotFound : Failure → Bool
  | notFound _ => true
  | _ => false

def isDenial : Failure → Bool
  | permissionDenied _ => true
  | _ => false

/-- Stands in a text for the details of a fault that only its reader knows: where a JSON text or an
expression is malformed, or why an exchange with a server broke off. -/
def details : String := "<library>"

end Failure

/-- What an operation answers: a value or a failure. -/
abbrev Answer (α : Type) := Except Failure α

instance {α : Type} [DecidableEq α] : DecidableEq (Answer α)
  | .ok a, .ok b => decidable_of_iff (a = b) ⟨congrArg Except.ok, Except.ok.inj⟩
  | .error f, .error g => decidable_of_iff (f = g) ⟨congrArg Except.error, Except.error.inj⟩
  | .ok _, .error _ => isFalse nofun
  | .error _, .ok _ => isFalse nofun

/-- Steps that may fail give a value if the first one does and so does the next one with it. -/
theorem bind_ok_iff {ε α β : Type} {first : Except ε α} {next : α → Except ε β} {b : β} :
    (first >>= next) = .ok b ↔ ∃ a, first = .ok a ∧ next a = .ok b := by
  cases first with
  | error failure => simp [bind, Except.bind]
  | ok a => simp [bind, Except.bind]

theorem mapError_ok_iff {ε ε' α : Type} {f : ε → ε'} {answer : Except ε α} {a : α} :
    answer.mapError f = .ok a ↔ answer = .ok a := by
  cases answer with
  | error failure => exact ⟨nofun, nofun⟩
  | ok b => exact ⟨fun h => congrArg Except.ok (Except.ok.inj h),
      fun h => congrArg Except.ok (Except.ok.inj h)⟩

end AccessControl
