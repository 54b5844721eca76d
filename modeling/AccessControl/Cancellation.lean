/-
Contexts of calls. A call can be given up through its context; giving up a context gives up all that
descend from it. Main statements: a context is given up at once (`isCancelled_cancel_self`) and for
good (`isCancelled_cancel`), and so is what descends from it (`isCancelled_child`).
-/
import AccessControl.Failure

namespace AccessControl

/-- A context: its own signal and those of the contexts it descends from. -/
structure Context where
  own : Nat
  above : List Nat
deriving DecidableEq, Repr

/-- The signals made so far and those that have been given. -/
structure Signals where
  next : Nat
  given : List Nat
deriving DecidableEq, Repr

namespace Signals

def none : Signals := ⟨0, []⟩

/-- A context that descends from no other. -/
def fresh (s : Signals) : Context × Signals := (⟨s.next, []⟩, { s with next := s.next + 1 })

/-- A context that is given up together with another. -/
def child (s : Signals) (parent : Context) : Context × Signals :=
  (⟨s.next, parent.own :: parent.above⟩, { s with next := s.next + 1 })

def cancel (s : Signals) (context : Context) : Signals := { s with given := context.own :: s.given }

/-- A context is given up when its own signal or that of one above has been given. -/
def isCancelled (s : Signals) (context : Context) : Bool :=
  (context.own :: context.above).any s.given.contains

/-- Goes on only under a context that has not been given up. -/
def ensureActive (s : Signals) (context : Context) : Answer Unit :=
  if s.isCancelled context then .error .cancelled else .ok ()

/-- The answer of something that takes no time, unless the context has been given up. -/
def run {α : Type} (s : Signals) (context : Context) (answer : Answer α) : Answer α :=
  if s.isCancelled context then .error .cancelled else answer

/-- Work under a context; where the context has been given up it is not begun. -/
def under {m : Type → Type} [Monad m] {α : Type} (s : Signals) (context : Context)
    (work : m (Answer α)) : m (Answer α) :=
  if s.isCancelled context then return .error .cancelled else work

/-- What is heard of something that never answers: nothing, until the context is given up. -/
def runPending (s : Signals) (context : Context) : Option Failure :=
  if s.isCancelled context then some .cancelled else Option.none

theorem isCancelled_cancel_self (s : Signals) (context : Context) :
    (s.cancel context).isCancelled context = true := by
  simp [cancel, isCancelled]

/-- A context stays given up. -/
theorem isCancelled_cancel (s : Signals) (a b : Context) (h : s.isCancelled a = true) :
    (s.cancel b).isCancelled a = true := by
  unfold isCancelled cancel at *
  rw [List.any_eq_true] at *
  obtain ⟨x, hx, hg⟩ := h
  exact ⟨x, hx, by simp at hg ⊢; exact .inr hg⟩

/-- What descends from a context that is given up is given up. -/
theorem isCancelled_child (s : Signals) (parent : Context) (h : s.isCancelled parent = true) :
    (s.child parent).2.isCancelled (s.child parent).1 = true := by
  unfold isCancelled child at *
  rw [List.any_eq_true] at *
  obtain ⟨x, hx, hg⟩ := h
  exact ⟨x, by simp at hx ⊢; exact .inr hx, hg⟩

end Signals

end AccessControl
