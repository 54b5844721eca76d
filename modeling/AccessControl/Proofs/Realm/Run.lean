/-
How programs run that run alone and whose caller has not given up: gates are free then, so that a
guarded service does what it does without its gate (`serve_guarded`), and a context of its own makes
no difference (`run_detached`).
-/
import AccessControl.Realm

namespace AccessControl.Realm

variable {α β : Type} {s t : Realm}

/-- A call to the storage is answered, or given up. -/
theorem answer_storage (givenUp : Bool) (origin : Origin) (call : Storage.Call) (s : Realm) :
    s.answer givenUp origin (.storage call) = (.error .cancelled, s) ∨
      s.answer givenUp origin (.storage call) = s.askStorage call := by
  cases h : givenUp && origin == .caller with
  | true => exact .inl (by simp only [answer, h]; rfl)
  | false => exact .inr (by simp only [answer, h]; rfl)

theorem answer_accounts (givenUp : Bool) (origin : Origin) (call : Accounts.Call) (s : Realm) :
    s.answer givenUp origin (.accounts call) = (.error .cancelled, s) ∨
      s.answer givenUp origin (.accounts call) = s.askAccounts call := by
  cases h : givenUp && origin == .caller with
  | true => exact .inl (by simp only [answer, h]; rfl)
  | false => exact .inr (by simp only [answer, h]; rfl)

@[simp] theorem run_pure (givenUp : Bool) (value : α) (s : Realm) :
    s.run givenUp (pure value : Program α) = (value, s) := rfl

@[simp] theorem run_bind (givenUp : Bool) (p : Program α) (f : α → Program β) (s : Realm) :
    s.run givenUp (p >>= f) = (s.run givenUp p).2.run givenUp (f (s.run givenUp p).1) :=
  Program.run_bind (answer givenUp) p f s

/-! ## Services -/

/-- Runs a service for a caller that has not given up. -/
def serve (s : Realm) (service : Service α) : Answer α × Realm := s.run false service.run

@[simp] theorem serve_pure (a : α) (s : Realm) : s.serve (pure a) = (.ok a, s) := rfl

@[simp] theorem serve_throw (failure : Failure) (s : Realm) :
    s.serve (throw failure : Service α) = (.error failure, s) := rfl

theorem serve_bind (service : Service α) (next : α → Service β) (s : Realm) :
    s.serve (service >>= next) =
      match s.serve service with
      | (.ok a, t) => t.serve (next a)
      | (.error failure, t) => (.error failure, t) := by
  have h : s.serve (service >>= next) = s.run false
      (service.run >>= fun answer => ExceptT.bindCont next answer) := rfl
  rw [h, run_bind]
  unfold serve
  rcases s.run false service.run with ⟨answer, t⟩
  cases answer <;> rfl

theorem serve_bind_ok {service : Service α} {next : α → Service β} {a : α}
    (h : s.serve service = (.ok a, t)) : s.serve (service >>= next) = t.serve (next a) := by
  rw [serve_bind, h]

theorem serve_bind_error {service : Service α} {next : α → Service β} {failure : Failure}
    (h : s.serve service = (.error failure, t)) :
    s.serve (service >>= next) = (.error failure, t) := by
  rw [serve_bind, h]

@[simp] theorem serve_storage (call : Storage.Call) (s : Realm) :
    s.serve (Service.storage call) = s.askStorage call := rfl

@[simp] theorem serve_accounts (call : Accounts.Call) (s : Realm) :
    s.serve (Service.accounts call) = s.askAccounts call := rfl

@[simp] theorem serve_announce (user : Urn .user) (s : Realm) :
    s.serve (Service.announce user) = (.ok (), s.announce user) := rfl

@[simp] theorem serve_attempt (service : Service α) (s : Realm) :
    s.serve service.attempt = (.ok (s.serve service).1, (s.serve service).2) :=
  run_bind false service.run (fun answer => pure (Except.ok answer : Answer (Answer α))) s

@[simp] theorem serve_guarded (gate : Kind) (service : Service α) (s : Realm) :
    s.serve (Service.guarded gate service) = s.serve service :=
  run_bind false service.run
    (fun answer => Program.call .caller (.leave gate) >>= fun _ => pure answer) s

theorem run_detached (p : Program α) (s : Realm) : s.run false p.detached = s.run false p := by
  induction p generalizing s with
  | done value => rfl
  | ask origin call next ih =>
    show ((s.answer false .own call).2.run false (next (s.answer false .own call).1).detached) =
      (s.answer false origin call).2.run false (next (s.answer false origin call).1)
    have horigin : s.answer false .own call = s.answer false origin call := rfl
    rw [ih, horigin]

@[simp] theorem serve_detached (service : Service α) (s : Realm) :
    s.serve service.detached = s.serve service := run_detached service.run s

end AccessControl.Realm
