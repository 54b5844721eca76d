/-
How programs run beside an account store of which nothing is known. A bridge answers calls about
accounts as it likes, by what it remembers; all other calls are answered by the realm. Main
statements: a realm runs programs as it does with its own store for a bridge (`run_eq_runVia`), and
what services do in turn, behind a gate and on their own account (`serveVia_bind`,
`serveVia_guarded`, `serveVia_detached`).
-/
import AccessControl.Proofs.Program
import AccessControl.Realm

namespace AccessControl

/-- An account store of any kind: what it answers to a call, and what it remembers after it. It is
told whether the call is made under a context that has been given up. -/
abbrev Accounts.Bridge (σ : Type) :=
  Bool → (call : Accounts.Call) → σ → Answer call.Reply × σ

namespace Realm

variable {σ α β : Type}

/-- Answers a call as the realm does, but a call about accounts as the bridge does. -/
def answerVia (bridge : Accounts.Bridge σ) (givenUp : Bool) (origin : Origin) (call : Call)
    (s : Realm × σ) : call.Reply × (Realm × σ) :=
  match call with
  | .accounts call =>
    let (answer, memory) := bridge (givenUp && origin == .caller) call s.2
    (answer, (s.1, memory))
  | call =>
    let (reply, realm) := s.1.answer givenUp origin call
    (reply, (realm, s.2))

/-- Runs a program and nothing else, beside an account store of any kind. -/
def runVia (bridge : Accounts.Bridge σ) (givenUp : Bool) (program : Program α) (s : Realm × σ) :
    α × (Realm × σ) :=
  program.run (answerVia bridge givenUp) s

/-- The account store of a realm as a bridge: what is given up does not reach it. -/
def ownBridge (now : Nat) : Accounts.Bridge Accounts.Store := fun refused call store =>
  if refused then (.error .cancelled, store) else store.answer now call

/-- The realm together with its store is what a realm and a store beside it are apart. -/
structure Together (now : Nat) (s : Realm) (t : Realm × Accounts.Store) : Prop where
  realm : s = { t.1 with accounts := t.2 }
  now : t.1.now = now

theorem Together.answer {now : Nat} {s : Realm} {t : Realm × Accounts.Store}
    (h : Together now s t) (givenUp : Bool) (origin : Origin) (call : Call) :
    (s.answer givenUp origin call).1 = (answerVia (ownBridge now) givenUp origin call t).1 ∧
      Together now (s.answer givenUp origin call).2
        (answerVia (ownBridge now) givenUp origin call t).2 := by
  obtain ⟨realm, store⟩ := t
  obtain ⟨rfl, rfl⟩ := h
  cases call with
  | enter _ | leave _ | decide _ _ | announce _ => exact ⟨rfl, rfl, rfl⟩
  | storage call =>
    cases hrefused : givenUp && origin == .caller <;>
      simp only [answerVia, Realm.answer, hrefused] <;> exact ⟨rfl, rfl, rfl⟩
  | accounts call =>
    cases hrefused : givenUp && origin == .caller <;>
      simp only [answerVia, Realm.answer, ownBridge, hrefused] <;> exact ⟨rfl, rfl, rfl⟩

/-- With its own store for a bridge a realm runs programs as it does alone. -/
theorem run_eq_runVia (givenUp : Bool) (program : Program α) (s : Realm) :
    (s.run givenUp program).1 = (runVia (ownBridge s.now) givenUp program (s, s.accounts)).1 ∧
      Together s.now (s.run givenUp program).2
        (runVia (ownBridge s.now) givenUp program (s, s.accounts)).2 :=
  program.only_any.run_related (fun origin call _ _ _ h => h.answer givenUp origin call)
    (⟨rfl, rfl⟩ : Together s.now s (s, s.accounts))

/-! ## Services -/

/-- Runs a service beside an account store of any kind. -/
def serveVia (bridge : Accounts.Bridge σ) (givenUp : Bool) (service : Service α)
    (s : Realm × σ) : Answer α × (Realm × σ) := runVia bridge givenUp service.run s

variable {bridge : Accounts.Bridge σ} {givenUp : Bool} {s : Realm × σ}

theorem runVia_bind (p : Program α) (f : α → Program β) :
    runVia bridge givenUp (p >>= f) s =
      runVia bridge givenUp (f (runVia bridge givenUp p s).1) (runVia bridge givenUp p s).2 :=
  Program.run_bind (answerVia bridge givenUp) p f s

theorem serveVia_bind (service : Service α) (next : α → Service β) :
    serveVia bridge givenUp (service >>= next) s =
      match serveVia bridge givenUp service s with
      | (.ok a, t) => serveVia bridge givenUp (next a) t
      | (.error failure, t) => (.error failure, t) := by
  have h : serveVia bridge givenUp (service >>= next) s =
      runVia bridge givenUp (service.run >>= fun answer => ExceptT.bindCont next answer) s := rfl
  rw [h, runVia_bind]
  unfold serveVia
  rcases runVia bridge givenUp service.run s with ⟨answer, t⟩
  cases answer <;> rfl

theorem serveVia_bind_ok {service : Service α} {next : α → Service β} {a : α} {t : Realm × σ}
    (h : serveVia bridge givenUp service s = (.ok a, t)) :
    serveVia bridge givenUp (service >>= next) s = serveVia bridge givenUp (next a) t := by
  rw [serveVia_bind, h]

theorem serveVia_bind_error {service : Service α} {next : α → Service β} {failure : Failure}
    {t : Realm × σ} (h : serveVia bridge givenUp service s = (.error failure, t)) :
    serveVia bridge givenUp (service >>= next) s = (.error failure, t) := by
  rw [serveVia_bind, h]

/-- Where a sequence succeeds both of its parts do. -/
theorem of_serveVia_bind_ok {service : Service α} {next : α → Service β} {b : β}
    (h : (serveVia bridge givenUp (service >>= next) s).1 = .ok b) :
    ∃ a t, serveVia bridge givenUp service s = (.ok a, t) ∧
      (serveVia bridge givenUp (next a) t).1 = .ok b := by
  rw [serveVia_bind] at h
  rcases hserve : serveVia bridge givenUp service s with ⟨answer, t⟩
  rw [hserve] at h
  cases answer with
  | error failure => cases h
  | ok a => exact ⟨a, t, rfl, h⟩

/-- Where a sequence fails one of its parts does. -/
theorem of_serveVia_bind_error {service : Service α} {next : α → Service β} {failure : Failure}
    (h : (serveVia bridge givenUp (service >>= next) s).1 = .error failure) :
    (serveVia bridge givenUp service s).1 = .error failure ∨
      ∃ a t, serveVia bridge givenUp service s = (.ok a, t) ∧
        (serveVia bridge givenUp (next a) t).1 = .error failure := by
  rw [serveVia_bind] at h
  rcases hserve : serveVia bridge givenUp service s with ⟨answer, t⟩
  rw [hserve] at h
  cases answer with
  | error cause =>
    obtain rfl := Except.error.inj h
    exact .inl rfl
  | ok a => exact .inr ⟨a, t, rfl, h⟩

theorem serveVia_accounts {call : Accounts.Call} {asked : Answer call.Reply × σ}
    (h : bridge false call s.2 = asked) :
    serveVia bridge false (Service.accounts call) s = (asked.1, (s.1, asked.2)) := by
  subst h
  rfl

theorem serveVia_storage (call : Storage.Call) :
    serveVia bridge false (Service.storage call) s =
      ((s.1.storage.answer call).1, ({ s.1 with storage := (s.1.storage.answer call).2 }, s.2)) :=
  rfl

theorem serveVia_discard (service : Service α) :
    serveVia bridge givenUp (discard service) s =
      match serveVia bridge givenUp service s with
      | (.ok _, t) => (.ok (), t)
      | (.error failure, t) => (.error failure, t) :=
  serveVia_bind service fun _ => pure ()

theorem serveVia_attempt (service : Service α) :
    serveVia bridge givenUp service.attempt s =
      (.ok (serveVia bridge givenUp service s).1, (serveVia bridge givenUp service s).2) :=
  runVia_bind service.run fun answer => pure (Except.ok answer : Answer (Answer α))

/-- Behind a gate a service does what it does, unless its caller has given up before. -/
theorem serveVia_guarded (gate : Kind) (service : Service α) :
    serveVia bridge givenUp (Service.guarded gate service) s =
      if givenUp then (.error .cancelled, s) else serveVia bridge givenUp service s := by
  cases givenUp with
  | true => rfl
  | false =>
    exact runVia_bind service.run fun answer =>
      Program.call .caller (.leave gate) >>= fun _ => pure answer

/-- On its own account a service does not notice that its caller has given up. -/
theorem serveVia_detached (service : Service α) :
    serveVia bridge givenUp service.detached s = serveVia bridge false service s := by
  show runVia bridge givenUp (Program.detached service.run) s = runVia bridge false service.run s
  generalize service.run = p
  induction p generalizing s with
  | done value => rfl
  | ask origin call next ih =>
    have horigin : answerVia bridge givenUp .own call s = answerVia bridge false origin call s := by
      have hown : (givenUp && Origin.own == Origin.caller) = false := Bool.and_false givenUp
      cases call with
      | enter _ | storage _ | accounts _ =>
        simp only [answerVia, answer, hown, Bool.false_and]
      | leave _ | decide _ _ | announce _ => rfl
    simp only [runVia, Program.detached, Program.run] at ih ⊢
    rw [horigin]
    exact ih _

end Realm

end AccessControl
