/-
Which calls programs make. Main statements: the calls of a sequence are those of its parts
(`Only.bind`, and for services `Service.Only.bind`), and what all allowed calls keep between two
states a run keeps (`Only.run_related`).
-/
import AccessControl.Program

namespace AccessControl

namespace Program

variable {α β : Type} {allowed : Call → Prop}

/-- Whatever it is answered, the program makes allowed calls only. -/
inductive Only (allowed : Call → Prop) : Program α → Prop
  | done (value : α) : Only allowed (done value)
  | ask {origin : Origin} {call : Call} {next : call.Reply → Program α} (h : allowed call)
      (hnext : ∀ reply, (next reply).Only allowed) : Only allowed (ask origin call next)

theorem only_pure (a : α) : (pure a : Program α).Only allowed := .done a

theorem only_call {origin : Origin} {call : Call} (h : allowed call) :
    (Program.call origin call).Only allowed := .ask h fun _ => .done _

theorem Only.bind {p : Program α} {f : α → Program β} (hp : p.Only allowed)
    (hf : ∀ a, (f a).Only allowed) : (p >>= f).Only allowed := by
  induction hp with
  | done value => exact hf value
  | ask h _ ih => exact .ask h ih

theorem Only.mono {wider : Call → Prop} (hwider : ∀ call, allowed call → wider call)
    {p : Program α} (hp : p.Only allowed) : p.Only wider := by
  induction hp with
  | done value => exact .done value
  | ask h _ ih => exact .ask (hwider _ h) ih

theorem Only.detached {p : Program α} (hp : p.Only allowed) : p.detached.Only allowed := by
  induction hp with
  | done value => exact .done value
  | ask h _ ih => exact .ask h ih

theorem only_any (p : Program α) : p.Only fun _ => True := by
  induction p with
  | done value => exact .done value
  | ask origin call next ih => exact .ask trivial ih

variable {σ τ : Type} {answer : Origin → (call : Call) → σ → call.Reply × σ}
  {answer' : Origin → (call : Call) → τ → call.Reply × τ}

/-- What every allowed call keeps a run keeps. -/
theorem Only.run_kept {I : σ → Prop} {p : Program α} (hp : p.Only allowed)
    (hcall : ∀ origin call, allowed call → ∀ s, I s → I (answer origin call s).2) {s : σ}
    (hs : I s) : I (p.run answer s).2 := by
  induction hp generalizing s with
  | done value => exact hs
  | ask h _ ih => exact ih _ (hcall _ _ h s hs)

/-- Where every allowed call is answered alike from related states, which it leaves related, so is
a run. -/
theorem Only.run_related {R : σ → τ → Prop} {p : Program α} (hp : p.Only allowed)
    (hcall : ∀ origin call, allowed call → ∀ s t, R s t →
      (answer origin call s).1 = (answer' origin call t).1 ∧
        R (answer origin call s).2 (answer' origin call t).2)
    {s : σ} {t : τ} (hst : R s t) :
    (p.run answer s).1 = (p.run answer' t).1 ∧ R (p.run answer s).2 (p.run answer' t).2 := by
  induction hp generalizing s t with
  | done value => exact ⟨rfl, hst⟩
  | ask h _ ih =>
    obtain ⟨hreply, hafter⟩ := hcall _ _ h s t hst
    simp only [run]
    rw [← hreply]
    exact ih _ hafter

end Program

/-! ## Services -/

namespace Service

variable {α β : Type} {allowed : Call → Prop}

/-- Whatever it is answered, the service makes allowed calls only. -/
def Only (allowed : Call → Prop) (service : Service α) : Prop := service.run.Only allowed

theorem only_pure (a : α) : Only allowed (pure a) := .done _

theorem only_throw (failure : Failure) : Only allowed (throw failure : Service α) := .done _

theorem only_storage {call : Storage.Call} (h : allowed (.storage call)) :
    Only allowed (storage call) := Program.only_call h

theorem only_accounts {call : Accounts.Call} (h : allowed (.accounts call)) :
    Only allowed (accounts call) := Program.only_call h

theorem only_announce {user : Urn .user} (h : allowed (.announce user)) :
    Only allowed (announce user) := Program.Only.bind (Program.only_call h) fun _ => .done _

theorem Only.bind {service : Service α} {next : α → Service β} (h : service.Only allowed)
    (hnext : ∀ a, (next a).Only allowed) : Only allowed (service >>= next) := by
  refine Program.Only.bind (f := fun answer => ExceptT.bindCont next answer) h fun answer => ?_
  cases answer with
  | ok a => exact hnext a
  | error failure => exact .done _

/-- What would follow a failure is not come to. -/
theorem only_throw_bind (failure : Failure) (next : α → Service β) :
    Only allowed ((throw failure : Service α) >>= next) := .done _

theorem Only.ite {c : Prop} [Decidable c] {first second : Service α} (hf : first.Only allowed)
    (hs : second.Only allowed) : Only allowed (if c then first else second) := by
  split
  · exact hf
  · exact hs

theorem Only.discard {service : Service α} (h : service.Only allowed) :
    (discard service).Only allowed := Only.bind h fun _ => only_pure ()

theorem Only.attempt {service : Service α} (h : service.Only allowed) :
    service.attempt.Only allowed := Program.Only.bind h fun _ => .done _

theorem Only.detached {service : Service α} (h : service.Only allowed) :
    service.detached.Only allowed := Program.Only.detached h

theorem Only.guarded {gate : Kind} {service : Service α} (henter : allowed (.enter gate))
    (hleave : allowed (.leave gate)) (h : service.Only allowed) :
    (guarded gate service).Only allowed := by
  refine .ask henter fun reply => ?_
  cases reply with
  | error failure => exact .done _
  | ok _ =>
    exact Program.Only.bind (p := service.run)
      (f := fun answer => Program.call .caller (.leave gate) >>= fun _ => pure answer) h
      fun _ => .ask hleave fun _ => .done _

end Service

end AccessControl
