/-
What is answered to a caller that had given up before it called. An operation looks at its context
with the first call that it makes, and before that it only complains about its arguments. Main
statement: every operation ends with a failure at its first call or without any (`Job.declines`),
and in either case it leaves a realm as it was (`Program.Declines.run`).
-/
import AccessControl.Proofs.Concurrent.Concourse

namespace AccessControl

/-- What a call answers a caller that has given up, if it minds that. -/
def Call.refusal : (call : Call) → Option call.Reply
  | enter _ => some (.error .cancelled)
  | storage _ => some (.error .cancelled)
  | accounts _ => some (.error .cancelled)
  | leave _ => none
  | decide _ _ => none
  | announce _ => none

/-- Says that a call can never succeed, whatever there is. -/
inductive Failure.IsComplaint : Failure → Prop
  | argument (text : String) : IsComplaint (.invalidArgument text)
  | missing (text : String) : IsComplaint (.notImplemented text)

namespace Realm

variable {call : Call} {reply : call.Reply}

theorem answer_refused (h : call.refusal = some reply) (s : Realm) :
    s.answer true .caller call = (reply, s) := by
  cases call with
  | enter _ | storage _ | accounts _ =>
    obtain rfl := Option.some.inj h
    rfl
  | leave _ | decide _ _ | announce _ => cases h

end Realm

namespace Program

variable {α : Type}

/-- For a caller that has given up the program ends with a failure at its first call, or without
any call with a complaint. -/
inductive Declines : Program (Answer α) → Failure → Prop
  | complains {failure : Failure} (h : failure.IsComplaint) :
      Declines (done (.error failure)) failure
  | refused {call : Call} {reply : call.Reply} {next : call.Reply → Program (Answer α)}
      (h : call.refusal = some reply) (hnext : next reply = done (.error .cancelled)) :
      Declines (ask .caller call next) .cancelled

variable {failure : Failure}

theorem Declines.cancelled_or_complaint {p : Program (Answer α)} (h : p.Declines failure) :
    failure = .cancelled ∨ failure.IsComplaint ∧ p = done (.error failure) := by
  cases h with
  | complains h => exact .inr ⟨h, rfl⟩
  | refused _ _ => exact .inl rfl

theorem Declines.run {p : Program (Answer α)} (h : p.Declines failure) (s : Realm) :
    s.run true p = (.error failure, s) := by
  cases h with
  | complains _ => rfl
  | refused h hnext =>
    unfold Realm.run Program.run
    rw [Realm.answer_refused h]
    dsimp only
    rw [hnext]
    rfl

end Program

/-! ## Services -/

namespace Service

variable {α β : Type} {failure : Failure}

/-- The service ends so for a caller that has given up. -/
def Declines (service : Service α) : Prop := ∃ failure, service.run.Declines failure

/-- A check of arguments: it either complains or does nothing. -/
def Checks (check : Service Unit) : Prop :=
  check = pure () ∨ ∃ failure : Failure, failure.IsComplaint ∧ check = throw failure

theorem declines_throw (h : failure.IsComplaint) : Declines (throw failure : Service α) :=
  ⟨failure, .complains h⟩

theorem declines_throw_bind (h : failure.IsComplaint) (next : α → Service β) :
    Declines ((throw failure : Service α) >>= next) := ⟨failure, .complains h⟩

theorem declines_storage (call : Storage.Call) : Declines (storage call) :=
  ⟨.cancelled, .refused rfl rfl⟩

theorem declines_accounts (call : Accounts.Call) : Declines (accounts call) :=
  ⟨.cancelled, .refused rfl rfl⟩

theorem declines_guarded (gate : Kind) (service : Service α) : Declines (guarded gate service) :=
  ⟨.cancelled, .refused rfl rfl⟩

theorem Declines.ite {c : Prop} [Decidable c] {first second : Service α} (hf : first.Declines)
    (hs : second.Declines) : Declines (if c then first else second) := by
  split
  · exact hf
  · exact hs

theorem Declines.checked {check : Service Unit} (hcheck : check.Checks) {service : Service α}
    (h : service.Declines) : Declines (do check; service) := by
  rcases hcheck with rfl | ⟨failure, hcomplaint, rfl⟩
  · exact h
  · exact declines_throw_bind hcomplaint _

end Service

open Service

theorem Users.checks_named (user : Urn .user) : (named user).Checks := by
  unfold named
  split
  · exact .inl rfl
  · exact .inr ⟨_, .argument _, rfl⟩

theorem Groups.checks_named (group : Urn .group) : (named group).Checks := by
  unfold named
  split
  · exact .inr ⟨_, .argument _, rfl⟩
  · exact .inl rfl

theorem Policies.checks_named (id : Urn .policy) : (named id).Checks := by
  unfold named
  split
  · exact .inr ⟨_, .argument _, rfl⟩
  · exact .inl rfl

/-! ## Operations -/

/-- The job is called under the context of its caller: it is an operation of a service, of a storage
or of an account store. -/
def Job.IsOperation : Job → Prop
  | wish (.errand (.reconcile _)) | lookUp _ _ => False
  | wish _ | storage _ | accounts _ => True

theorem Users.declines_load (user : Urn .user) : (load user).Declines :=
  (declines_guarded _ _).checked (checks_named user)

theorem Errand.declines {errand : Errand} (h : (Job.wish (.errand errand)).IsOperation) :
    errand.service.Declines := by
  cases errand with
  | createUser _ _ _ | listUsers | listGroups | memberships _ => exact declines_guarded _ _
  | loadUser user => exact Users.declines_load user
  | deleteUser user | setLocked user _ | setAttributes user _ | setAttribute user _ _
  | eraseAttribute user _ => exact (declines_guarded _ _).checked (Users.checks_named user)
  | createGroup name comment =>
    exact .ite (declines_throw_bind (.argument _) _) <| .ite (declines_throw_bind (.argument _) _) <|
      declines_guarded _ _
  | loadGroup group | deleteGroup group | setComment group _ | addMember group _
  | removeMember group _ | members group =>
    exact (declines_guarded _ _).checked (Groups.checks_named group)
  | reconcile _ => exact h.elim

theorem Wish.declines {wish : Wish} (h : (Job.wish wish).IsOperation) :
    wish.service.Declines := by
  cases wish with
  | errand errand => exact errand.declines h
  | createPolicy name policy =>
    exact .ite (declines_throw_bind (.argument _) _) <| .ite (declines_throw_bind (.argument _) _) <|
      declines_guarded _ _
  | deletePolicy id | loadPolicy id | updatePolicy id _ =>
    exact (declines_guarded _ _).checked (Policies.checks_named id)
  | listPolicies => exact declines_guarded _ _
  | pagePolicies limit offset =>
    exact .ite (declines_guarded _ _) (declines_throw (.missing _))

/-- No operation gets past its first call for a caller that has given up. -/
theorem Job.declines {job : Job} (h : job.IsOperation) :
    ∃ failure, job.program.Declines failure := by
  cases job with
  | wish wish => exact wish.declines h
  | lookUp _ _ => exact h.elim
  | storage call => exact declines_storage call
  | accounts call => exact declines_accounts call

end AccessControl
