/-
Contexts that have been given up. An operation that begins under one ends with a failure as soon as
it goes on, whoever holds its gate, and nobody else notices it. Enforcement under one refuses.
Main statement: such a context has no effect and grants nothing (`Signals.bars`).
-/
import AccessControl.Proofs.Authority
import AccessControl.Proofs.Concurrent.Progress
import AccessControl.Proofs.Service.Declined
import AccessControl.Remote

namespace AccessControl

/-! ## Jobs that take no part -/

namespace Concourse

/-- Whose move it is. -/
def Move.mover : Move → Option Nat
  | begin id _ _ | giveUp id | abandon id | proceed id | hear _ id => some id
  | outside _ _ => none

variable {c : Concourse} {id other : Nat}

theorem realm_setVisit (c : Concourse) (id : Nat) (o : Option Visit) :
    (c.setVisit id o).realm = c.realm := rfl

theorem arrive_setVisit (o : Option Visit) (refused : Bool) (call : Call) :
    (c.setVisit id o).arrive other refused call = (c.arrive other refused call).setVisit id o := by
  cases call with
  | enter gate => cases refused <;> rfl
  | _ => rfl

theorem depart_setVisit (o : Option Visit) (call : Call) (reply : call.Reply) :
    (c.setVisit id o).depart other call reply = (c.depart other call reply).setVisit id o := by
  cases call with
  | enter gate => cases reply <;> rfl
  | _ => rfl

theorem admits_setVisit (o : Option Visit) (refused : Bool) (call : Call) :
    (c.setVisit id o).admits other refused call = c.admits other refused call := by
  cases call <;> rfl

theorem proceed_setVisit (h : other ≠ id) (o : Option Visit) (v : Visit) :
    (c.setVisit id o).proceed other v = (c.proceed other v).setVisit id o := by
  unfold proceed
  split
  · rfl
  · dsimp only
    rw [arrive_setVisit, admits_setVisit]
    split
    · rw [depart_setVisit, setVisit_comm h]
      rfl
    · rfl

/-- Who does not move makes no difference to the others. -/
theorem step_setVisit {move : Move} (h : move.mover ≠ some id) (o : Option Visit) :
    (c.setVisit id o).step move = (c.step move).setVisit id o := by
  have hne {other : Nat} (h : some other ≠ some id) : other ≠ id := fun heq => h (congrArg some heq)
  cases move with
  | begin other job givenUp =>
    unfold step
    dsimp only
    rw [visits_setVisit_of_ne o (hne h)]
    split
    · exact setVisit_comm (hne h) c o _
    · rfl
  | giveUp other =>
    unfold step
    dsimp only
    rw [visits_setVisit_of_ne o (hne h)]
    split
    · exact setVisit_comm (hne h) c o _
    · rfl
  | abandon other =>
    exact congrArg (fun d : Concourse => { d with lines := fun gate => (c.lines gate).erase other })
      (setVisit_comm (hne h) c o none)
  | proceed other =>
    unfold step
    dsimp only
    rw [visits_setVisit_of_ne o (hne h)]
    split
    · exact proceed_setVisit (hne h) o _
    · rfl
  | hear place other =>
    unfold step
    dsimp only
    rw [visits_setVisit_of_ne o (hne h), realm_setVisit]
    split
    · rw [setVisit_comm (hne h)]
      rfl
    · rfl
  | outside accounts now => rfl

theorem run_setVisit {moves : List Move} (h : ∀ move ∈ moves, move.mover ≠ some id)
    (o : Option Visit) : (c.setVisit id o).run moves = (c.run moves).setVisit id o := by
  induction moves generalizing c with
  | nil => rfl
  | cons move moves ih =>
    obtain ⟨hmove, hmoves⟩ := List.forall_mem_cons.1 h
    show ((c.setVisit id o).step move).run moves = ((c.step move).run moves).setVisit id o
    rw [step_setVisit hmove, ih hmoves]

theorem visits_run {moves : List Move} (h : ∀ move ∈ moves, move.mover ≠ some id) :
    (c.run moves).visits id = c.visits id := by
  have hrun := run_setVisit (c := c) h (c.visits id)
  rw [setVisit_self rfl] at hrun
  rw [hrun, visits_setVisit]

/-! ## Jobs that are declined -/

variable {v : Visit}

theorem arrive_refused (c : Concourse) (id : Nat) (call : Call) : c.arrive id true call = c := by
  cases call <;> rfl

theorem admits_refused (c : Concourse) (id : Nat) (call : Call) :
    c.admits id true call = true := by
  cases call <;> rfl

/-- Who has no place before any gate gives none up. -/
theorem depart_refused (hout : ∀ gate, id ∉ c.lines gate) {call : Call} {reply : call.Reply}
    (h : call.refusal = some reply) : c.depart id call reply = c := by
  cases call with
  | enter gate =>
    obtain rfl := Option.some.inj h
    have hlines : (c.setLine gate ((c.lines gate).erase id)).lines = c.lines := by
      funext k
      rw [lines_setLine, List.erase_of_not_mem (hout gate)]
      split
      · rename_i hk
        rw [hk]
      · rfl
    exact congrArg (fun lines => { c with lines }) hlines
  | leave _ => cases h
  | _ => rfl

theorem proceed_refused (hout : ∀ gate, id ∉ c.lines gate) (hgivenUp : v.givenUp = true)
    {call : Call} {next : call.Reply → _} {reply : call.Reply} (h : call.refusal = some reply)
    (hleft : v.left = .ask .caller call next) :
    c.proceed id v = c.setVisit id (some { v with left := next reply }) := by
  have hrefused : (v.givenUp && Origin.caller == .caller) = true := by
    rw [hgivenUp]
    rfl
  unfold proceed
  rw [hleft]
  dsimp only
  rw [hrefused, admits_refused, if_pos rfl, arrive_refused, hgivenUp,
    Realm.answer_refused h c.realm, depart_refused hout h]
  rfl

/-- A job whose caller had given up ends with its first call, and all that changes is that it has
ended. -/
theorem proceed_declined (hout : ∀ gate, id ∉ c.lines gate) {job : Job} {failure : Failure}
    {p : Program (Answer job.Result)} (h : p.Declines failure) :
    (c.setVisit id (some ⟨job, p, true⟩)).step (.proceed id) =
      c.setVisit id (some ⟨job, .done (.error failure), true⟩) := by
  rw [step_proceed (visits_setVisit c id _)]
  cases h with
  | complains _ => rfl
  | refused hrefusal hnext =>
    rw [proceed_refused (c := c.setVisit id _) hout rfl hrefusal rfl, setVisit_setVisit, hnext]

/-- Wherever a job stands that is declined, the others go on as if it had not begun. -/
theorem run_declined (realm : Realm) {moves others : List Move} {id : Nat}
    (hfree : ((start realm).run moves).visits id = none)
    (hothers : ∀ move ∈ others, move.mover ≠ some id) {job : Job} {failure : Failure}
    (h : job.program.Declines failure) :
    (start realm).run (moves ++ .begin id job true :: others ++ [.proceed id]) =
      ((start realm).run (moves ++ others)).setVisit id
        (some ⟨job, .done (.error failure), true⟩) := by
  have hbegin : ((start realm).run moves).step (.begin id job true) =
      ((start realm).run moves).setVisit id (some ⟨job, job.program, true⟩) := by
    unfold step
    dsimp only
    rw [hfree]
    rfl
  have hout : ∀ gate, id ∉ ((start realm).run (moves ++ others)).lines gate := by
    obtain ⟨held, hsound⟩ := (sound_start realm).run (moves ++ others)
    intro gate hgate
    obtain ⟨v, hv, -⟩ := (hsound.stands id).placed gate hgate
    rw [run_append, visits_run hothers, hfree] at hv
    cases hv
  calc (start realm).run (moves ++ .begin id job true :: others ++ [.proceed id])
      = ((((start realm).run moves).step (.begin id job true)).run others).step (.proceed id) := by
        rw [run_append, run_append]
        rfl
    _ = (((start realm).run (moves ++ others)).setVisit id
          (some ⟨job, job.program, true⟩)).step (.proceed id) := by
        rw [hbegin, run_setVisit hothers, run_append]
    _ = _ := proceed_declined hout h

end Concourse

/-! ## Enforcement that is given up -/

namespace Program

variable {α β : Type}

/-- For a caller that has given up the program ends with a value and changes nothing. -/
def Idles (p : Program α) (value : α) : Prop := ∀ s : Realm, s.run true p = (value, s)

theorem idles_pure (value : α) : (pure value : Program α).Idles value := fun _ => rfl

theorem Idles.bind {p : Program α} {f : α → Program β} {a : α} {b : β} (hp : p.Idles a)
    (hf : (f a).Idles b) : (p >>= f).Idles b := fun s => by
  rw [Realm.run_bind, hp s]
  exact hf s

end Program

namespace Enforcement

open Program

variable {decide : AccessRequest → Program (Answer Decision)}
  {subjectInfo resourceInfo : Option (InfoPoint Program)}

theorem idles_informed {point : Option (InfoPoint Program)}
    (h : ∀ p ∈ point, ∀ name, ∃ answer, (p name).Idles answer) (origin name : String)
    (context : Attributes) : ∃ answer, (informed point origin name context).Idles answer := by
  cases point with
  | none => exact ⟨_, idles_pure _⟩
  | some point =>
    obtain ⟨answer, hanswer⟩ := h point rfl name
    exact ⟨_, hanswer.bind (idles_pure _)⟩

theorem idles_gather (hsubject : ∀ p ∈ subjectInfo, ∀ name, ∃ answer, (p name).Idles answer)
    (hresource : ∀ p ∈ resourceInfo, ∀ name, ∃ answer, (p name).Idles answer) (scope : Scope) :
    ∃ answer, (gather subjectInfo resourceInfo scope).Idles answer := by
  unfold gather
  split
  · exact ⟨_, idles_pure _⟩
  · rename_i subject action resource _
    obtain ⟨answer, hanswer⟩ := idles_informed hsubject "subject" subject scope.context
    cases answer with
    | error failure => exact ⟨_, hanswer.bind (idles_pure _)⟩
    | ok context =>
      obtain ⟨answer, hanswer'⟩ := idles_informed hresource "resource" resource context
      cases answer with
      | error failure => exact ⟨_, hanswer.bind (hanswer'.bind (idles_pure _))⟩
      | ok context => exact ⟨_, hanswer.bind (hanswer'.bind (idles_pure _))⟩

/-- Whatever the points tell, a decision that fails is enforced as a refusal. -/
theorem idles_byDecision {failure : Failure}
    (hdecide : ∀ request, (decide request).Idles (.error failure))
    {answer : Answer AccessRequest} {scope : Scope}
    (hgather : (gather subjectInfo resourceInfo scope).Idles answer) :
    ∃ failure, (byDecision decide subjectInfo resourceInfo scope).Idles (.error failure) := by
  cases answer with
  | error failure => exact ⟨_, hgather.bind (idles_pure _)⟩
  | ok request => exact ⟨_, hgather.bind ((hdecide request).bind (idles_pure _))⟩

theorem idles_point {inner : Enforcer Program} {scope : Scope} {failure : Failure}
    (h : (inner scope).Idles (.error failure)) :
    ∃ reason, (point inner scope).Idles (.error (.permissionDenied reason)) := by
  unfold point
  split
  · rename_i hrequired
    obtain ⟨reason, rfl⟩ := required_refuses hrequired
    exact ⟨reason, idles_pure _⟩
  · obtain ⟨reason, hreason⟩ := closed_refuses failure
    refine ⟨reason, h.bind ?_⟩
    rw [← hreason]
    exact idles_pure _

end Enforcement

namespace Authority

open Program

/-- Nothing is known, or the look at the user fails. -/
theorem idles_userInfo (start name : String) : ∃ answer, (userInfo start name).Idles answer := by
  obtain ⟨failure, hload⟩ := Users.declines_load ⟨name⟩
  have hattempt : (Service.attempt (Users.load ⟨name⟩)).run.Idles (.ok (.error failure)) :=
    Idles.bind (p := (Users.load ⟨name⟩).run) hload.run (idles_pure _)
  cases hunknown : isUnknown failure with
  | true =>
    refine ⟨.ok [], hattempt.bind ?_⟩
    simp only [ExceptT.bindCont, hunknown]
    exact idles_pure _
  | false =>
    refine ⟨.error failure, hattempt.bind ?_⟩
    simp only [ExceptT.bindCont, hunknown]
    exact idles_pure _

theorem idles_decide (request : AccessRequest) :
    (decide request).Idles (.error .cancelled) := fun _ => rfl

theorem idles_info (start name : String) : ∃ answer, (info start name).Idles answer := by
  unfold info InfoPoint.route
  split
  · rename_i route hroute
    cases List.mem_singleton.1 (List.mem_of_find?_eq_some hroute)
    exact idles_userInfo start name
  · exact ⟨_, idles_pure _⟩

theorem idles_enforcer (scope : Scope) :
    ∃ reason, (enforcer scope).Idles (.error (.permissionDenied reason)) := by
  have hinfo (start : String) :
      ∀ p ∈ some (info start), ∀ name, ∃ answer, (p name).Idles answer := by
    rintro p hp name
    cases hp
    exact idles_info start name
  obtain ⟨answer, hgather⟩ := Enforcement.idles_gather (hinfo "subject") (hinfo "resource") scope
  obtain ⟨failure, hdecided⟩ := Enforcement.idles_byDecision idles_decide hgather
  exact Enforcement.idles_point hdecided

end Authority

namespace Signals

variable {signals : Signals} {context : Context}

theorem under_of_isCancelled {m : Type → Type} [Monad m] {α : Type}
    (h : signals.isCancelled context = true) (work : m (Answer α)) :
    signals.under context work = pure (.error .cancelled) := if_pos h

/-- An evaluation of policies that cannot be had is enforced as a refusal. -/
theorem refuses_of_isCancelled {σ : Type} (h : signals.isCancelled context = true)
    (source : StateM σ (Answer (List Policy)))
    (evaluate : List Policy → AccessRequest → StateM σ (Answer Decision))
    (subjectInfo resourceInfo : Option (InfoPoint (StateM σ))) (scope : Scope) (world : σ) :
    ∃ reason, ((Enforcement.point (Enforcement.byDecision
      (Enforcement.bySource signals context source evaluate) subjectInfo resourceInfo)
        scope).run world).1 = .error (.permissionDenied reason) := by
  refine (Enforcement.point_closes _ scope world).resolve_left fun hok => ?_
  have hdecide (request : AccessRequest) :
      Enforcement.bySource signals context source evaluate request = pure (.error .cancelled) := by
    unfold Enforcement.bySource
    rw [under_of_isCancelled h]
    rfl
  rw [Enforcement.point_run] at hok
  split at hok
  · cases hok
  · have hinner := mapError_ok_iff.1 hok
    rw [Enforcement.byDecision_run] at hinner
    split at hinner
    · cases hinner
    · rw [hdecide] at hinner
      cases hinner

theorem remote_of_isCancelled (h : signals.isCancelled context = true) (address : String)
    (scope : Scope) : ∃ reason,
      Enforcement.point (Remote.enforcerUnder signals context address) scope =
        .done (.error (.permissionDenied reason)) := by
  unfold Enforcement.point
  split
  · rename_i hrequired
    obtain ⟨reason, rfl⟩ := Enforcement.required_refuses hrequired
    exact ⟨reason, rfl⟩
  · unfold Remote.enforcerUnder
    rw [under_of_isCancelled h]
    exact ⟨_, rfl⟩

end Signals

namespace Concourse

/-- Under the context nothing is done and nothing is granted. -/
structure Bars (signals : Signals) (context : Context) : Prop where
  /-- An operation answers that its caller has given up, or complains as it does before it comes to
  any call. It leaves the realm as it was, and where it runs beside others it ends as soon as it
  goes on, while all else is as if it had not begun. -/
  declines : ∀ job : Job, job.IsOperation → ∃ failure : Failure,
    (failure = .cancelled ∨ failure.IsComplaint ∧ job.program = .done (.error failure)) ∧
    (∀ realm : Realm,
      realm.run (signals.isCancelled context) job.program = (.error failure, realm)) ∧
    ∀ (realm : Realm) (moves others : List Move) (id : Nat),
      ((start realm).run moves).visits id = none →
      (∀ move ∈ others, move.mover ≠ some id) →
      (start realm).run
          (moves ++ .begin id job (signals.isCancelled context) :: others ++ [.proceed id]) =
        ((start realm).run (moves ++ others)).setVisit id
          (some ⟨job, .done (.error failure), true⟩)
  /-- Policies from wherever, whatever the points tell and do. -/
  refuses : ∀ {σ : Type} (source : StateM σ (Answer (List Policy)))
    (evaluate : List Policy → AccessRequest → StateM σ (Answer Decision))
    (subjectInfo resourceInfo : Option (InfoPoint (StateM σ))) (scope : Scope) (world : σ),
    ∃ reason, ((Enforcement.point (Enforcement.byDecision
      (Enforcement.bySource signals context source evaluate) subjectInfo resourceInfo)
        scope).run world).1 = .error (.permissionDenied reason)
  /-- The stored policies, with what is known about users; nothing changes. -/
  stored : ∀ scope : Scope, ∃ reason, ∀ realm : Realm,
    realm.run (signals.isCancelled context) (Authority.enforcer scope) =
      (.error (.permissionDenied reason), realm)
  /-- Another server, which is sent no request. -/
  remote : ∀ (address : String) (scope : Scope), ∃ reason,
    Enforcement.point (Remote.enforcerUnder signals context address) scope =
      .done (.error (.permissionDenied reason))

/-- A context that has been given up has no effect and grants nothing. -/
theorem bars_of_isCancelled {signals : Signals} {context : Context}
    (h : signals.isCancelled context = true) : Bars signals context where
  declines job hjob := by
    obtain ⟨failure, hdeclines⟩ := job.declines hjob
    rw [h]
    exact ⟨failure, hdeclines.cancelled_or_complaint, hdeclines.run,
      fun realm _ _ _ hfree hothers => Concourse.run_declined realm hfree hothers hdeclines⟩
  refuses := Signals.refuses_of_isCancelled h
  stored scope := by
    obtain ⟨reason, henforcer⟩ := Authority.idles_enforcer scope
    rw [h]
    exact ⟨reason, henforcer⟩
  remote := Signals.remote_of_isCancelled h

/-- A context is given up with the one that it descends from. While a deletion has the gate of users
a look at a user begins under it, and ends as soon as it goes on. -/
theorem bars_of_isCancelled_descendant :
    let above := Signals.none.fresh
    let below := above.2.child above.1
    let signals := below.2.cancel above.1
    let job : Job := .wish (.errand (.loadUser ⟨"urn:iam::user/7"⟩))
    signals.isCancelled below.1 = true ∧ Bars signals below.1 ∧
      ((start lonelyGroup).run crossing).visits 4 = none ∧ ∃ failure,
        (start lonelyGroup).run
            (crossing ++ .begin 4 job (signals.isCancelled below.1) :: [] ++ [.proceed 4]) =
          ((start lonelyGroup).run (crossing ++ [])).setVisit 4
            (some ⟨job, .done (.error failure), true⟩) := by
  intro above below signals job
  have hcancelled : signals.isCancelled below.1 = true := by decide
  have hbars := bars_of_isCancelled hcancelled
  have hfree : ((start lonelyGroup).run crossing).visits 4 = none :=
    Option.isNone_iff_eq_none.1 (by decide +kernel)
  obtain ⟨failure, -, -, hbeside⟩ := hbars.declines job trivial
  exact ⟨hcancelled, hbars, hfree, failure,
    hbeside lonelyGroup crossing [] 4 hfree (List.forall_mem_nil _)⟩

end Concourse

end AccessControl
