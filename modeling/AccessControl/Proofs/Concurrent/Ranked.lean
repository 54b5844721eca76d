/-
Gates are entered in an order: only who holds the gate of groups goes on to another one, and who
holds any other gate goes on to none. Main statement: every job enters gates in this order and ends
outside of all of them (`Job.ranked`).
-/
import AccessControl.Proofs.Concurrent.Concourse

namespace AccessControl

/-- The place of a gate in the order in which gates are entered, the last one first. -/
def Kind.rank : Kind → Nat
  | group => 1
  | user | policy => 0

namespace Program

variable {α β : Type}

/-- Inside of some gates, entered one after the other, the program enters gates of lower rank only
and leaves the last one first; it ends inside of those of `ends`. -/
inductive Ranked (ends : List Kind) : List Kind → Program α → Prop
  | done (value : α) : Ranked ends ends (done value)
  | enter {held : List Kind} {origin : Origin} {gate : Kind}
      {next : (Call.enter gate).Reply → Program α} (hrank : ∀ k ∈ held, gate.rank < k.rank)
      (hinside : Ranked ends (gate :: held) (next (.ok ())))
      (hrefused : ∀ failure, Ranked ends held (next (.error failure))) :
      Ranked ends held (ask origin (.enter gate) next)
  | leave {held : List Kind} {origin : Origin} {gate : Kind}
      {next : (Call.leave gate).Reply → Program α} (hnext : Ranked ends held (next ())) :
      Ranked ends (gate :: held) (ask origin (.leave gate) next)
  | other {held : List Kind} {origin : Origin} {call : Call} {next : call.Reply → Program α}
      (henter : ∀ gate, call ≠ .enter gate) (hleave : ∀ gate, call ≠ .leave gate)
      (hnext : ∀ reply, Ranked ends held (next reply)) : Ranked ends held (ask origin call next)

variable {ends held : List Kind} {origin : Origin} {gate : Kind}

theorem Ranked.of_done {value : α} (h : (Program.done value).Ranked ends held) :
    held = ends := by
  cases h
  rfl

theorem Ranked.of_enter {next : (Call.enter gate).Reply → Program α}
    (h : (ask origin (.enter gate) next).Ranked ends held) :
    (∀ k ∈ held, gate.rank < k.rank) ∧ (next (.ok ())).Ranked ends (gate :: held) ∧
      ∀ failure, (next (.error failure)).Ranked ends held := by
  cases h with
  | enter hrank hinside hrefused => exact ⟨hrank, hinside, hrefused⟩
  | other henter _ _ => exact absurd rfl (henter gate)

theorem Ranked.of_leave {next : (Call.leave gate).Reply → Program α}
    (h : (ask origin (.leave gate) next).Ranked ends held) :
    ∃ rest, held = gate :: rest ∧ (next ()).Ranked ends rest := by
  cases h with
  | leave hnext => exact ⟨_, rfl, hnext⟩
  | other _ hleave _ => exact absurd rfl (hleave gate)

theorem Ranked.of_other {call : Call} {next : call.Reply → Program α}
    (henter : ∀ gate, call ≠ .enter gate) (hleave : ∀ gate, call ≠ .leave gate)
    (h : (ask origin call next).Ranked ends held) (reply : call.Reply) :
    (next reply).Ranked ends held := by
  cases h with
  | enter _ _ _ => exact absurd rfl (henter _)
  | leave _ => exact absurd rfl (hleave _)
  | other _ _ hnext => exact hnext reply

/-- Who has come to a gate holds gates of higher rank only. -/
theorem Ranked.rank_lt {p : Program α} (h : p.Ranked ends held) (hawaits : p.awaits = some gate) :
    ∀ k ∈ held, gate.rank < k.rank := by
  cases p with
  | done value => cases hawaits
  | ask origin call next =>
    cases call with
    | enter k =>
      obtain rfl : k = gate := Option.some.inj hawaits
      exact h.of_enter.1
    | _ => cases hawaits

theorem Ranked.bind {between : List Kind} {p : Program α} {f : α → Program β}
    (hp : p.Ranked between held) (hf : ∀ a, (f a).Ranked ends between) :
    (p >>= f).Ranked ends held := by
  induction hp with
  | done value => exact hf value
  | enter hrank _ _ hinside hrefused => exact .enter hrank hinside hrefused
  | leave _ hnext => exact .leave hnext
  | other henter hleave _ hnext => exact .other henter hleave hnext

theorem Ranked.detached {p : Program α} (hp : p.Ranked ends held) :
    p.detached.Ranked ends held := by
  induction hp with
  | done value => exact .done value
  | enter hrank _ _ hinside hrefused => exact .enter hrank hinside hrefused
  | leave _ hnext => exact .leave hnext
  | other henter hleave _ hnext => exact .other henter hleave hnext

end Program

/-! ## Services -/

namespace Service

variable {α β : Type} {held : List Kind}

/-- The service ends inside of the gates in which it has begun. -/
def Ranked (held : List Kind) (service : Service α) : Prop := service.run.Ranked held held

theorem ranked_pure (a : α) : Ranked held (pure a) := .done _

theorem ranked_throw (failure : Failure) : Ranked held (throw failure : Service α) := .done _

theorem ranked_storage (call : Storage.Call) : Ranked held (storage call) :=
  .other nofun nofun fun _ => .done _

theorem ranked_accounts (call : Accounts.Call) : Ranked held (accounts call) :=
  .other nofun nofun fun _ => .done _

theorem ranked_announce (user : Urn .user) : Ranked held (announce user) :=
  .other nofun nofun fun _ => .done _

theorem Ranked.bind {service : Service α} {next : α → Service β} (h : service.Ranked held)
    (hnext : ∀ a, (next a).Ranked held) : (service >>= next).Ranked held := by
  refine Program.Ranked.bind (f := fun answer => ExceptT.bindCont next answer) h fun answer => ?_
  cases answer with
  | ok a => exact hnext a
  | error failure => exact .done _

theorem ranked_throw_bind (failure : Failure) (next : α → Service β) :
    Ranked held ((throw failure : Service α) >>= next) := .done _

theorem Ranked.ite {c : Prop} [Decidable c] {first second : Service α} (hf : first.Ranked held)
    (hs : second.Ranked held) : Ranked held (if c then first else second) := by
  split
  · exact hf
  · exact hs

theorem Ranked.discard {service : Service α} (h : service.Ranked held) :
    (discard service).Ranked held := Ranked.bind h fun _ => ranked_pure ()

theorem Ranked.attempt {service : Service α} (h : service.Ranked held) :
    service.attempt.Ranked held := Program.Ranked.bind h fun _ => .done _

theorem Ranked.detached {service : Service α} (h : service.Ranked held) :
    service.detached.Ranked held := Program.Ranked.detached h

/-- Inside of gates of higher rank a gate may be entered. -/
theorem Ranked.guarded {gate : Kind} {service : Service α} (h : service.Ranked (gate :: held))
    (hrank : ∀ k ∈ held, gate.rank < k.rank) : (guarded gate service).Ranked held := by
  refine .enter hrank ?_ fun failure => .done _
  exact Program.Ranked.bind (p := service.run)
    (f := fun answer => Program.call .caller (.leave gate) >>= fun _ => pure answer) h
    fun _ => .leave (.done _)

end Service

open Service

variable {held : List Kind}

/-! ## Users -/

namespace Users

/-- The gate of users may be entered. -/
def Open (held : List Kind) : Prop := ∀ k ∈ held, Kind.rank .user < k.rank

theorem ranked_named (user : Urn .user) : (named user).Ranked held :=
  Ranked.ite (ranked_pure ()) (ranked_throw _)

theorem ranked_storeNew (user : User) : (storeNew user).Ranked held := by
  refine Ranked.bind (ranked_storage _).attempt fun answer => ?_
  cases answer with
  | ok _ => exact ranked_throw _
  | error failure => exact Ranked.ite (ranked_storage _) (ranked_throw failure)

theorem ranked_create (h : Open held) (username password : String)
    (attributes : Option Attributes) : (create username password attributes).Ranked held := by
  refine Ranked.guarded (Ranked.bind (ranked_accounts _) fun account => ?_) h
  refine Ranked.bind (ranked_storeNew _).attempt fun answer => ?_
  cases answer with
  | ok _ => exact ranked_pure _
  | error failure =>
    exact Ranked.bind (ranked_accounts _).detached.attempt.discard fun _ => ranked_throw failure

theorem ranked_withLock (user : User) : (withLock user).Ranked held :=
  Ranked.bind (ranked_accounts _) fun _ => ranked_pure _

theorem ranked_withLocks (users : List User) : (withLocks users).Ranked held := by
  induction users with
  | nil => exact ranked_pure _
  | cons user rest ih =>
    exact Ranked.bind (ranked_withLock user) fun _ => Ranked.bind ih fun _ => ranked_pure _

theorem ranked_load (h : Open held) (user : Urn .user) : (load user).Ranked held :=
  Ranked.bind (ranked_named user) fun _ =>
    Ranked.guarded (Ranked.bind (ranked_storage _) ranked_withLock) h

theorem ranked_list (h : Open held) : list.Ranked held :=
  Ranked.guarded (Ranked.bind (ranked_storage _) ranked_withLocks) h

theorem ranked_delete (h : Open held) (user : Urn .user) : (delete user).Ranked held :=
  Ranked.bind (ranked_named user) fun _ => Ranked.guarded
    (Ranked.bind (ranked_storage _) fun _ => Ranked.bind (ranked_accounts _) fun _ =>
      Ranked.bind (ranked_storage _) fun _ => ranked_announce user) h

theorem ranked_setLocked (h : Open held) (user : Urn .user) (locked : Bool) :
    (setLocked user locked).Ranked held :=
  Ranked.bind (ranked_named user) fun _ => Ranked.guarded
    (Ranked.bind (ranked_storage _) fun _ => Ranked.ite (ranked_accounts _) (ranked_accounts _)) h

theorem ranked_modify (h : Open held) (user : Urn .user) (change : User → User) :
    (modify user change).Ranked held :=
  Ranked.bind (ranked_named user) fun _ =>
    Ranked.guarded (Ranked.bind (ranked_storage _) fun _ => ranked_storage _) h

end Users

/-! ## Groups -/

namespace Groups

/-- Inside of the gate of groups the gate of users may be entered. -/
theorem open_inside : Users.Open [.group] := by
  intro k hk
  obtain rfl := List.mem_singleton.1 hk
  exact Nat.zero_lt_one

theorem ranked_guarded {α : Type} {service : Service α} (h : service.Ranked [.group]) :
    (guarded .group service).Ranked [] := h.guarded (List.forall_mem_nil _)

theorem ranked_named {α : Type} (group : Urn .group) {service : Service α}
    (h : service.Ranked [.group]) :
    (do named group; guarded .group service : Service α).Ranked [] :=
  Ranked.bind (Ranked.ite (ranked_throw _) (ranked_pure ())) fun _ => ranked_guarded h

theorem ranked_loaded (group : Urn .group) :
    (discard (storage (.load .group group))).Ranked held := (ranked_storage _).discard

theorem ranked_create (name : String) (comment : Option String) :
    (create name comment).Ranked [] := by
  refine Ranked.ite (ranked_throw_bind _ _) (Ranked.ite (ranked_throw_bind _ _) ?_)
  refine ranked_guarded (Ranked.bind (ranked_storage _).attempt fun answer => ?_)
  cases answer with
  | ok _ => exact ranked_throw _
  | error failure =>
    exact Ranked.ite (Ranked.bind (ranked_storage _) fun _ => ranked_pure _)
      (ranked_throw_bind _ _)

theorem ranked_delete (group : Urn .group) : (delete group).Ranked [] :=
  ranked_named group <| Ranked.bind (ranked_loaded group) fun _ =>
    Ranked.bind (ranked_storage _).discard fun _ => ranked_storage _

/-- The only one that goes on from the gate of groups to another gate. -/
theorem ranked_addMember (group : Urn .group) (user : Urn .user) :
    (addMember group user).Ranked [] :=
  ranked_named group <| Ranked.bind (ranked_loaded group) fun _ =>
    Ranked.bind (Users.ranked_load open_inside user).discard fun _ => ranked_storage _

theorem ranked_afterLoad {α : Type} (group : Urn .group) {service : Service α}
    (h : service.Ranked [.group]) : (do
      named group
      guarded .group do
        discard (storage (.load .group group))
        service : Service α).Ranked [] :=
  ranked_named group (Ranked.bind (ranked_loaded group) fun _ => h)

theorem ranked_leave (user : Urn .user) (groups : List (Urn .group)) :
    (leave user groups).Ranked held := by
  induction groups with
  | nil => exact ranked_pure ()
  | cons group rest ih => exact Ranked.bind (ranked_storage _).attempt.discard fun _ => ih

theorem ranked_reconcile (user : Urn .user) : (reconcile user).Ranked [] :=
  (ranked_guarded (Ranked.bind (ranked_storage (.memberships user)) (ranked_leave user))).detached

end Groups

/-! ## Policies -/

namespace Policies

theorem ranked_guarded {α : Type} {service : Service α} (h : service.Ranked [.policy]) :
    (guarded .policy service).Ranked [] := h.guarded (List.forall_mem_nil _)

theorem ranked_named {α : Type} (id : Urn .policy) {service : Service α}
    (h : service.Ranked [.policy]) :
    (do named id; guarded .policy service : Service α).Ranked [] :=
  Ranked.bind (Ranked.ite (ranked_throw _) (ranked_pure ())) fun _ => ranked_guarded h

theorem ranked_create (name : String) (policy : Policy) : (create name policy).Ranked [] :=
  Ranked.ite (ranked_throw_bind _ _) <| Ranked.ite (ranked_throw_bind _ _) <|
    ranked_guarded (Ranked.bind (ranked_storage _) fun _ => ranked_pure _)

end Policies

/-! ## All jobs -/

theorem Errand.ranked (errand : Errand) : errand.service.Ranked [] := by
  have hopen : Users.Open [] := List.forall_mem_nil _
  cases errand with
  | createUser username password attributes =>
    exact Users.ranked_create hopen username password attributes
  | loadUser user => exact Users.ranked_load hopen user
  | listUsers => exact Users.ranked_list hopen
  | deleteUser user => exact Users.ranked_delete hopen user
  | setLocked user locked => exact Users.ranked_setLocked hopen user locked
  | setAttributes user attributes => exact Users.ranked_modify hopen user _
  | setAttribute user key value => exact Users.ranked_modify hopen user _
  | eraseAttribute user key => exact Users.ranked_modify hopen user _
  | createGroup name comment => exact Groups.ranked_create name comment
  | loadGroup group => exact Groups.ranked_named group (ranked_storage _)
  | listGroups => exact Groups.ranked_guarded (ranked_storage _)
  | deleteGroup group => exact Groups.ranked_delete group
  | setComment group comment =>
    exact Groups.ranked_named group (Ranked.bind (ranked_storage _) fun _ => ranked_storage _)
  | addMember group user => exact Groups.ranked_addMember group user
  | removeMember group user => exact Groups.ranked_afterLoad group (ranked_storage _)
  | members group => exact Groups.ranked_afterLoad group (ranked_storage _)
  | memberships user => exact Groups.ranked_guarded (ranked_storage _)
  | reconcile user => exact Groups.ranked_reconcile user

theorem Wish.ranked (wish : Wish) : wish.service.Ranked [] := by
  cases wish with
  | errand errand => exact errand.ranked
  | createPolicy name policy => exact Policies.ranked_create name policy
  | deletePolicy id => exact Policies.ranked_named id (ranked_storage _)
  | loadPolicy id => exact Policies.ranked_named id (ranked_storage _)
  | updatePolicy id policy => exact Policies.ranked_named id (ranked_storage _)
  | listPolicies => exact Policies.ranked_guarded (ranked_storage _)
  | pagePolicies limit offset =>
    exact Ranked.ite (Policies.ranked_guarded (ranked_storage _)) (ranked_throw _)

/-- Every job begins and ends outside of all gates, and enters them in their order. -/
theorem Job.ranked (job : Job) : job.program.Ranked [] [] := by
  cases job with
  | wish wish => exact wish.ranked
  | lookUp start name =>
    have hload : (Users.load ⟨name⟩).Ranked [] := Users.ranked_load (List.forall_mem_nil _) _
    refine Service.Ranked.bind hload.attempt fun answer => ?_
    cases answer with
    | ok record => exact Ranked.bind (ranked_storage _) fun _ => ranked_pure _
    | error failure => exact Ranked.ite (ranked_pure _) (ranked_throw _)
  | storage call => exact ranked_storage call
  | accounts call => exact ranked_accounts call

end AccessControl
