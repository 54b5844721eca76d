/-
The programs of the services are safe. Most of them only make calls from which nothing follows for
memberships (`Call.Plain`); those that create and delete groups, add members and end users are gone
through call by call. Main statement: every errand is safe from the stance in which it begins
(`Errand.safe`).
-/
import AccessControl.Proofs.Concurrent.Stance

namespace AccessControl

/-! ## Plain calls -/

/-- A call that may always be made without a duty, and from which no duty and no hold of the gate of
groups follows. -/
def Call.Plain : Call → Bool
  | .enter .group => false
  | .leave .group => false
  | .storage (.join _ _) => false
  | .storage (.erase .user _) => false
  | .storage (.erase .group _) => false
  | .announce _ => false
  | _ => true

theorem Stance.permits_of_mayCall {s : Stance} (hd : s.duty = .none) (origin : Origin)
    {call : Call} (h : s.mayCall call) : s.permits origin call := by
  unfold permits
  rw [hd]
  exact h

theorem Stance.permits_leave {s : Stance} (hd : s.duty = .none) (hi : s.inside = true)
    (origin : Origin) : s.permits origin (.leave .group) := permits_of_mayCall hd origin hi

theorem Stance.permits_plain {s : Stance} (hd : s.duty = .none) (origin : Origin) {call : Call}
    (hc : call.Plain = true) : s.permits origin call := by
  refine permits_of_mayCall hd origin ?_
  unfold mayCall
  split
  · cases hc
  · cases hc
  · cases hc
  · cases hc
  · trivial

theorem Stance.after_plain {s : Stance} (hd : s.duty = .none) {call : Call}
    (hc : call.Plain = true) (reply : call.Reply) :
    (s.after call reply).duty = .none ∧ (s.after call reply).inside = s.inside := by
  cases call with
  | enter gate =>
    cases gate with
    | group => cases hc
    | _ => cases reply <;> exact ⟨hd, rfl⟩
  | leave gate =>
    cases gate with
    | group => cases hc
    | _ => exact ⟨hd, rfl⟩
  | accounts call => exact ⟨hd, rfl⟩
  | decide policies request => exact ⟨hd, rfl⟩
  | announce user => cases hc
  | storage call =>
    cases call with
    | load k urn => cases k <;> cases reply <;> exact ⟨hd, rfl⟩
    | store k record => cases k <;> cases reply <;> exact ⟨hd, rfl⟩
    | erase k urn =>
      cases k with
      | policy => exact ⟨hd, rfl⟩
      | _ => cases hc
    | list k => exact ⟨hd, rfl⟩
    | join user group => cases hc
    | part user group => exact ⟨congrArg (Duty.parted group.text) hd, rfl⟩
    | disband group => cases reply <;> exact ⟨hd, rfl⟩
    | memberships user =>
      cases reply with
      | error failure => exact ⟨hd, rfl⟩
      | ok groups => exact ⟨congrArg (Duty.told (List.map Urn.text groups)) hd, rfl⟩
    | members group => exact ⟨hd, rfl⟩

namespace Program

variable {α β : Type}

/-- The program only makes plain calls. -/
def Plain : Program α → Prop
  | done _ => True
  | ask _ call next => call.Plain = true ∧ ∀ reply, (next reply).Plain

theorem Plain.safe {p : Program α} (h : p.Plain) {s : Stance} (hd : s.duty = .none) :
    p.Safe (fun s' _ => s'.duty = .none ∧ s'.inside = s.inside) s := by
  -- the stance changes with each call, and only how it compares with the first one is kept
  suffices ∀ s', s'.duty = .none → s'.inside = s.inside →
      p.Safe (fun s' _ => s'.duty = .none ∧ s'.inside = s.inside) s' from this s hd rfl
  induction p with
  | done value => exact fun s' hd hi => ⟨hd, hi⟩
  | ask origin call next ih =>
    refine fun s' hd hi => ⟨s'.permits_plain hd origin h.1, fun reply _ => ?_⟩
    obtain ⟨hd', hi'⟩ := Stance.after_plain hd h.1 reply
    exact ih reply (h.2 reply) _ hd' (hi'.trans hi)

theorem Plain.bind {p : Program α} {f : α → Program β} (hp : p.Plain) (hf : ∀ a, (f a).Plain) :
    (p.bind f).Plain := by
  induction p with
  | done value => exact hf value
  | ask origin call next ih => exact ⟨hp.1, fun reply => ih reply (hp.2 reply)⟩

theorem detached_bind (p : Program α) (f : α → Program β) :
    (p.bind f).detached = p.detached.bind fun a => (f a).detached := by
  induction p with
  | done value => rfl
  | ask origin call next ih =>
    show ask .own call _ = ask .own call _
    congr 1
    funext reply
    exact ih reply

theorem Plain.detached {p : Program α} (hp : p.Plain) : p.detached.Plain := by
  induction p with
  | done value => trivial
  | ask origin call next ih => exact ⟨hp.1, fun reply => ih reply (hp.2 reply)⟩

end Program

namespace Service

variable {α β : Type}

def Plain (service : Service α) : Prop := service.run.Plain

theorem plain_pure (a : α) : Plain (pure a) := trivial

theorem plain_throw (failure : Failure) : Plain (throw failure : Service α) := trivial

theorem plain_storage {call : Storage.Call} (hc : (Call.storage call).Plain = true) :
    Plain (storage call) := ⟨hc, fun _ => trivial⟩

theorem plain_accounts (call : Accounts.Call) : Plain (accounts call) := ⟨rfl, fun _ => trivial⟩

theorem Plain.bind {service : Service α} {next : α → Service β} (h : service.Plain)
    (hn : ∀ a, (next a).Plain) : Plain (service >>= next) := by
  refine Program.Plain.bind (f := fun answer => ExceptT.bindCont next answer) h fun answer => ?_
  cases answer with
  | ok a => exact hn a
  | error failure => trivial

theorem Plain.ite {c : Prop} [Decidable c] {first second : Service α} (hf : first.Plain)
    (hs : second.Plain) : Plain (if c then first else second) := by
  split
  · exact hf
  · exact hs

theorem Plain.discard {service : Service α} (h : service.Plain) : (discard service).Plain :=
  Plain.bind h fun _ => plain_pure ()

theorem Plain.attempt {service : Service α} (h : service.Plain) : service.attempt.Plain :=
  Program.Plain.bind (f := fun answer => .done (Except.ok answer : Answer (Answer α))) h
    fun _ => trivial

theorem Plain.detached {service : Service α} (h : service.Plain) : service.detached.Plain :=
  Program.Plain.detached h

theorem Plain.guarded {service : Service α} (h : service.Plain) :
    (guarded .user service).Plain := by
  refine ⟨rfl, fun reply => ?_⟩
  cases reply with
  | error failure => trivial
  | ok _ =>
    exact Program.Plain.bind
      (f := fun answer => .ask .caller (.leave .user) fun _ => .done answer) h
      fun answer => ⟨rfl, fun _ => trivial⟩

end Service

/-! ## Errands of users -/

namespace Users

open Service

theorem plain_named (user : Urn .user) : (named user).Plain :=
  Plain.ite (plain_pure ()) (plain_throw _)

theorem plain_storeNew (user : User) : (storeNew user).Plain := by
  refine Plain.bind (Plain.attempt (plain_storage rfl)) fun answer => ?_
  cases answer with
  | ok record => exact plain_throw _
  | error failure => exact Plain.ite (plain_storage rfl) (plain_throw failure)

theorem plain_create (username password : String) (attributes : Option Attributes) :
    (create username password attributes).Plain := by
  refine Plain.guarded (Plain.bind (plain_accounts _) fun account => ?_)
  refine Plain.bind (plain_storeNew _).attempt fun answer => ?_
  cases answer with
  | ok _ => exact plain_pure _
  | error failure =>
    exact Plain.bind (plain_accounts _).detached.attempt.discard fun _ => plain_throw failure

theorem plain_withLock (user : User) : (withLock user).Plain :=
  Plain.bind (plain_accounts _) fun _ => plain_pure _

theorem plain_withLocks (users : List User) : (withLocks users).Plain := by
  induction users with
  | nil => exact plain_pure _
  | cons user rest ih =>
    exact Plain.bind (plain_withLock user) fun _ => Plain.bind ih fun _ => plain_pure _

theorem plain_load (user : Urn .user) : (load user).Plain :=
  Plain.bind (plain_named user) fun _ =>
    Plain.guarded (Plain.bind (plain_storage rfl) plain_withLock)

theorem plain_list : list.Plain :=
  Plain.guarded (Plain.bind (plain_storage rfl) plain_withLocks)

theorem plain_setLocked (user : Urn .user) (locked : Bool) : (setLocked user locked).Plain :=
  Plain.bind (plain_named user) fun _ => Plain.guarded <|
    Plain.bind (plain_storage rfl) fun _ => Plain.ite (plain_accounts _) (plain_accounts _)

theorem plain_modify (user : Urn .user) (change : User → User) : (modify user change).Plain :=
  Plain.bind (plain_named user) fun _ =>
    Plain.guarded (Plain.bind (plain_storage rfl) fun _ => plain_storage rfl)

end Users

/-! ## Going through a program call by call -/

namespace Service

variable {α β : Type} {s : Stance}

def Safe (ends : Stance → Answer α → Prop) (s : Stance) (service : Service α) : Prop :=
  service.run.Safe ends s

variable {ends : Stance → Answer α → Prop}

theorem safe_pure {a : α} (h : ends s (.ok a)) : Safe ends s (pure a) := h

theorem safe_throw {failure : Failure} (h : ends s (.error failure)) :
    Safe ends s (throw failure : Service α) := h

theorem Safe.bind {ends : Stance → Answer β → Prop} {service : Service α} {next : α → Service β}
    (h : Safe (fun s answer => match answer with
      | .ok a => Safe ends s (next a)
      | .error failure => ends s (.error failure)) s service) :
    Safe ends s (service >>= next) := by
  refine Program.Safe.bind (f := fun answer => ExceptT.bindCont next answer) ?_
  refine Program.Safe.mono (fun s answer h => ?_) h
  cases answer with
  | ok a => exact h
  | error failure => exact h

theorem Safe.ite {c : Prop} [Decidable c] {first second : Service α} (hf : c → Safe ends s first)
    (hs : ¬ c → Safe ends s second) : Safe ends s (if c then first else second) := by
  split
  · exact hf ‹_›
  · exact hs ‹_›

theorem Safe.discard {ends : Stance → Answer Unit → Prop} {service : Service α}
    (h : Safe (fun s answer => ends s (answer.map fun _ => ())) s service) :
    Safe ends s (discard service) := by
  show Safe ends s (service >>= fun _ => pure ())
  refine Safe.bind (Program.Safe.mono (fun s answer h => ?_) h)
  cases answer with
  | ok a => exact h
  | error failure => exact h

theorem Safe.attempt {ends : Stance → Answer (Answer α) → Prop} {service : Service α}
    (h : Safe (fun s answer => ends s (.ok answer)) s service) : Safe ends s service.attempt :=
  Program.Safe.bind (f := fun answer => .done (Except.ok answer : Answer (Answer α))) h

theorem safe_storage {call : Storage.Call} {ends : Stance → Answer call.Reply → Prop}
    (hp : s.permits .caller (.storage call))
    (h : ∀ reply, ends (s.after (.storage call) reply) reply) : Safe ends s (storage call) :=
  ⟨hp, fun reply _ => h reply⟩

theorem safe_accounts {call : Accounts.Call} {ends : Stance → Answer call.Reply → Prop}
    (hp : s.permits .caller (.accounts call))
    (h : ∀ reply, ends (s.after (.accounts call) reply) reply) : Safe ends s (accounts call) :=
  ⟨hp, fun reply _ => h reply⟩

theorem safe_announce {user : Urn .user} {ends : Stance → Answer Unit → Prop}
    (hp : s.permits .caller (.announce user)) (h : ends (s.after (.announce user) ()) (.ok ())) :
    Safe ends s (announce user) :=
  ⟨hp, fun _ _ => h⟩

theorem safe_guarded {gate : Kind} {service : Service α} (hp : s.permits .caller (.enter gate))
    (hfail : ∀ failure, ends (s.after (.enter gate) (.error failure)) (.error failure))
    (h : Safe (fun s answer => s.permits .caller (.leave gate) ∧
      ends (s.after (.leave gate) ()) answer) (s.after (.enter gate) (.ok ())) service) :
    Safe ends s (guarded gate service) := by
  refine ⟨hp, fun reply _ => ?_⟩
  cases reply with
  | error failure => exact hfail failure
  | ok _ =>
    refine Program.Safe.bind
      (f := fun answer => .ask .caller (.leave gate) fun _ => .done answer) ?_
    exact Program.Safe.mono (fun s answer h => ⟨h.1, fun _ _ => h.2⟩) h

/-- Without a duty, a plain service in the gate of groups ends without one. -/
theorem safe_guarded_of_plain {service : Service α} (h : service.Plain) (hd : s.duty = .none) :
    Safe (fun s _ => s.duty = .none) s (guarded .group service) := by
  refine safe_guarded (Stance.permits_of_mayCall hd _ trivial) (fun _ => hd) ?_
  have hd' : (s.after (.enter .group) (.ok ())).duty = .none := congrArg Duty.entered hd
  exact Program.Safe.mono (fun s' answer h' => ⟨Stance.permits_leave h'.1 h'.2 _, h'.1⟩)
    (Program.Plain.safe h hd')

end Service

/-! ## Errands that matter for memberships -/

/-- The stance of an errand that has just begun. -/
def Stance.start (subject : Option String) (duty : Duty) : Stance :=
  ⟨subject, false, [], [], [], duty, false⟩

namespace Users

open Service

/-- A deletion that has removed the record announces it before it does anything else. -/
theorem safe_delete (user : Urn .user) :
    Safe (fun s _ => s.duty = .none) (.start (some user.text) .none) (delete user) := by
  refine Safe.bind (Safe.ite (fun _ => safe_pure ?_) fun _ => safe_throw rfl)
  refine safe_guarded trivial (fun _ => rfl) (Safe.bind (safe_storage trivial fun reply => ?_))
  cases reply with
  | error failure => exact ⟨trivial, rfl⟩
  | ok record =>
    refine Safe.bind (safe_accounts trivial fun reply => ?_)
    cases reply with
    | error failure => exact ⟨trivial, rfl⟩
    | ok _ =>
      refine Safe.bind (safe_storage rfl fun reply => ?_)
      cases reply with
      | error failure => exact ⟨trivial, rfl⟩
      -- from here on the task owes the announcement, which it makes inside the gate of users
      | ok _ => exact safe_announce ⟨user, rfl, rfl⟩ ⟨trivial, rfl⟩

/-- A user that can be loaded is vetted from then on. -/
theorem safe_load {s : Stance} (hd : s.duty = .none) (user : Urn .user) :
    Safe (fun s' answer => s'.duty = .none ∧ s'.inside = s.inside ∧ s'.present = s.present ∧
      ∀ record, answer = .ok record → user.text ∈ s'.vetted) s (load user) := by
  have hplain : ∀ {s' : Stance} {call : Call}, s'.duty = .none → call.Plain = true →
      s'.permits .caller call := fun hd hc => Stance.permits_plain hd .caller hc
  refine Safe.bind (Safe.ite (fun _ => safe_pure ?_) fun _ => safe_throw ⟨hd, rfl, rfl, nofun⟩)
  refine safe_guarded (hplain hd rfl) (fun _ => ⟨hd, rfl, rfl, nofun⟩)
    (Safe.bind (safe_storage (hplain hd rfl) fun reply => ?_))
  cases reply with
  | error failure => exact ⟨hplain hd rfl, hd, rfl, rfl, nofun⟩
  | ok record =>
    refine Safe.bind (safe_accounts (hplain hd rfl) fun reply => ?_)
    cases reply with
    | error failure => exact ⟨hplain hd rfl, hd, rfl, rfl, nofun⟩
    | ok account => exact ⟨hplain hd rfl, hd, rfl, rfl, fun _ _ => List.mem_cons_self⟩

end Users

namespace Groups

open Service

/-- A group that has been created had no members when its gate was left. -/
theorem safe_create (name : String) (comment : Option String) :
    Safe (fun s answer => s.duty = .none ∧ ∀ group : Urn .group, answer = .ok group →
      s.left = true ∧ group.text ∈ s.vacant ∧ group.text ∈ s.present)
      (.start none .none) (create name comment) := by
  refine Safe.ite (fun _ => Safe.bind (safe_throw ⟨rfl, nofun⟩)) fun _ => ?_
  refine Safe.ite (fun _ => Safe.bind (safe_throw ⟨rfl, nofun⟩)) fun _ => ?_
  refine safe_guarded trivial (fun _ => ⟨rfl, nofun⟩)
    (Safe.bind (Safe.attempt (safe_storage trivial fun reply => ?_)))
  cases reply with
  | ok record => exact ⟨rfl, rfl, nofun⟩
  | error failure =>
    refine Safe.ite (fun hf => Safe.bind (safe_storage trivial fun reply => ?_))
      fun _ => Safe.bind (safe_throw ⟨rfl, rfl, nofun⟩)
    cases reply with
    | error failure => exact ⟨rfl, rfl, nofun⟩
    | ok _ =>
      refine ⟨rfl, rfl, ?_⟩
      rintro _ ⟨⟩
      -- the group was found missing inside the gate, so nobody belongs to it
      refine ⟨rfl, ?_, List.mem_cons_self⟩
      show _ ∈ if failure.isNotFound = true then _ :: _ else _
      rw [if_pos hf]
      exact List.mem_cons_self

theorem safe_delete (group : Urn .group) :
    Safe (fun s _ => s.duty = .none) (.start none .none) (delete group) := by
  refine Safe.bind (Safe.ite (fun _ => safe_throw rfl) fun _ => safe_pure ?_)
  refine safe_guarded trivial (fun _ => rfl)
    (Safe.bind (Safe.discard (safe_storage trivial fun reply => ?_)))
  cases reply with
  | error failure => exact ⟨rfl, rfl⟩
  | ok record =>
    refine Safe.bind (Safe.discard (safe_storage trivial fun reply => ?_))
    cases reply with
    | error failure => exact ⟨rfl, rfl⟩
    | ok users =>
      refine safe_storage ⟨rfl, List.mem_cons_self⟩ fun reply => ?_
      cases reply <;> exact ⟨rfl, rfl⟩

theorem safe_addMember (group : Urn .group) (user : Urn .user) :
    Safe (fun s _ => s.duty = .none) (.start none .none) (addMember group user) := by
  refine Safe.bind (Safe.ite (fun _ => safe_throw rfl) fun _ => safe_pure ?_)
  refine safe_guarded trivial (fun _ => rfl)
    (Safe.bind (Safe.discard (safe_storage trivial fun reply => ?_)))
  cases reply with
  | error failure => exact ⟨rfl, rfl⟩
  | ok record =>
    -- the gate of users is left before the user joins, but whoever ends it owes to take it out
    refine Safe.bind (Safe.discard (Program.Safe.mono ?_ (Users.safe_load rfl user)))
    rintro s answer ⟨hd, hinside, hpresent, hvetted⟩
    cases answer with
    | error failure => exact ⟨Stance.permits_leave hd hinside _, hd⟩
    | ok record =>
      have hmay : s.mayCall (.storage (.join user group)) :=
        ⟨hinside, hvetted record rfl, hpresent ▸ List.mem_cons_self⟩
      exact safe_storage (Stance.permits_of_mayCall hd _ hmay) fun _ =>
        ⟨Stance.permits_leave hd hinside _, hd⟩

/-- A plain service in the gate of groups ends without a duty. -/
theorem safe_plain (group : Urn .group) {α : Type} {service : Service α} (h : service.Plain) :
    Safe (fun s _ => s.duty = .none) (.start none .none)
      (named group >>= fun _ => guarded .group service) :=
  Safe.bind (Safe.ite (fun _ => safe_throw rfl) fun _ => safe_pure (safe_guarded_of_plain h rfl))

/-- One group after the other is left, until none is left of those that are owed. -/
theorem safe_leave (user : Urn .user) (groups : List (Urn .group)) :
    ∀ {s : Stance} {owed : List String}, s.subject = some user.text → s.inside = true →
      s.duty = .ofGroups owed → owed ⊆ groups.map Urn.text →
      (leave user groups).run.detached.Safe (fun s _ => s.duty = .none ∧ s.inside = true) s := by
  induction groups with
  | nil =>
    intro s owed _ hi hd howed
    obtain rfl : owed = [] := List.subset_nil.1 howed
    exact ⟨hd, hi⟩
  | cons group rest ih =>
    intro s owed hs hi hd howed
    have hrest : (s.duty.parted group.text) = .ofGroups (owed.filter (· ≠ group.text)) := by
      rw [hd]
      cases owed <;> rfl
    refine ⟨?_, fun reply _ => ih hs hi hrest ?_⟩
    · unfold Stance.permits
      rw [hd]
      cases owed with
      | nil => trivial
      | cons g owed => exact ⟨rfl, user, group, rfl, hs⟩
    · intro g hg
      obtain ⟨hg, hne⟩ := List.mem_filter.1 hg
      rcases List.mem_cons.1 (howed hg) with rfl | hg
      · simp at hne
      · exact hg

/-- What follows a deletion enters the gate, asks for the groups and leaves all of them. -/
theorem safe_reconcile (user : Urn .user) :
    Safe (fun s _ => s.duty = .none) (.start (some user.text) .enter) (reconcile user) := by
  -- nobody can give up what is detached, so it enters the gate and hears of all groups
  refine ⟨⟨rfl, rfl⟩, fun reply hreply => ?_⟩
  obtain rfl := hreply rfl
  refine ⟨⟨rfl, user, rfl, rfl⟩, fun reply hreply => ?_⟩
  obtain ⟨groups, rfl⟩ := hreply rfl
  show Program.Safe _ _ ((leave user groups).run.bind fun answer =>
    .ask .caller (.leave .group) fun _ => .done answer).detached
  rw [Program.detached_bind]
  refine Program.Safe.bind (Program.Safe.mono (fun s answer h => ?_)
    (safe_leave user groups rfl rfl rfl fun _ hg => hg))
  exact ⟨Stance.permits_leave h.1 h.2 _, fun _ _ => h.1⟩

end Groups

namespace Errand

/-- The stance in which an errand begins. -/
def stance (errand : Errand) : Stance :=
  .start errand.subject (if errand.isCall then .none else .enter)

/-- How an errand ends: with no duty, and when it has made a group, with one without members as it
left the gate. -/
def Ends : (errand : Errand) → Stance → Answer errand.Result → Prop
  | createGroup _ _, s, answer => s.duty = .none ∧ ∀ group : Urn .group, answer = .ok group →
      s.left = true ∧ group.text ∈ s.vacant ∧ group.text ∈ s.present
  | _, s, _ => s.duty = .none

theorem duty_of_ends {errand : Errand} {s : Stance} {answer : Answer errand.Result}
    (h : errand.Ends s answer) : s.duty = .none := by
  cases errand with
  | createGroup name comment => exact h.1
  | _ => exact h

open Service in
/-- Every errand only makes calls that are permitted to it. -/
theorem safe (errand : Errand) : errand.service.Safe errand.Ends errand.stance := by
  have hplain : ∀ {α : Type} {service : Service α}, service.Plain →
      service.Safe (fun s _ => s.duty = .none) (.start none .none) := fun h =>
    Program.Safe.mono (fun _ _ h => h.1) (Program.Plain.safe h rfl)
  cases errand with
  | createUser username password attributes => exact hplain (Users.plain_create ..)
  | loadUser user => exact hplain (Users.plain_load user)
  | listUsers => exact hplain Users.plain_list
  | deleteUser user => exact Users.safe_delete user
  | setLocked user locked => exact hplain (Users.plain_setLocked user locked)
  | setAttributes user attributes => exact hplain (Users.plain_modify user _)
  | setAttribute user key value => exact hplain (Users.plain_modify user _)
  | eraseAttribute user key => exact hplain (Users.plain_modify user _)
  | createGroup name comment => exact Groups.safe_create name comment
  | loadGroup group => exact Groups.safe_plain group (plain_storage rfl)
  | listGroups => exact safe_guarded_of_plain (plain_storage rfl) rfl
  | deleteGroup group => exact Groups.safe_delete group
  | setComment group comment =>
    exact Groups.safe_plain group (Plain.bind (plain_storage rfl) fun _ => plain_storage rfl)
  | addMember group user => exact Groups.safe_addMember group user
  | removeMember group user =>
    exact Groups.safe_plain group
      (Plain.bind (Plain.discard (plain_storage rfl)) fun _ => plain_storage rfl)
  | members group =>
    exact Groups.safe_plain group
      (Plain.bind (Plain.discard (plain_storage rfl)) fun _ => plain_storage rfl)
  | memberships user => exact safe_guarded_of_plain (plain_storage rfl) rfl
  | reconcile user => exact Groups.safe_reconcile user

end Errand

end AccessControl
