/-
What a task knows and owes while others run beside it. Inside the gate of groups a task may rely on
what it has found out there, and a task that has ended a user owes that the user leaves its groups.
`Stance.permits` says which calls may be made on what is known and owed, `Stance.after` what is
known and owed once a call has been answered, and a program is safe if it only makes such calls
(`Program.Safe`).
-/
import AccessControl.Proofs.Concurrent.World

namespace AccessControl

/-! ## Stances -/

/-- What a task owes for the end of its subject. -/
inductive Duty
  | none
  /-- The record has been removed: the deletion has to be announced. -/
  | announce
  /-- The gate of groups has to be entered. -/
  | enter
  /-- Inside the gate, the groups of the user have to be asked for. -/
  | ask
  /-- Inside the gate, the user has to be taken out of these groups. -/
  | takeOut (groups : List String)

namespace Duty

/-- The duty to take the user out of what groups there are. -/
def ofGroups : List String → Duty
  | [] => none
  | groups => takeOut groups

def entered : Duty → Duty
  | enter => ask
  | duty => duty

def told (groups : List String) : Duty → Duty
  | ask => ofGroups groups
  | duty => duty

def parted (group : String) : Duty → Duty
  | takeOut groups => ofGroups (groups.filter (· ≠ group))
  | duty => duty

end Duty

structure Stance where
  /-- The user whose end the task sees to. -/
  subject : Option String
  /-- The task holds the gate of groups. -/
  inside : Bool
  /-- Groups that have a record. -/
  present : List String
  /-- Users that have a record or are about to be taken out of their groups. -/
  vetted : List String
  /-- Groups that have no members. -/
  vacant : List String
  duty : Duty
  /-- The last call was to leave the gate of groups. -/
  left : Bool

namespace Stance

/-- Which calls may be made without a duty. -/
def mayCall (s : Stance) : Call → Prop
  | .leave .group => s.inside = true
  | .storage (.join user group) =>
    s.inside = true ∧ user.text ∈ s.vetted ∧ group.text ∈ s.present
  | .storage (.erase .group group) => s.inside = true ∧ group.text ∈ s.vacant
  | .storage (.erase .user user) => s.subject = some user.text
  | _ => True

/-- Which calls may be made: a duty comes before everything else, and what is done for it cannot be
given up. -/
def permits (s : Stance) (origin : Origin) (call : Call) : Prop :=
  match s.duty with
  | .none => s.mayCall call
  | .announce => ∃ user, call = .announce user ∧ s.subject = some user.text
  | .enter => origin = .own ∧ call = .enter .group
  | .ask => origin = .own ∧ ∃ user, call = .storage (.memberships user) ∧ s.subject = some user.text
  | .takeOut _ => origin = .own ∧
    ∃ user group, call = .storage (.part user group) ∧ s.subject = some user.text

/-- What is learnt from the answer to a call. -/
def learn (s : Stance) : (call : Call) → call.Reply → Stance
  | .enter .group, .ok () =>
    { s with inside := true, present := [], vetted := [], vacant := [], duty := s.duty.entered }
  | .leave .group, _ => { s with inside := false }
  | .storage (.load .group group), .ok _ => { s with present := group.text :: s.present }
  | .storage (.load .group group), .error failure =>
    { s with vacant := if failure.isNotFound then group.text :: s.vacant else s.vacant }
  | .storage (.load .user user), .ok _ => { s with vetted := user.text :: s.vetted }
  | .storage (.store .group record), .ok _ =>
    { s with present := (Record.id (k := .group) record).text :: s.present }
  | .storage (.erase .group group), .ok _ =>
    { s with present := s.present.filter (· ≠ group.text) }
  | .storage (.erase .user _), .ok _ => { s with duty := .announce }
  | .storage (.join _ group), _ => { s with vacant := s.vacant.filter (· ≠ group.text) }
  | .storage (.disband group), .ok _ => { s with vacant := group.text :: s.vacant }
  | .storage (.memberships _), .ok groups =>
    { s with duty := s.duty.told (List.map Urn.text groups) }
  | .storage (.part _ group), _ => { s with duty := s.duty.parted group.text }
  | .announce _, _ => { s with duty := .none }
  | _, _ => s

def after (s : Stance) (call : Call) (reply : call.Reply) : Stance :=
  { s.learn call reply with left := match call with | .leave .group => true | _ => false }

theorem after_subject (s : Stance) (call : Call) (reply : call.Reply) :
    (s.after call reply).subject = s.subject := by
  show (s.learn call reply).subject = s.subject
  unfold learn
  split <;> rfl

/-- Without a duty to be inside the gate none arises but to announce a deletion. -/
theorem after_duty {s : Stance} (hd : s.duty = .none ∨ s.duty = .announce) (call : Call)
    (reply : call.Reply) :
    (s.after call reply).duty = .none ∨ (s.after call reply).duty = .announce := by
  have hentered : s.duty.entered = s.duty := by rcases hd with hd | hd <;> rw [hd] <;> rfl
  have htold : ∀ groups, s.duty.told groups = s.duty := fun groups => by
    rcases hd with hd | hd <;> rw [hd] <;> rfl
  have hparted : ∀ group, s.duty.parted group = s.duty := fun group => by
    rcases hd with hd | hd <;> rw [hd] <;> rfl
  show (s.learn call reply).duty = .none ∨ (s.learn call reply).duty = .announce
  unfold learn
  split
  any_goals exact hd
  · rwa [hentered]
  · exact .inr rfl
  · rwa [htold]
  · rwa [hparted]
  · exact .inl rfl

end Stance

/-! ## Safe programs -/

/-- The answers there can be: what cannot be given up gets a free gate and hears of memberships. -/
def Possible (origin : Origin) : (call : Call) → call.Reply → Prop
  | .enter _, reply => origin = .own → reply = .ok ()
  | .storage (.memberships _), reply =>
    origin = .own → ∃ groups : List (Urn .group), reply = .ok groups
  | _, _ => True

namespace Program

variable {α β : Type}

/-- From a stance on, the program only makes calls that are permitted, and ends as `ends` says. -/
def Safe (ends : Stance → α → Prop) (s : Stance) : Program α → Prop
  | done value => ends s value
  | ask origin call next => s.permits origin call ∧
      ∀ reply, Possible origin call reply → (next reply).Safe ends (s.after call reply)

variable {ends : Stance → α → Prop} {s : Stance}

theorem Safe.mono {ends' : Stance → α → Prop} (hends : ∀ s a, ends s a → ends' s a)
    {p : Program α} (h : p.Safe ends s) : p.Safe ends' s := by
  induction p generalizing s with
  | done value => exact hends s value h
  | ask origin call next ih => exact ⟨h.1, fun reply hp => ih reply (h.2 reply hp)⟩

theorem Safe.bind {ends : Stance → β → Prop} {p : Program α} {f : α → Program β}
    (h : p.Safe (fun s a => (f a).Safe ends s) s) : (p.bind f).Safe ends s := by
  induction p generalizing s with
  | done value => exact h
  | ask origin call next ih => exact ⟨h.1, fun reply hp => ih reply (h.2 reply hp)⟩

end Program

end AccessControl
