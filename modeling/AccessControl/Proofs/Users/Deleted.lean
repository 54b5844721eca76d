/-
How subscribers come to hear of deletions. Main statement: over every run of requests, with
subscribers that come and go and calls that turn out any way, a deletion succeeds just where its
three calls have, and then it is told once to each subscriber of one moment, at which the record is
gone; nothing else is told to anybody (`deletions_told`).
-/
import AccessControl.Proofs.Concurrent.Errands
import AccessControl.Proofs.Service.Fortune
import AccessControl.Proofs.Users.Directory

namespace AccessControl

/-! ## Programs that tell nothing -/

theorem Program.Plain.only {α : Type} {p : Program α} (h : p.Plain) :
    p.Only fun call => call.Plain = true := by
  induction p with
  | done value => exact .done value
  | ask origin call next ih => exact .ask h.1 fun reply => ih reply (h.2 reply)

theorem Moment.handed_eq_nil {m : Moment} (h : ∀ user, m.deed.call ≠ .announce user) :
    m.handed = [] := by
  obtain ⟨s, origin, call, reply⟩ := m
  cases call with
  | announce user => exact absurd rfl (h user)
  | enter _ | leave _ | storage _ | accounts _ | decide _ _ => rfl

/-- Where nothing is announced the subscribers are not given anything to do. -/
theorem Unfolds.pending_eq {s t : Realm} {moments : List Moment} (h : Unfolds s moments t)
    (hquiet : ∀ m ∈ moments, ∀ user, m.deed.call ≠ .announce user) : t.pending = s.pending := by
  rw [h.pending, List.flatMap_eq_nil_iff.2 fun m hm => Moment.handed_eq_nil (hquiet m hm),
    List.append_nil]

namespace Users

open Service

theorem Request.plain {request : Request} (h : ∀ user, request ≠ .delete user) :
    request.service.Plain := by
  cases request with
  | create username password attributes => exact plain_create username password attributes
  | load user => exact plain_load user
  | list => exact plain_list
  | delete user => exact absurd rfl (h user)
  | setLocked user locked => exact plain_setLocked user locked
  | setAttributes user _ | setAttribute user _ _ | eraseAttribute user _ =>
    exact plain_modify user _

/-! ## What a deletion does -/

/-- The record of a user has been loaded, its account archived and the record erased. -/
def carried (user : Urn .user) (record : User) : List Deed :=
  [.stored (.load .user user) (.ok record), .asked .caller (.archive record.account) (.ok ()),
    .stored (.erase .user user) (.ok ())]

/-- How it can go when a user is deleted. -/
inductive Deleting (user : Urn .user) : List Deed → Answer Unit → Prop
  | unnamed (failure : Failure) : Deleting user [] (.error failure)
  | refused (failure : Failure) :
    Deleting user [.entered .user (.error failure)] (.error failure)
  | unread (failure : Failure) :
    Deleting user [.entered .user (.ok ()), .stored (.load .user user) (.error failure),
      .left .user] (.error failure)
  | unarchived (record : User) (failure : Failure) :
    Deleting user [.entered .user (.ok ()), .stored (.load .user user) (.ok record),
      .asked .caller (.archive record.account) (.error failure), .left .user] (.error failure)
  | kept (record : User) (failure : Failure) :
    Deleting user [.entered .user (.ok ()), .stored (.load .user user) (.ok record),
      .asked .caller (.archive record.account) (.ok ()),
      .stored (.erase .user user) (.error failure), .left .user] (.error failure)
  | carried (record : User) :
    Deleting user ([.entered .user (.ok ())] ++ carried user record ++
      [.announced user, .left .user]) (.ok ())

variable {user : Urn .user} {deeds : List Deed} {answer : Answer Unit}

theorem deleting_of_plays (h : (delete user).Plays deeds answer) : Deleting user deeds answer := by
  unfold delete at h
  rcases plays_bind_iff.1 h with ⟨none, _, rest, hnamed, hrest, rfl⟩ | ⟨failure, hnamed, rfl⟩
  · obtain rfl : none = [] := by
      unfold named at hnamed
      split at hnamed
      · exact (plays_pure_iff.1 hnamed).1
      · exact (plays_throw_iff.1 hnamed).1
    rw [List.nil_append]
    rcases plays_guarded_iff.1 hrest with ⟨failure, rfl, rfl⟩ | ⟨inner, hinner, rfl⟩
    · exact .refused failure
    rcases plays_bind_iff.1 hinner with ⟨first, record, rest, hload, hloaded, rfl⟩ |
      ⟨failure, hload, rfl⟩
    · obtain rfl := plays_storage_iff.1 hload
      rcases plays_bind_iff.1 hloaded with ⟨second, _, rest, harchive, harchived, rfl⟩ |
        ⟨failure, harchive, rfl⟩
      · obtain rfl := plays_accounts_iff.1 harchive
        rcases plays_bind_iff.1 harchived with ⟨third, _, rest, herase, herased, rfl⟩ |
          ⟨failure, herase, rfl⟩
        · obtain rfl := plays_storage_iff.1 herase
          obtain ⟨rfl, rfl⟩ := plays_announce_iff.1 herased
          exact .carried record
        · obtain rfl := plays_storage_iff.1 herase
          exact .kept record failure
      · obtain rfl := plays_accounts_iff.1 harchive
        exact .unarchived record failure
    · obtain rfl := plays_storage_iff.1 hload
      exact .unread failure
  · unfold named at hnamed
    split at hnamed
    · cases (plays_pure_iff.1 hnamed).2
    · obtain ⟨rfl, -⟩ := plays_throw_iff.1 hnamed
      exact .unnamed failure

namespace Deleting

/-- Only a deletion that succeeds has erased the record. -/
theorem ok_of_erased (h : Deleting user deeds answer)
    (herased : .stored (.erase .user user) (.ok ()) ∈ deeds) : answer = .ok () := by
  cases h with
  | carried record => rfl
  | unnamed failure => cases herased
  | refused failure => cases List.mem_singleton.1 herased
  | unread failure =>
    simp only [List.mem_cons, List.not_mem_nil, or_false] at herased
    rcases herased with h | h | h <;> cases h
  | unarchived record failure =>
    simp only [List.mem_cons, List.not_mem_nil, or_false] at herased
    rcases herased with h | h | h | h <;> cases h
  | kept record failure =>
    simp only [List.mem_cons, List.not_mem_nil, or_false] at herased
    rcases herased with h | h | h | h | h <;> cases h

/-- A deletion that fails writes nothing and tells nothing. -/
theorem idle {failure : Failure} (h : Deleting user deeds (.error failure)) :
    ∀ deed ∈ deeds, deed.Idle ∧ ∀ user, deed.call ≠ .announce user := by
  have hgate {gate : Kind} {reply : Answer Unit} :
      (Deed.entered gate reply).Idle ∧ ∀ user, (Deed.entered gate reply).call ≠ .announce user :=
    ⟨trivial, nofun⟩
  have hleft {gate : Kind} :
      (Deed.left gate).Idle ∧ ∀ user, (Deed.left gate).call ≠ .announce user := ⟨trivial, nofun⟩
  cases h with
  | unnamed failure => exact List.forall_mem_nil _
  | refused failure => exact List.forall_mem_singleton.2 hgate
  | unread failure =>
    exact List.forall_mem_cons.2 ⟨hgate, List.forall_mem_cons.2
      ⟨⟨.inl trivial, nofun⟩, List.forall_mem_singleton.2 hleft⟩⟩
  | unarchived record failure =>
    exact List.forall_mem_cons.2 ⟨hgate, List.forall_mem_cons.2 ⟨⟨.inl trivial, nofun⟩,
      List.forall_mem_cons.2 ⟨⟨trivial, nofun⟩, List.forall_mem_singleton.2 hleft⟩⟩⟩
  | kept record failure =>
    exact List.forall_mem_cons.2 ⟨hgate, List.forall_mem_cons.2 ⟨⟨.inl trivial, nofun⟩,
      List.forall_mem_cons.2 ⟨⟨trivial, nofun⟩, List.forall_mem_cons.2
        ⟨⟨.inr ⟨failure, rfl⟩, nofun⟩, List.forall_mem_singleton.2 hleft⟩⟩⟩⟩

end Deleting

/-- How a deletion in a realm is told. -/
structure Announced (user : Urn .user) (s : Realm) (answer : Answer Unit) (c : Chronicle) :
    Prop where
  /-- It succeeds just where the record has been loaded, its account archived and the record erased,
  in this order. -/
  ok_iff : answer = .ok () ↔ ∃ record, (carried user record).Sublist c.deeds
  /-- Then each subscriber of one moment, at which the record is gone, hears of the user once. -/
  told : answer = .ok () → ∃ r : Realm, ⟨r, .announced user⟩ ∈ c.moments ∧
    r.storage.entry .user user.text = none ∧ (r.listeners.audience.map Prod.fst).Nodup ∧
      c.realm.pending = s.pending ++ r.listeners.audience.map fun l => (l.1, l.2, user)
  gone : answer = .ok () → c.realm.storage.entry .user user.text = none
  /-- Where it fails nobody hears anything and no record is removed. -/
  silent : ∀ failure, answer = .error failure →
    c.realm.pending = s.pending ∧ s.storage.Unchanged c.realm.storage

/-- Where a deletion is carried out the record is gone when it is told, and it is told once. -/
theorem told_of_carried {s t : Realm} {moments : List Moment} {record : User}
    (h : Unfolds s moments t)
    (hdeeds : moments.map Moment.deed =
      [.entered .user (.ok ())] ++ carried user record ++ [.announced user, .left .user]) :
    ∃ r, ⟨r, .announced user⟩ ∈ moments ∧ r.storage.entry .user user.text = none ∧
      moments.flatMap Moment.handed = Moment.handed ⟨r, .announced user⟩ ∧
      t.storage.entry .user user.text = none := by
  have hlog : moments.map Moment.deed =
      [.entered .user (.ok ()), .stored (.load .user user) (.ok record),
        .asked .caller (.archive record.account) (.ok ())] ++
      .stored (.erase .user user) (.ok ()) :: [.announced user, .left .user] := hdeeds
  obtain ⟨front, back, rfl, hfront, hback, hgone, hend⟩ :=
    h.gone hlog (List.forall_mem_cons.2 ⟨trivial, List.forall_mem_singleton.2 trivial⟩)
  obtain ⟨⟨r, _⟩, rest, rfl, rfl, hrest⟩ := List.map_eq_cons_iff.1 hback
  -- of all that is done only the one announcement gives anybody anything to do
  have hquiet {moments : List Moment} (h : ∀ deed ∈ moments.map Moment.deed,
      ∀ user, deed.call ≠ .announce user) : moments.flatMap Moment.handed = [] :=
    List.flatMap_eq_nil_iff.2 fun m hm => Moment.handed_eq_nil (h _ (List.mem_map_of_mem hm))
  have hfront : front.flatMap Moment.handed = [] := by
    refine hquiet ?_
    rw [hfront]
    exact List.forall_mem_cons.2 ⟨nofun, List.forall_mem_cons.2 ⟨nofun, List.forall_mem_cons.2
      ⟨nofun, List.forall_mem_singleton.2 nofun⟩⟩⟩
  have hrest : rest.flatMap Moment.handed = [] := by
    refine hquiet ?_
    rw [hrest]
    exact List.forall_mem_singleton.2 nofun
  refine ⟨r, List.mem_append_right _ List.mem_cons_self, hgone _ List.mem_cons_self, ?_, hend⟩
  rw [List.flatMap_append, List.flatMap_cons, hfront, hrest, List.nil_append, List.append_nil]

theorem Deleting.announced {s : Realm} {c : Chronicle} (h : Deleting user c.deeds answer)
    (hunfolds : Unfolds s c.moments c.realm) (hwf : s.listeners.WF) :
    Announced user s answer c := by
  have hmem {m : Moment} (hm : m ∈ c.moments) : m.deed ∈ c.deeds := List.mem_map_of_mem hm
  generalize hdeeds : c.deeds = deeds at h hmem
  constructor
  case ok_iff =>
    rw [hdeeds]
    constructor
    · rintro rfl
      cases h with
      | carried record =>
        exact ⟨record, (List.sublist_append_right _ _).trans (List.sublist_append_left _ _)⟩
    · rintro ⟨record, hcarried⟩
      exact h.ok_of_erased (hcarried.subset
        (List.mem_cons_of_mem _ (List.mem_cons_of_mem _ List.mem_cons_self)))
  case told =>
    rintro rfl
    cases h with
    | carried record =>
      obtain ⟨r, hr, hgone, hhanded, -⟩ := told_of_carried hunfolds hdeeds
      exact ⟨r, hr, hgone, ((hunfolds.wf hwf).1 _ hr).nodup,
        hunfolds.pending.trans (congrArg (s.pending ++ ·) hhanded)⟩
  case gone =>
    rintro rfl
    cases h with
    | carried record =>
      obtain ⟨-, -, -, -, hend⟩ := told_of_carried hunfolds hdeeds
      exact hend
  case silent =>
    rintro failure rfl
    exact ⟨hunfolds.pending_eq fun m hm => (h.idle _ (hmem hm)).2,
      (hunfolds.unchanged fun m hm => (h.idle _ (hmem hm)).1).2⟩

/-! ## Runs -/

/-- One thing after the other that happens to a realm: its service of users is asked something,
under some fortune, a subscriber comes or goes, or the subscribers do what they have to do. -/
inductive Occasion
  | ask (fortune : Fortune) (request : Request)
  | turnover (change : Turnover)
  | settle

namespace Occasion

def pass (s : Realm) : Occasion → Realm
  | .ask fortune request => (fortune.serve request.service s).2.realm
  | .turnover change => s.turn change
  | .settle => s.settle

/-- What a deletion gives the subscribers to do, if it succeeds. -/
def noticesOf : Answer Unit × Chronicle → List (Nat × Listener × Urn .user)
  | (.ok _, c) => c.moments.flatMap Moment.handed
  | (.error _, _) => []

/-- What an occasion gives the subscribers to do where it is a deletion that succeeds. -/
def notices (s : Realm) : Occasion → List (Nat × Listener × Urn .user)
  | .ask fortune request =>
    match request with
    | .delete user => noticesOf (fortune.serve (Users.delete user) s)
    | _ => []
  | .turnover _ | .settle => []

/-- The realm after a run. -/
def passAll (s : Realm) (occasions : List Occasion) : Realm := occasions.foldl pass s

/-- What the deletions of a run that succeed give the subscribers to do. -/
def allNotices : Realm → List Occasion → List (Nat × Listener × Urn .user)
  | _, [] => []
  | s, occasion :: rest => occasion.notices s ++ allNotices (occasion.pass s) rest

end Occasion

end Users

/-! ## What subscribers hear -/

namespace Realm

/-- What recorders hear when they do what is to be done. -/
def recorded (tasks : List (Nat × Listener × Urn .user)) : List (Nat × Urn .user) :=
  tasks.filterMap fun task =>
    match task with
    | (id, .recorder, user) => some (id, user)
    | (_, .reconciler, _) => none

/-- What recorders have heard or have still to hear. -/
def tidings (s : Realm) : List (Nat × Urn .user) := s.heard ++ recorded s.pending

theorem tidings_append {s t : Realm} {tasks : List (Nat × Listener × Urn .user)}
    (hheard : t.heard = s.heard) (hpending : t.pending = s.pending ++ tasks) :
    t.tidings = s.tidings ++ recorded tasks := by
  unfold tidings
  rw [hheard, hpending, List.append_assoc]
  exact congrArg (s.heard ++ ·) List.filterMap_append

/-- Two realms have the same subscribers, who have the same to do. -/
structure Owing (s t : Realm) : Prop where
  listeners : s.listeners = t.listeners
  pending : s.pending = t.pending

variable {s t u : Realm}

theorem Owing.trans (h : Owing s t) (h' : Owing t u) : Owing s u :=
  ⟨h.listeners.trans h'.listeners, h.pending.trans h'.pending⟩

/-- To take a user out of its groups tells nobody anything. -/
theorem owing_reconcile (user : Urn .user) (s : Realm) :
    Owing (s.run false (Groups.reconcile user).run).2 s ∧
      (s.run false (Groups.reconcile user).run).2.heard = s.heard := by
  refine (only_reconcile user).run_kept
    (I := fun t : Realm => Owing t s ∧ t.heard = s.heard) ?_ ⟨⟨rfl, rfl⟩, rfl⟩
  rintro origin call hcall t ⟨howing, hheard⟩
  cases call with
  | enter _ | leave _ => exact ⟨howing, hheard⟩
  | storage call =>
    rcases answer_storage false origin call t with hanswer | hanswer <;> rw [hanswer]
    · exact ⟨howing, hheard⟩
    · exact ⟨⟨howing.listeners, howing.pending⟩, hheard⟩
  | accounts _ | decide _ _ | announce _ => exact hcall.elim

theorem owing_hear (s : Realm) (task : Nat × Listener × Urn .user) :
    Owing (s.hear task) s ∧ (s.hear task).heard = s.heard ++ recorded [task] := by
  obtain ⟨id, listener, user⟩ := task
  cases listener with
  | reconciler =>
    obtain ⟨howing, hheard⟩ := owing_reconcile user s
    exact ⟨howing, hheard.trans (List.append_nil _).symm⟩
  | recorder => exact ⟨⟨rfl, rfl⟩, rfl⟩

/-- When the subscribers have done what they have to do, nothing is left and recorders have heard
what they had still to hear. -/
theorem settle_heard (s : Realm) :
    s.settle.listeners = s.listeners ∧ s.settle.pending = [] ∧ s.settle.heard = s.tidings := by
  have hfold (tasks : List (Nat × Listener × Urn .user)) (s : Realm) :
      Owing (tasks.foldl Realm.hear s) s ∧
        (tasks.foldl Realm.hear s).heard = s.heard ++ recorded tasks := by
    induction tasks generalizing s with
    | nil => exact ⟨⟨rfl, rfl⟩, (List.append_nil _).symm⟩
    | cons task rest ih =>
      obtain ⟨hfirst, hheard⟩ := s.owing_hear task
      obtain ⟨hrest, hall⟩ := ih (s.hear task)
      refine ⟨hrest.trans hfirst, hall.trans ?_⟩
      rw [hheard, List.append_assoc]
      exact congrArg (s.heard ++ ·) List.filterMap_append.symm
  obtain ⟨howing, hheard⟩ := hfold s.pending { s with pending := [] }
  exact ⟨howing.listeners, howing.pending, hheard⟩

end Realm

namespace Users

open Service

/-- How deletions are told in a realm: each one as it turns out, and nothing but deletions. -/
structure Telling (s : Realm) : Prop where
  deletion : ∀ (fortune : Fortune) (user : Urn .user),
    Announced user s (fortune.serve (delete user) s).1 (fortune.serve (delete user) s).2
  /-- Nobody hears anything of other requests. -/
  request : ∀ (fortune : Fortune) (request : Request), (∀ user, request ≠ .delete user) →
    (fortune.serve request.service s).2.realm.pending = s.pending ∧
      (fortune.serve request.service s).2.realm.heard = s.heard
  turnover : ∀ change, (s.turn change).pending = s.pending ∧ (s.turn change).heard = s.heard
  /-- The subscribers do what they have to do once. -/
  settle : s.settle.pending = [] ∧ s.settle.heard = s.heard ++ Realm.recorded s.pending

theorem telling {s : Realm} (hwf : s.listeners.WF) : Telling s where
  deletion fortune user :=
    (deleting_of_plays (fortune.serve_plays _ s)).announced (fortune.serve_unfolds _ s) hwf
  request fortune request hother := by
    have hunfolds := fortune.serve_unfolds request.service s
    refine ⟨hunfolds.pending_eq fun m hm user hannounce => ?_, hunfolds.heard⟩
    have hplain := (Request.plain hother).only.plays (fortune.serve_plays _ s) _
      (List.mem_map_of_mem hm)
    rw [hannounce] at hplain
    cases hplain
  turnover change := ⟨s.turn_pending change, s.turn_heard change⟩
  settle := (s.settle_heard).2

namespace Occasion

theorem wf_pass {s : Realm} (hwf : s.listeners.WF) (occasion : Occasion) :
    (occasion.pass s).listeners.WF := by
  cases occasion with
  | ask fortune request => exact ((fortune.serve_unfolds request.service s).wf hwf).2
  | turnover change => exact Realm.turn_wf hwf change
  | settle => exact s.settle_heard.1 ▸ hwf

theorem notices_other {request : Request} (hother : ∀ user, request ≠ .delete user)
    (s : Realm) (fortune : Fortune) : (ask fortune request).notices s = [] := by
  cases request with
  | delete user => exact absurd rfl (hother user)
  | create _ _ _ | load _ | list | setLocked _ _ | setAttributes _ _ | setAttribute _ _ _
  | eraseAttribute _ _ => rfl

/-- What recorders hear grows by what a deletion that succeeds tells them. -/
theorem tidings_pass {s : Realm} (hwf : s.listeners.WF) (occasion : Occasion) :
    (occasion.pass s).tidings = s.tidings ++ Realm.recorded (occasion.notices s) := by
  have htelling := telling hwf
  have hquiet {t : Realm} (h : t.pending = s.pending ∧ t.heard = s.heard) :
      t.tidings = s.tidings ++ Realm.recorded [] :=
    Realm.tidings_append h.2 (h.1.trans (List.append_nil _).symm)
  cases occasion with
  | turnover change =>
    show (s.turn change).tidings = s.tidings ++ Realm.recorded []
    exact hquiet (htelling.turnover change)
  | settle =>
    obtain ⟨hpending, hheard⟩ := htelling.settle
    show s.settle.heard ++ Realm.recorded s.settle.pending = s.tidings ++ Realm.recorded []
    rw [hpending, hheard]
    rfl
  | ask fortune request =>
    by_cases hother : ∀ user, request ≠ .delete user
    · rw [notices_other hother]
      exact hquiet (htelling.request fortune request hother)
    · obtain ⟨user, hdelete⟩ := not_forall.1 hother
      obtain rfl := not_not.1 hdelete
      have hunfolds := fortune.serve_unfolds (Users.delete user) s
      have hdeletion := htelling.deletion fortune user
      show (fortune.serve (Users.delete user) s).2.realm.tidings =
        s.tidings ++ Realm.recorded (noticesOf (fortune.serve (Users.delete user) s))
      rcases hserve : fortune.serve (Users.delete user) s with ⟨answer, c⟩
      rw [hserve] at hunfolds hdeletion
      cases answer with
      | ok _ => exact Realm.tidings_append hunfolds.heard hunfolds.pending
      | error failure => exact hquiet ⟨(hdeletion.silent failure rfl).1, hunfolds.heard⟩

theorem wf_passAll {s : Realm} (hwf : s.listeners.WF) (occasions : List Occasion) :
    (passAll s occasions).listeners.WF := by
  induction occasions generalizing s with
  | nil => exact hwf
  | cons occasion rest ih => exact ih (wf_pass hwf occasion)

theorem tidings_passAll {s : Realm} (hwf : s.listeners.WF) (occasions : List Occasion) :
    (passAll s occasions).tidings =
      s.tidings ++ Realm.recorded (allNotices s occasions) := by
  induction occasions generalizing s with
  | nil => exact (List.append_nil _).symm
  | cons occasion rest ih =>
    show (passAll (occasion.pass s) rest).tidings = _
    rw [ih (wf_pass hwf occasion), tidings_pass hwf occasion, List.append_assoc]
    exact congrArg (s.tidings ++ ·) List.filterMap_append.symm

end Occasion

/-- Over every run, deletions are told as they turn out, and recorders hear what the deletions that
succeed tell them, in that order, and nothing else. -/
theorem deletions_told (storage : Storage.Backend) (accounts : Accounts.Store) (now : Nat)
    (occasions : List Occasion) :
    let start := Realm.start storage accounts now
    Telling (Occasion.passAll start occasions) ∧
      (Occasion.passAll start occasions).tidings =
        Realm.recorded (Occasion.allNotices start occasions) := by
  have hwf : (Realm.start storage accounts now).listeners.WF :=
    Notices.none_wf.subscribe Listener.reconciler
  exact ⟨telling (Occasion.wf_passAll hwf occasions), Occasion.tidings_passAll hwf occasions⟩

end Users

end AccessControl
