/-
That worlds stay sound: the view of a sound world is good and its tasks follow their stances. Main
statements: a world stays sound by whatever move and run (`World.Sound.step`, `World.Sound.run`),
and it starts so over an empty storage (`World.sound_start`).
-/
import AccessControl.Proofs.Concurrent.Errands
import AccessControl.Proofs.Concurrent.View

namespace AccessControl

open Storage (Relation)

/-! ## Worlds and views -/

/-- The task is where its stance says, and what is left of its program is safe from there. -/
structure Task.Follows (t : Task) (s : Stance) : Prop where
  subject : s.subject = t.errand.subject
  safe : t.left.Safe t.errand.Ends s
  duty : t.errand.isCall = true → s.duty = .none ∨ s.duty = .announce

namespace World

/-- How a world looks to its tasks when the storage represents `R`. -/
def view (w : World) (R : Relation) (stance : Nat → Option Stance) : View where
  pairs := R
  names := w.realm.storage.Stored
  holder := w.gates .group
  announced := fun user => ∃ n, (n, Listener.reconciler, ⟨user⟩) ∈ w.realm.pending
  stance := stance

/-- The view of the world is good, and its tasks follow their stances. -/
structure Sound (w : World) (R : Relation) (stance : Nat → Option Stance) : Prop where
  represents : w.realm.storage.Represents R
  hears : ∃ n, (n, Listener.reconciler) ∈ w.realm.listeners.audience
  good : (w.view R stance).Good
  nobody : ∀ id, w.tasks id = none → stance id = none
  follows : ∀ id t, w.tasks id = some t → ∃ s, stance id = some s ∧ t.Follows s

variable {w : World} {R : Relation} {stance : Nat → Option Stance}

/-- The stances with another one for a task. -/
def setStance (stance : Nat → Option Stance) (id : Nat) (s : Option Stance) : Nat → Option Stance :=
  fun j => if j = id then s else stance j

theorem Sound.set_follows (h : w.Sound R stance) {id : Nat} {t : Task} {s : Stance}
    (hf : t.Follows s) : ∀ j u, (w.setTask id (some t)).tasks j = some u →
      ∃ s', setStance stance id (some s) j = some s' ∧ u.Follows s' := by
  intro j u hu
  unfold setTask at hu
  unfold setStance
  by_cases hj : j = id
  · simp only [hj, if_true] at hu ⊢
    exact ⟨s, rfl, Option.some.inj hu ▸ hf⟩
  · simp only [hj, if_false] at hu ⊢
    exact h.follows j u hu

theorem Sound.set_nobody (h : w.Sound R stance) {id : Nat} {t : Task} {s : Stance} :
    ∀ j, (w.setTask id (some t)).tasks j = none → setStance stance id (some s) j = none := by
  intro j hj
  unfold setTask at hj
  unfold setStance
  by_cases hji : j = id
  · simp only [hji, if_true] at hj
    cases hj
  · simp only [hji, if_false] at hj ⊢
    exact h.nobody j hj

theorem follows_ofErrand (errand : Errand) : (Task.ofErrand errand).Follows errand.stance :=
  ⟨rfl, errand.safe, fun hc => .inl (if_pos hc)⟩

/-! ## Moves -/

theorem Sound.begin (h : w.Sound R stance) {id : Nat} {errand : Errand} (hid : w.tasks id = none)
    (hc : errand.isCall = true) :
    (w.setTask id (some (.ofErrand errand))).Sound R
      (setStance stance id (some errand.stance)) where
  represents := h.represents
  hears := h.hears
  good := h.good.begins (h.nobody id hid) rfl (.inl (if_pos hc)) fun _ hu => .inl hu
  nobody := h.set_nobody
  follows := h.set_follows (follows_ofErrand errand)

theorem Sound.giveUp (h : w.Sound R stance) {id : Nat} {t : Task} (ht : w.tasks id = some t) :
    (w.setTask id (some { t with givenUp := true })).Sound R stance := by
  obtain ⟨s, hs, hf⟩ := h.follows id t ht
  -- what a task owes and knows does not depend on whether its caller has given up
  have hsame : setStance stance id (some s) = stance := by
    funext j
    unfold setStance
    split
    · rename_i hj
      rw [hj, hs]
    · rfl
  refine ⟨h.represents, h.hears, h.good, ?_, ?_⟩
  · exact hsame ▸ h.set_nobody
  · exact hsame ▸ h.set_follows ⟨hf.subject, hf.safe, hf.duty⟩

theorem Sound.outside (h : w.Sound R stance) (accounts : Accounts.Store) (now : Nat) :
    Sound { w with realm := { w.realm with accounts, now } } R stance :=
  ⟨h.represents, h.hears, h.good, h.nobody, h.follows⟩

theorem duty_of_waits {t : Task} {s : Stance} (hf : t.Follows s) (hc : t.errand.isCall = true)
    (hw : t.waits = true) : s.duty = .none := by
  rcases hf.duty hc with hd | hd
  · exact hd
  · have hsafe := hf.safe
    unfold Task.waits at hw
    cases hleft : t.left with
    | done answer =>
      rw [hleft] at hw
      cases hw
    | ask origin call next =>
      rw [hleft] at hsafe hw
      have hp := hsafe.1
      unfold Stance.permits at hp
      rw [hd] at hp
      obtain ⟨user, rfl, -⟩ := hp
      cases hw

theorem Sound.abandon (h : w.Sound R stance) {id : Nat} {t : Task} (ht : w.tasks id = some t)
    (hc : t.errand.isCall = true) (hw : t.waits = true) :
    Sound { w.setTask id none with
      gates := fun k => if w.gates k = some id then none else w.gates k } R
      (setStance stance id none) := by
  obtain ⟨s, hs, hf⟩ := h.follows id t ht
  refine ⟨h.represents, h.hears, h.good.vanishes hs (duty_of_waits hf hc hw), fun j hj => ?_,
    fun j u hu => ?_⟩
  · have hj : (if j = id then none else w.tasks j) = none := hj
    unfold setStance
    split
    · rfl
    · rename_i hji
      rw [if_neg hji] at hj
      exact h.nobody j hj
  · have hu : (if j = id then none else w.tasks j) = some u := hu
    unfold setStance
    split at hu
    · cases hu
    · rename_i hji
      rw [if_neg hji]
      exact h.follows j u hu

theorem Sound.hear (h : w.Sound R stance) {place id n : Nat} {user : Urn .user}
    (hid : w.tasks id = none) (hplace : w.realm.pending[place]? = some (n, .reconciler, user)) :
    Sound { w.setTask id (some (.ofErrand (.reconcile user))) with
      realm := { w.realm with pending := w.realm.pending.eraseIdx place } } R
      (setStance stance id (some (Errand.reconcile user).stance)) := by
  refine ⟨h.represents, h.hears, h.good.begins (h.nobody id hid) rfl (.inr rfl) ?_, h.set_nobody,
    h.set_follows (follows_ofErrand _)⟩
  rintro u ⟨m, hm⟩
  obtain ⟨hlt, hget⟩ := List.getElem?_eq_some_iff.1 hplace
  have hperm := List.getElem_cons_eraseIdx_perm hlt
  rcases List.mem_cons.1 (hperm.mem_iff.2 hm) with hm | hm
  · rw [hget] at hm
    cases hm
    exact .inr ⟨rfl, .inr rfl⟩
  · exact .inl ⟨m, hm⟩

/-- What the world looks like after a call has been answered: the relation there is then, and the
view in which the task has its next stance. -/
structure Answered (w : World) (stance : Nat → Option Stance) (id : Nat) (s : Stance)
    (origin : Origin) (call : Call) (answer : call.Reply × Realm) (R : Relation) : Prop where
  possible : Possible origin call answer.1
  represents : answer.2.storage.Represents R
  listeners : answer.2.listeners = w.realm.listeners
  good : (view ⟨answer.2, w.gatesAfter id call answer.1, w.tasks⟩ R
    (setStance stance id (some (s.after call answer.1)))).Good

/-- Once announced, a deletion is waiting to be heard of. -/
theorem pending_announce {realm : Realm}
    (h : ∃ n, (n, Listener.reconciler) ∈ realm.listeners.audience) (user : Urn .user)
    (name : String) :
    (∃ n, (n, Listener.reconciler, (⟨name⟩ : Urn .user)) ∈ (realm.announce user).pending) ↔
      name = user.text ∨ ∃ n, (n, Listener.reconciler, (⟨name⟩ : Urn .user)) ∈ realm.pending := by
  obtain ⟨m, hm⟩ := h
  unfold Realm.announce
  simp only [List.mem_append, List.mem_map, Prod.exists, Prod.mk.injEq]
  constructor
  · rintro ⟨n, hn | ⟨k, l, -, -, -, rfl⟩⟩
    · exact .inr ⟨n, hn⟩
    · exact .inl rfl
  · rintro (rfl | ⟨n, hn⟩)
    · exact ⟨m, .inr ⟨m, .reconciler, hm, rfl, rfl, rfl⟩⟩
    · exact ⟨n, .inl hn⟩

section Answers

variable {id : Nat} {s : Stance} {origin : Origin} {givenUp : Bool}

theorem Sound.answer_enter (h : w.Sound R stance) (hs : stance id = some s) {gate : Kind}
    (hp : s.permits origin (.enter gate)) (ha : w.admits givenUp origin (.enter gate) = true) :
    Answered w stance id s origin (.enter gate)
      (w.realm.answer givenUp origin (.enter gate)) R := by
  have hanswer : w.realm.answer givenUp origin (.enter gate) =
      (if (givenUp && origin == .caller) = true then .error .cancelled else .ok (), w.realm) := rfl
  have ha : ((w.gates gate).isNone || (givenUp && origin == .caller)) = true := ha
  rw [hanswer]
  cases hr : givenUp && origin == .caller with
  | true =>
    refine ⟨fun ho => ?_, h.represents, rfl, ?_⟩
    · simp [ho] at hr
    · have ht : (w.view R stance).Tells (.enter gate) (.error .cancelled) := by
        cases gate <;> trivial
      cases gate <;> exact h.good.after hs hp ht
  | false =>
    rw [hr, Bool.or_false, Option.isNone_iff_eq_none] at ha
    refine ⟨fun _ => rfl, h.represents, rfl, ?_⟩
    have ht : (w.view R stance).Tells (.enter gate) (.ok ()) := by
      cases gate with
      | group => exact ha
      | _ => trivial
    cases gate <;> exact h.good.after hs hp ht

theorem Sound.answer_storage (h : w.Sound R stance) (hs : stance id = some s)
    {call : Storage.Call} (hp : s.permits origin (.storage call)) :
    ∃ R', Answered w stance id s origin (.storage call)
      (w.realm.answer givenUp origin (.storage call)) R' := by
  have hanswer : w.realm.answer givenUp origin (.storage call) =
      if (givenUp && origin == .caller) = true then (.error .cancelled, w.realm)
      else w.realm.askStorage call := rfl
  rw [hanswer]
  cases hr : givenUp && origin == .caller with
  | true =>
    have ho : origin = .caller := by simpa using (Bool.and_eq_true_iff.1 hr).2
    subst ho
    -- only what is the caller's own is refused, so no duty depends on this call
    refine ⟨R, ?_, h.represents, rfl, h.good.after_refused hs call hp⟩
    cases call with
    | memberships user => exact nofun
    | _ => trivial
  | false =>
    have hmemberships : ∀ user, (w.realm.storage.answer (.memberships user)).1 =
        .ok (Storage.urns (R.groupsOf user.text)) := fun user =>
      (Storage.Backend.answer_inquiry h.represents (.memberships user)).1
    have hnames := Storage.Backend.answer_names h.represents call
    have htell : (w.view R stance).Tells (.storage call) (w.realm.storage.answer call).1 := by
      have hload := Storage.Backend.load_names h.represents call
      cases call with
      | memberships user => exact hmemberships user
      | _ => exact hload
    refine ⟨R.after call, ?_, Storage.Backend.answer_follows h.represents call, rfl, ?_⟩
    · cases call with
      | memberships user => exact fun _ => ⟨_, hmemberships user⟩
      | _ => trivial
    · have hgood := h.good.after hs hp htell
      have hview : view ⟨(w.realm.askStorage call).2, w.gates, w.tasks⟩ (R.after call)
          (setStance stance id (some (s.after (.storage call) (w.realm.storage.answer call).1))) =
          (w.view R stance).after id s (.storage call) (w.realm.storage.answer call).1 := by
        show View.mk _ (w.realm.storage.answer call).2.Stored _ _ _ = _
        rw [hnames]
        rfl
      exact hview ▸ hgood

theorem Sound.answered (h : w.Sound R stance) (hs : stance id = some s) {call : Call}
    (hp : s.permits origin call) (ha : w.admits givenUp origin call = true) :
    ∃ R', Answered w stance id s origin call (w.realm.answer givenUp origin call) R' := by
  cases call with
  | enter gate => exact ⟨R, h.answer_enter hs hp ha⟩
  | leave gate =>
    refine ⟨R, trivial, h.represents, rfl, ?_⟩
    cases gate <;> exact h.good.after hs hp trivial
  | storage call => exact h.answer_storage hs hp
  | accounts call =>
    have hanswer : w.realm.answer givenUp origin (.accounts call) =
        if (givenUp && origin == .caller) = true then (.error .cancelled, w.realm)
        else w.realm.askAccounts call := rfl
    rw [hanswer]
    split <;> exact ⟨R, trivial, h.represents, rfl, h.good.after hs hp trivial⟩
  | decide policies request =>
    exact ⟨R, trivial, h.represents, rfl, h.good.after hs hp trivial⟩
  | announce user =>
    refine ⟨R, trivial, h.represents, rfl, ?_⟩
    have hgood : ((w.view R stance).after id s (.announce user) ()).Good :=
      h.good.after hs hp trivial
    have hview : view ⟨w.realm.announce user, w.gates, w.tasks⟩ R
        (setStance stance id (some (s.after (.announce user) ()))) =
        (w.view R stance).after id s (.announce user) () := by
      show View.mk _ _ _ (fun name => ∃ n, (n, Listener.reconciler, (⟨name⟩ : Urn .user)) ∈
          (w.realm.announce user).pending) _ = _
      rw [funext fun name => propext (pending_announce h.hears user name)]
      rfl
    exact hview ▸ hgood

end Answers

theorem proceed_ask (w : World) (id : Nat) {errand : Errand} {origin : Origin} {call : Call}
    {next : call.Reply → Program (Answer errand.Result)} {givenUp : Bool}
    (ha : w.admits givenUp origin call = true) :
    w.proceed id ⟨errand, .ask origin call next, givenUp⟩ =
      ⟨(w.realm.answer givenUp origin call).2,
        w.gatesAfter id call (w.realm.answer givenUp origin call).1,
        (w.setTask id (some ⟨errand, next (w.realm.answer givenUp origin call).1,
          givenUp⟩)).tasks⟩ := by
  unfold proceed
  exact if_pos ha

theorem proceed_waits (w : World) (id : Nat) {errand : Errand} {origin : Origin} {call : Call}
    {next : call.Reply → Program (Answer errand.Result)} {givenUp : Bool}
    (ha : ¬ w.admits givenUp origin call = true) :
    w.proceed id ⟨errand, .ask origin call next, givenUp⟩ = w := by
  unfold proceed
  exact if_neg ha

theorem Sound.proceed (h : w.Sound R stance) {id : Nat} {t : Task} (ht : w.tasks id = some t) :
    ∃ R' stance', (w.proceed id t).Sound R' stance' := by
  obtain ⟨s, hs, hf⟩ := h.follows id t ht
  obtain ⟨errand, left, givenUp⟩ := t
  cases left with
  | done answer => exact ⟨R, stance, h⟩
  | ask origin call next =>
    by_cases ha : w.admits givenUp origin call = true
    · obtain ⟨hp, hnext⟩ := hf.safe
      obtain ⟨R', hr⟩ := h.answered hs hp ha
      refine ⟨R', setStance stance id (some (s.after call (w.realm.answer givenUp origin call).1)),
        ?_⟩
      rw [proceed_ask w id ha]
      refine ⟨hr.represents, ?_, hr.good, h.set_nobody, h.set_follows ⟨?_, ?_, ?_⟩⟩
      · rw [hr.listeners]
        exact h.hears
      · exact (s.after_subject call _).trans hf.subject
      · exact hnext _ hr.possible
      · exact fun hc => Stance.after_duty (hf.duty hc) call _
    · rw [proceed_waits w id ha]
      exact ⟨R, stance, h⟩

/-- A world stays sound by whatever move. -/
theorem Sound.step (h : w.Sound R stance) (move : Move) :
    ∃ R' stance', (w.step move).Sound R' stance' := by
  cases move with
  | begin id errand =>
    cases hid : w.tasks id with
    | some t =>
      simp only [World.step, hid]
      exact ⟨R, stance, h⟩
    | none =>
      by_cases hc : errand.isCall = true
      · simp only [World.step, hid, if_pos hc]
        exact ⟨R, _, h.begin hid hc⟩
      · simp only [World.step, hid, if_neg hc]
        exact ⟨R, stance, h⟩
  | giveUp id =>
    cases ht : w.tasks id with
    | none =>
      simp only [World.step, ht]
      exact ⟨R, stance, h⟩
    | some t =>
      simp only [World.step, ht]
      exact ⟨R, stance, h.giveUp ht⟩
  | abandon id =>
    cases ht : w.tasks id with
    | none =>
      simp only [World.step, ht]
      exact ⟨R, stance, h⟩
    | some t =>
      by_cases hc : (t.errand.isCall && t.waits) = true
      · obtain ⟨hcall, hw⟩ := Bool.and_eq_true_iff.1 hc
        simp only [World.step, ht, if_pos hc]
        exact ⟨R, _, h.abandon ht hcall hw⟩
      · simp only [World.step, ht, if_neg hc]
        exact ⟨R, stance, h⟩
  | proceed id =>
    cases ht : w.tasks id with
    | none =>
      simp only [World.step, ht]
      exact ⟨R, stance, h⟩
    | some t =>
      simp only [World.step, ht]
      exact h.proceed ht
  | hear place id =>
    simp only [World.step]
    split
    · rename_i hid hplace
      exact ⟨R, _, h.hear hid hplace⟩
    · exact ⟨R, stance, h⟩
  | outside accounts now => exact ⟨R, stance, h.outside accounts now⟩

theorem Sound.run (h : w.Sound R stance) (moves : List Move) :
    ∃ R' stance', (w.run moves).Sound R' stance' := by
  induction moves generalizing w R stance with
  | nil => exact ⟨R, stance, h⟩
  | cons move moves ih =>
    obtain ⟨R', stance', h'⟩ := h.step move
    exact ih h'

theorem sound_start {storage : Storage.Backend} (h : storage.Represents ∅)
    (accounts : Accounts.Store) (now : Nat) :
    (start (.start storage accounts now)).Sound ∅ fun _ => none where
  represents := h
  hears := ⟨_, List.mem_singleton_self _⟩
  good := by
    refine ⟨nofun, nofun, nofun, nofun, ?_, ?_⟩ <;> intro user group hp <;>
      exact absurd hp (Finset.notMem_empty _)
  nobody _ _ := rfl
  follows := nofun

end World

end AccessControl
