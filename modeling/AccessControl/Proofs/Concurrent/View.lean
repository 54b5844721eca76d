/-
What the tasks of a world hold on to, seen apart from their programs: the memberships, the names
with a record, who holds the gate of groups, which deletions have been announced, and the stances of
the tasks. Main statement: a permitted call keeps a view good (`View.Good.after`), where in a good
view each membership has a group and a user, or a task that will end it.
-/
import AccessControl.Proofs.Concurrent.Stance

namespace AccessControl

open Storage (Relation Names)

structure View where
  pairs : Relation
  names : Names
  /-- The task that holds the gate of groups. -/
  holder : Option Nat
  /-- Users whose deletion has been announced and not been heard of yet. -/
  announced : String → Prop
  stance : Nat → Option Stance

namespace Stance

/-- The task still has to see to it that the user leaves all its groups. -/
def Due (s : Stance) (user : String) : Prop :=
  s.subject = some user ∧ (s.duty = .announce ∨ s.duty = .enter)

/-- The task is about to take the user out of the group. -/
def TakesOut (s : Stance) (user group : String) : Prop :=
  s.subject = some user ∧ (s.duty = .ask ∨ ∃ groups, s.duty = .takeOut groups ∧ group ∈ groups)

variable {s : Stance} {user group : String}

theorem Due.duty_ne (h : s.Due user) : s.duty ≠ .none := by
  rcases h.2 with hd | hd <;> rw [hd] <;> exact Duty.noConfusion

theorem TakesOut.duty_ne (h : s.TakesOut user group) : s.duty ≠ .none := by
  rcases h.2 with hd | ⟨groups, hd, -⟩ <;> rw [hd] <;> exact Duty.noConfusion

/-- Who has not entered the gate yet takes nobody out. -/
theorem not_takesOut (hd : s.duty = .none ∨ s.duty = .announce ∨ s.duty = .enter) :
    ¬ s.TakesOut user group := by
  rintro ⟨-, ht | ⟨groups, ht, -⟩⟩
  · rw [ht] at hd
    rcases hd with hd | hd | hd <;> cases hd
  · rw [ht] at hd
    rcases hd with hd | hd | hd <;> cases hd

end Stance

namespace View

/-- The user is going to leave all groups that it belongs to when the gate is entered for it. -/
def Due (v : View) (user : String) : Prop :=
  v.announced user ∨ ∃ id s, v.stance id = some s ∧ s.Due user

def Vetted (v : View) (user : String) : Prop := v.names .user user ∨ v.Due user

/-- The user has a record or is going to leave the group. -/
def Covered (v : View) (user group : String) : Prop :=
  v.Vetted user ∨ ∃ id s, v.stance id = some s ∧ s.TakesOut user group

/-- What the task believes is so. -/
structure Knows (v : View) (s : Stance) : Prop where
  present : ∀ group ∈ s.present, v.names .group group
  vetted : ∀ user ∈ s.vetted, v.Vetted user
  vacant : ∀ group ∈ s.vacant, ∀ user, (user, group) ∉ v.pairs

/-- The invariant of all that goes on side by side. -/
structure Good (v : View) : Prop where
  inside : ∀ id s, v.stance id = some s → (s.inside = true ↔ v.holder = some id)
  held : ∀ id, v.holder = some id → ∃ s, v.stance id = some s
  knows : ∀ id s, v.stance id = some s → s.inside = true → v.Knows s
  duties : ∀ id s, v.stance id = some s → (∃ user group, s.TakesOut user group) → s.inside = true
  backed : ∀ user group, (user, group) ∈ v.pairs → v.names .group group
  covered : ∀ user group, (user, group) ∈ v.pairs → v.Covered user group

/-- The view after the call of a task has been answered. -/
def after (v : View) (id : Nat) (s : Stance) (call : Call) (reply : call.Reply) : View where
  pairs := match call with
    | .storage call => v.pairs.after call
    | _ => v.pairs
  names := match call, reply with
    | .storage call, reply => v.names.after call reply
    | _, _ => v.names
  holder := match call, reply with
    | .enter .group, .ok () => some id
    | .leave .group, _ => none
    | _, _ => v.holder
  announced := match call with
    | .announce user => fun name => name = user.text ∨ v.announced name
    | _ => v.announced
  stance := fun j => if j = id then some (s.after call reply) else v.stance j

/-! ## One task acts -/

section Acts

variable {v v' : View} {id : Nat} {s s' : Stance}

/-- Another view in which one task has another stance. -/
structure Acts (v v' : View) (id : Nat) (s s' : Stance) : Prop where
  before : v.stance id = some s
  after : ∀ j, v'.stance j = if j = id then some s' else v.stance j

theorem Acts.self (h : Acts v v' id s s') : v'.stance id = some s' := by
  rw [h.after, if_pos rfl]

theorem Acts.other (h : Acts v v' id s s') {j : Nat} (hj : j ≠ id) : v'.stance j = v.stance j := by
  rw [h.after, if_neg hj]

theorem Acts.due (h : Acts v v' id s s') {user : String}
    (ha : v.announced user → v'.announced user) (hs : s.Due user → v'.Due user)
    (hd : v.Due user) : v'.Due user := by
  rcases hd with hd | ⟨j, t, ht, hd⟩
  · exact .inl (ha hd)
  · by_cases hj : j = id
    · subst hj
      rw [h.before] at ht
      exact hs (Option.some.inj ht ▸ hd)
    · exact .inr ⟨j, t, (h.other hj).trans ht, hd⟩

/-- A user stays vetted if its record stays and what is due to it. -/
theorem Acts.vetted (h : Acts v v' id s s') {user : String}
    (hn : v.names .user user → v'.names .user user) (ha : v.announced user → v'.announced user)
    (hs : s.Due user → v'.Due user) (hv : v.Vetted user) : v'.Vetted user :=
  hv.imp hn (h.due ha hs)

/-- A membership stays covered if its user stays vetted and who takes it out still does. -/
theorem Acts.covered (h : Acts v v' id s s') {user group : String}
    (hv : v.Vetted user → v'.Covered user group)
    (hs : s.TakesOut user group → v'.Covered user group) (hc : v.Covered user group) :
    v'.Covered user group := by
  rcases hc with hc | ⟨j, t, ht, hc⟩
  · exact hv hc
  · by_cases hj : j = id
    · subst hj
      rw [h.before] at ht
      exact hs (Option.some.inj ht ▸ hc)
    · exact .inr ⟨j, t, (h.other hj).trans ht, hc⟩

/-- What a task has to see to so that its act keeps the view good. The last conditions are about
the memberships, and `others` protects what is known to a task inside the gate. -/
theorem Good.act (h : v.Good) (ha : Acts v v' id s s')
    (hinside : s'.inside = true ↔ v'.holder = some id)
    (hholder : ∀ j, j ≠ id → (v'.holder = some j ↔ v.holder = some j))
    (hothers : ∀ j, j ≠ id → v.holder = some j → (∀ group, v.names .group group →
      v'.names .group group) ∧ (∀ user, v.Vetted user → v'.Vetted user) ∧ v'.pairs ⊆ v.pairs)
    (hknows : s'.inside = true → v'.Knows s')
    (hduty : (∃ user group, s'.TakesOut user group) → s'.inside = true)
    (hbacked : ∀ user group, (user, group) ∈ v'.pairs → v'.names .group group)
    (hcovered : ∀ user group, (user, group) ∈ v'.pairs → v'.Covered user group) : v'.Good where
  inside j t ht := by
    by_cases hj : j = id
    · subst hj
      rw [ha.self] at ht
      exact Option.some.inj ht ▸ hinside
    · rw [ha.other hj] at ht
      exact (h.inside j t ht).trans (hholder j hj).symm
  held j hj := by
    by_cases hji : j = id
    · exact ⟨s', hji ▸ ha.self⟩
    · rw [ha.other hji]
      exact h.held j ((hholder j hji).1 hj)
  knows j t ht hin := by
    by_cases hj : j = id
    · subst hj
      rw [ha.self] at ht
      obtain rfl := Option.some.inj ht
      exact hknows hin
    · rw [ha.other hj] at ht
      obtain ⟨hg, hu, hp⟩ := hothers j hj ((h.inside j t ht).1 hin)
      obtain ⟨hpresent, hvetted, hvacant⟩ := h.knows j t ht hin
      exact ⟨fun group hm => hg group (hpresent group hm), fun user hm => hu user (hvetted user hm),
        fun group hm user hpair => hvacant group hm user (hp hpair)⟩
  duties j t ht htakes := by
    by_cases hj : j = id
    · subst hj
      rw [ha.self] at ht
      obtain rfl := Option.some.inj ht
      exact hduty htakes
    · exact h.duties j t ((ha.other hj).symm.trans ht) htakes
  backed := hbacked
  covered := hcovered

/-- An act that changes no gate and takes no user or group its record. What is due stays due, and a
membership that the task is about to end and that is still there stays one that it is about to
end. -/
theorem Good.learns (h : v.Good) (ha : Acts v v' id s s') (hinside : s'.inside = s.inside)
    (hholder : v'.holder = v.holder) (hannounced : v'.announced = v.announced)
    (hnames : ∀ k name, k ≠ .policy → v.names k name → v'.names k name)
    (hpairs : v'.pairs ⊆ v.pairs) (hdue : ∀ user, s.Due user → s'.Due user)
    (htakes : ∀ user, (∃ group, s'.TakesOut user group) → ∃ group, s.TakesOut user group)
    (hcovers : ∀ user group, (user, group) ∈ v'.pairs → s.TakesOut user group →
      s'.TakesOut user group)
    (hknows : s.inside = true → v.Knows s → (∀ user, v.Vetted user → v'.Vetted user) →
      v'.Knows s') : v'.Good := by
  have hvetted : ∀ user, v.Vetted user → v'.Vetted user := fun user =>
    ha.vetted (hnames .user user Kind.noConfusion) (fun hu => hannounced ▸ hu) fun hd =>
      .inr ⟨id, s', ha.self, hdue user hd⟩
  refine h.act ha ?_ (fun _ _ => hholder ▸ .rfl)
    (fun _ _ _ => ⟨fun group => hnames .group group Kind.noConfusion, hvetted, hpairs⟩) ?_ ?_ ?_ ?_
  · rw [hinside, hholder]
    exact h.inside id s ha.before
  · intro hin
    rw [hinside] at hin
    exact hknows hin (h.knows id s ha.before hin) hvetted
  · rintro ⟨user, ht⟩
    rw [hinside]
    exact h.duties id s ha.before ⟨user, htakes user ht⟩
  · exact fun user group hp =>
      hnames .group group Kind.noConfusion (h.backed user group (hpairs hp))
  · exact fun user group hp => ha.covered (fun hv => .inl (hvetted user hv))
      (fun ht => .inr ⟨id, s', ha.self, hcovers user group hp ht⟩)
      (h.covered user group (hpairs hp))

end Acts

/-! ## Calls -/

section Calls

variable {v : View} {id : Nat} {s : Stance} {origin : Origin}

/-- The answer to a call is what the view says it is. -/
def Tells (v : View) : (call : Call) → call.Reply → Prop
  | .enter .group, .ok () => v.holder = none
  | .storage (.memberships user), reply => reply = .ok (Storage.urns (v.pairs.groupsOf user.text))
  | .storage call, reply => v.names.Tell call reply
  | _, _ => True

theorem acts_after (hs : v.stance id = some s) (call : Call) (reply : call.Reply) :
    Acts v (v.after id s call reply) id s (s.after call reply) := ⟨hs, fun _ => rfl⟩

/-- Most calls are only made without a duty. -/
theorem mayCall_of_permits {call : Call} (hp : s.permits origin call)
    (hannounce : ∀ user, call ≠ .announce user) (henter : call ≠ .enter .group)
    (hask : ∀ user, call ≠ .storage (.memberships user))
    (hpart : ∀ user group, call ≠ .storage (.part user group)) :
    s.duty = .none ∧ s.mayCall call := by
  unfold Stance.permits at hp
  split at hp
  · exact ⟨‹_›, hp⟩
  · obtain ⟨user, rfl, -⟩ := hp
    exact absurd rfl (hannounce user)
  · exact absurd hp.2 henter
  · obtain ⟨-, user, rfl, -⟩ := hp
    exact absurd rfl (hask user)
  · obtain ⟨-, user, group, rfl, -⟩ := hp
    exact absurd rfl (hpart user group)

/-- Entering the gate turns what is due into what is being done. -/
theorem Good.after_enter (h : v.Good) (hs : v.stance id = some s)
    (hp : s.permits origin (.enter .group)) (hfree : v.holder = none) :
    (v.after id s (.enter .group) (.ok ())).Good := by
  have ha := acts_after hs (.enter .group) (.ok ())
  have hnone : ∀ j, v.holder ≠ some j := fun j hj => by
    rw [hfree] at hj
    cases hj
  -- the gate was free: no other task relies on anything, and this one forgets what it knew
  refine h.act ha (iff_of_true rfl rfl) (fun j hj => ?_) (fun j _ hj => absurd hj (hnone j))
    (fun _ => ⟨by simp [Stance.after, Stance.learn], by simp [Stance.after, Stance.learn],
      by simp [Stance.after, Stance.learn]⟩) (fun _ => rfl) h.backed ?_
  · exact iff_of_false (fun hid => hj (Option.some.inj hid).symm) (hnone j)
  · refine fun user group hpair => ha.covered ?_ ?_ (h.covered user group hpair)
    · rintro (hname | hann | ⟨j, t, ht, hsub, hd⟩)
      · exact .inl (.inl hname)
      · exact .inl (.inr (.inl hann))
      · by_cases hj : j = id
        · subst hj
          rw [hs] at ht
          obtain rfl := Option.some.inj ht
          refine .inr ⟨j, _, ha.self, hsub, .inl ?_⟩
          rcases hd with hd | hd
          · unfold Stance.permits at hp
            rw [hd] at hp
            obtain ⟨_, hcall, -⟩ := hp
            cases hcall
          · show s.duty.entered = .ask
            rw [hd]
            rfl
        · exact .inl (.inr (.inr ⟨j, t, (ha.other hj).trans ht, hsub, hd⟩))
    · exact fun htakes => absurd ((h.inside id s hs).1 (h.duties id s hs ⟨user, group, htakes⟩))
        (hnone id)

theorem Good.after_leave (h : v.Good) (hs : v.stance id = some s)
    (hp : s.permits origin (.leave .group)) : (v.after id s (.leave .group) ()).Good := by
  obtain ⟨hduty, hin⟩ := mayCall_of_permits hp (by simp) (by simp) (by simp) (by simp)
  have hid : v.holder = some id := (h.inside id s hs).1 hin
  have ha := acts_after hs (.leave .group) ()
  have hother : ∀ j, j ≠ id → v.holder ≠ some j := fun j hj hh =>
    hj (Option.some.inj (hh.symm.trans hid))
  -- nobody is inside any more, so nobody relies on what it knows
  refine h.act ha (iff_of_false Bool.noConfusion (by rintro ⟨⟩))
    (fun j hj => iff_of_false (by rintro ⟨⟩) (hother j hj))
    (fun j hj hh => absurd hh (hother j hj)) (fun hh => Bool.noConfusion hh) ?_ h.backed ?_
  · rintro ⟨user, group, htakes⟩
    exact absurd htakes (Stance.not_takesOut (.inl hduty))
  · refine fun user group hpair => ha.covered (fun hv => .inl ?_) ?_ (h.covered user group hpair)
    · exact ha.vetted (fun hn => hn) (fun hu => hu) (fun hd => .inr ⟨_, _, ha.self, hd⟩) hv
    · exact fun htakes => absurd htakes (Stance.not_takesOut (.inl hduty))

/-- Inside the gate a user that is vetted joins a group that is there. -/
theorem Good.after_join (h : v.Good) (hs : v.stance id = some s) {user : Urn .user}
    {group : Urn .group} (hp : s.permits origin (.storage (.join user group)))
    (reply : Answer Unit) : (v.after id s (.storage (.join user group)) reply).Good := by
  obtain ⟨hduty, hin, hvetted, hpresent⟩ :=
    mayCall_of_permits hp (by simp) (by simp) (by simp) (by simp)
  have hknows := h.knows id s hs hin
  have ha := acts_after hs (.storage (.join user group)) reply
  have hid : v.holder = some id := (h.inside id s hs).1 hin
  have hmem : ∀ u g, (u, g) ∈ (v.after id s (.storage (.join user group)) reply).pairs →
      u = user.text ∧ g = group.text ∨ (u, g) ∈ v.pairs := fun u g hpair => by
    simpa [View.after, Relation.after] using hpair
  have hkeeps : ∀ u, v.Vetted u → (v.after id s (.storage (.join user group)) reply).Vetted u :=
    fun u => ha.vetted (fun hn => hn) (fun hu => hu) fun hd => .inr ⟨_, _, ha.self, hd⟩
  -- no other task is inside the gate, where the new membership could belie what it knows
  refine h.act ha (h.inside id s hs) (fun _ _ => .rfl)
    (fun j hj hh => absurd (Option.some.inj (hh.symm.trans hid)) hj) (fun _ => ⟨hknows.present,
      fun u hu => hkeeps u (hknows.vetted u hu), fun g hg u hpair => ?_⟩) (h.duties id s hs) ?_ ?_
  · obtain ⟨hg, hne⟩ := List.mem_filter.1 hg
    rcases hmem u g hpair with ⟨-, rfl⟩ | hpair
    · simp at hne
    · exact hknows.vacant g hg u hpair
  · intro u g hpair
    rcases hmem u g hpair with ⟨-, rfl⟩ | hpair
    · exact hknows.present _ hpresent
    · exact h.backed u g hpair
  · intro u g hpair
    rcases hmem u g hpair with ⟨rfl, -⟩ | hpair
    · exact .inl (hkeeps _ (hknows.vetted _ hvetted))
    · exact ha.covered (fun hv => .inl (hkeeps u hv)) (fun ht => .inr ⟨_, _, ha.self, ht⟩)
        (h.covered u g hpair)

/-- A group without members is erased from inside the gate. -/
theorem Good.after_eraseGroup (h : v.Good) (hs : v.stance id = some s) {group : Urn .group}
    (hp : s.permits origin (.storage (.erase .group group))) :
    (v.after id s (.storage (.erase .group group)) (.ok ())).Good := by
  obtain ⟨hduty, hin, hvacant⟩ := mayCall_of_permits hp (by simp) (by simp) (by simp) (by simp)
  have hknows := h.knows id s hs hin
  have ha := acts_after hs (.storage (.erase .group group)) (.ok ())
  have hid : v.holder = some id := (h.inside id s hs).1 hin
  have hkeeps : ∀ u, v.Vetted u →
      (v.after id s (.storage (.erase .group group)) (.ok ())).Vetted u := fun u =>
    ha.vetted (fun hn => ⟨hn, by simp⟩) (fun hu => hu) fun hd => .inr ⟨_, _, ha.self, hd⟩
  refine h.act ha (h.inside id s hs) (fun _ _ => .rfl)
    (fun j hj hh => absurd (Option.some.inj (hh.symm.trans hid)) hj) (fun _ => ⟨fun g hg => ?_,
      fun u hu => hkeeps u (hknows.vetted u hu), hknows.vacant⟩) (h.duties id s hs) ?_ ?_
  · obtain ⟨hg, hne⟩ := List.mem_filter.1 hg
    exact ⟨hknows.present g hg, fun hsame => of_decide_eq_true hne hsame.2⟩
  · refine fun u g hpair => ⟨h.backed u g hpair, ?_⟩
    rintro ⟨-, rfl⟩
    exact hknows.vacant _ hvacant u hpair
  · exact fun u g hpair => ha.covered (fun hv => .inl (hkeeps u hv))
      (fun ht => .inr ⟨_, _, ha.self, ht⟩) (h.covered u g hpair)

/-- Who erases a user owes it to announce that. -/
theorem Good.after_eraseUser (h : v.Good) (hs : v.stance id = some s) {user : Urn .user}
    (hp : s.permits origin (.storage (.erase .user user))) :
    (v.after id s (.storage (.erase .user user)) (.ok ())).Good := by
  obtain ⟨hduty, hsubject⟩ := mayCall_of_permits hp (by simp) (by simp) (by simp) (by simp)
  have ha := acts_after hs (.storage (.erase .user user)) (.ok ())
  have hkeeps : ∀ u, v.Vetted u →
      (v.after id s (.storage (.erase .user user)) (.ok ())).Vetted u := by
    -- the user has lost its record, but the task owes from now on that it leaves its groups
    rintro u (hn | hd)
    · by_cases hu : u = user.text
      · exact .inr (.inr ⟨_, _, ha.self, hu ▸ hsubject, .inl rfl⟩)
      · exact .inl ⟨hn, fun hsame => hu hsame.2⟩
    · refine .inr (ha.due (fun hu => hu) (fun hd => ?_) hd)
      exact .inr ⟨_, _, ha.self, hd.1, .inl rfl⟩
  have hgroups : ∀ g, v.names .group g →
      (v.after id s (.storage (.erase .user user)) (.ok ())).names .group g :=
    fun g hg => ⟨hg, by simp⟩
  refine h.act ha (h.inside id s hs) (fun _ _ => .rfl)
    (fun _ _ _ => ⟨hgroups, hkeeps, fun _ hp => hp⟩) (fun hin => ?_) ?_
    (fun u g hpair => hgroups g (h.backed u g hpair)) ?_
  · have hknows := h.knows id s hs hin
    exact ⟨fun g hg => hgroups g (hknows.present g hg), fun u hu => hkeeps u (hknows.vetted u hu),
      hknows.vacant⟩
  · rintro ⟨u, g, htakes⟩
    exact absurd htakes (Stance.not_takesOut (.inr (.inl rfl)))
  · exact fun u g hpair => ha.covered (fun hv => .inl (hkeeps u hv))
      (fun ht => absurd ht (Stance.not_takesOut (.inl hduty))) (h.covered u g hpair)

/-- The notice takes over what was due from who announces it. -/
theorem Good.after_announce (h : v.Good) (hs : v.stance id = some s) {user : Urn .user}
    (hp : s.permits origin (.announce user)) : (v.after id s (.announce user) ()).Good := by
  have ha := acts_after hs (.announce user) ()
  have hnotakes : ∀ u g, ¬ s.TakesOut u g := fun u g ⟨_, hd⟩ => by
    -- inside the gate other calls have to be made before anything is announced
    unfold Stance.permits at hp
    rcases hd with hd | ⟨_, hd, -⟩ <;> rw [hd] at hp
    · obtain ⟨-, _, hcall, -⟩ := hp
      cases hcall
    · obtain ⟨-, _, _, hcall, -⟩ := hp
      cases hcall
  have hdue : ∀ u, v.Due u → (v.after id s (.announce user) ()).Due u := fun u => by
    refine ha.due .inr fun ⟨hsub, hd⟩ => .inl (.inl ?_)
    unfold Stance.permits at hp
    rcases hd with hd | hd <;> rw [hd] at hp
    · obtain ⟨_, ⟨⟩, huser⟩ := hp
      exact Option.some.inj (hsub.symm.trans huser)
    · obtain ⟨-, hcall⟩ := hp
      cases hcall
  have hkeeps : ∀ u, v.Vetted u → (v.after id s (.announce user) ()).Vetted u :=
    fun u => Or.imp_right (hdue u)
  refine h.act ha (h.inside id s hs) (fun _ _ => .rfl)
    (fun _ _ _ => ⟨fun _ hg => hg, hkeeps, fun _ hp => hp⟩) (fun hin => ?_) ?_ h.backed ?_
  · have hknows := h.knows id s hs hin
    exact ⟨hknows.present, fun u hu => hkeeps u (hknows.vetted u hu), hknows.vacant⟩
  · rintro ⟨u, g, htakes⟩
    exact absurd htakes (Stance.not_takesOut (.inl rfl))
  · exact fun u g hpair => ha.covered (fun hv => .inl (hkeeps u hv))
      (fun ht => absurd ht (hnotakes u g)) (h.covered u g hpair)

theorem takesOut_ofGroups {groups : List String} {user group : String} :
    (s.subject = some user ∧ (Duty.ofGroups groups = .ask ∨ ∃ found,
      Duty.ofGroups groups = .takeOut found ∧ group ∈ found)) ↔
      s.subject = some user ∧ group ∈ groups := by
  cases groups <;> simp [Duty.ofGroups]

/-- Whoever has asked knows all groups that the user has to be taken out of. -/
theorem Good.after_memberships (h : v.Good) (hs : v.stance id = some s) {user : Urn .user}
    (hp : s.permits origin (.storage (.memberships user))) :
    (v.after id s (.storage (.memberships user))
      (.ok (Storage.urns (v.pairs.groupsOf user.text)))).Good := by
  have ha := acts_after hs (.storage (.memberships user))
    (.ok (Storage.urns (v.pairs.groupsOf user.text)))
  have hduty : (s.after (.storage (.memberships user))
      (.ok (Storage.urns (v.pairs.groupsOf user.text)))).duty =
      s.duty.told (v.pairs.groupsOf user.text) := by
    show s.duty.told (List.map Urn.text (List.map Urn.mk _)) = _
    rw [List.map_map]
    exact congrArg (Duty.told · s.duty) (List.map_id _)
  refine h.learns ha rfl rfl rfl (fun _ _ _ hn => hn) (fun _ hp => hp) ?_ ?_ ?_
    fun _ hk hv => ⟨hk.present, fun u hu => hv u (hk.vetted u hu), hk.vacant⟩
  · rintro u ⟨hsubject, hd⟩
    refine ⟨hsubject, ?_⟩
    rw [hduty]
    rcases hd with hd | hd <;> simp [hd, Duty.told]
  · rintro u ⟨g, hsubject, hd⟩
    rw [hduty] at hd
    cases hask : s.duty with
    | ask => exact ⟨g, hsubject, .inl hask⟩
    | _ =>
      rw [hask] at hd
      exact ⟨g, hsubject, by rw [hask]; exact hd⟩
  · rintro u g hpair ⟨hsubject, hd⟩
    refine ⟨hsubject, ?_⟩
    rw [hduty]
    unfold Stance.permits at hp
    rcases hd with hd | ⟨groups, hd, hg⟩ <;> rw [hd] at hp ⊢
    · obtain ⟨-, _, ⟨⟩, huser⟩ := hp
      obtain rfl := Option.some.inj (hsubject.symm.trans huser)
      exact (takesOut_ofGroups.2 ⟨hsubject, Relation.mem_groupsOf.2 hpair⟩).2
    · exact .inr ⟨groups, rfl, hg⟩

theorem Good.after_part (h : v.Good) (hs : v.stance id = some s) {user : Urn .user}
    {group : Urn .group} (hp : s.permits origin (.storage (.part user group)))
    (reply : Answer Unit) : (v.after id s (.storage (.part user group)) reply).Good := by
  have ha := acts_after hs (.storage (.part user group)) reply
  have hpairs : ∀ u g, (u, g) ∈ (v.after id s (.storage (.part user group)) reply).pairs →
      ¬(u = user.text ∧ g = group.text) ∧ (u, g) ∈ v.pairs := fun u g hpair => by
    simpa [View.after, Relation.after] using hpair
  have hduty : (s.after (.storage (.part user group)) reply).duty = s.duty.parted group.text := rfl
  refine h.learns ha rfl rfl rfl (fun _ _ _ hn => hn) (fun p hp => (hpairs p.1 p.2 hp).2) ?_ ?_ ?_
    fun _ hk hv => ⟨hk.present, fun u hu => hv u (hk.vetted u hu),
      fun g hg u hpair => hk.vacant g hg u (hpairs u g hpair).2⟩
  · rintro u ⟨hsubject, hd⟩
    refine ⟨hsubject, ?_⟩
    rw [hduty]
    rcases hd with hd | hd <;> simp [hd, Duty.parted]
  · rintro u ⟨g, hsubject, hd⟩
    rw [hduty] at hd
    cases htake : s.duty with
    | takeOut groups =>
      rw [htake] at hd
      obtain ⟨-, hg⟩ := takesOut_ofGroups.1 ⟨hsubject, hd⟩
      exact ⟨g, hsubject, .inr ⟨groups, htake, (List.mem_filter.1 hg).1⟩⟩
    | _ =>
      rw [htake] at hd
      exact ⟨g, hsubject, by rw [htake]; exact hd⟩
  · rintro u g hpair ⟨hsubject, hd⟩
    refine ⟨hsubject, ?_⟩
    rw [hduty]
    unfold Stance.permits at hp
    rcases hd with hd | ⟨groups, hd, hg⟩ <;> rw [hd] at hp ⊢
    · exact .inl rfl
    · obtain ⟨-, _, _, ⟨⟩, huser⟩ := hp
      obtain rfl := Option.some.inj (hsubject.symm.trans huser)
      have hne : g ≠ group.text := fun hg => (hpairs _ _ hpair).1 ⟨rfl, hg⟩
      exact (takesOut_ofGroups.2 ⟨hsubject, List.mem_filter.2 ⟨hg, by simpa using hne⟩⟩).2

/-- A call from which nothing follows for what is due: the task only learns something. -/
theorem Good.after_quiet (h : v.Good) (hs : v.stance id = some s) {call : Call}
    {reply : call.Reply} (hsubject : (s.after call reply).subject = s.subject)
    (hduty : (s.after call reply).duty = s.duty)
    (hinside : (s.after call reply).inside = s.inside)
    (hholder : (v.after id s call reply).holder = v.holder)
    (hannounced : (v.after id s call reply).announced = v.announced)
    (hnames : ∀ k name, k ≠ .policy → v.names k name → (v.after id s call reply).names k name)
    (hpairs : (v.after id s call reply).pairs ⊆ v.pairs)
    (hknows : s.inside = true → v.Knows s →
      (∀ user, v.Vetted user → (v.after id s call reply).Vetted user) →
      (v.after id s call reply).Knows (s.after call reply)) : (v.after id s call reply).Good := by
  have hsame : ∀ user group, (s.after call reply).TakesOut user group ↔ s.TakesOut user group :=
    fun user group => by unfold Stance.TakesOut; rw [hsubject, hduty]
  refine h.learns (acts_after hs call reply) hinside hholder hannounced hnames hpairs ?_ ?_ ?_
    hknows
  · rintro user ⟨hs, hd⟩
    exact ⟨hsubject ▸ hs, hduty ▸ hd⟩
  · exact fun user ⟨group, ht⟩ => ⟨group, (hsame user group).1 ht⟩
  · exact fun user group _ ht => (hsame user group).2 ht

/-- A call from which nothing follows at all. -/
theorem Good.after_idle (h : v.Good) (hs : v.stance id = some s) {call : Call}
    {reply : call.Reply} (hlearn : s.learn call reply = s)
    (hinside : (v.after id s call reply).holder = v.holder)
    (hannounced : (v.after id s call reply).announced = v.announced)
    (hnames : ∀ k name, k ≠ .policy → v.names k name → (v.after id s call reply).names k name)
    (hpairs : (v.after id s call reply).pairs = v.pairs) : (v.after id s call reply).Good := by
  have hafter : ∃ left, s.after call reply = { s with left } := by
    unfold Stance.after
    rw [hlearn]
    exact ⟨_, rfl⟩
  obtain ⟨left, hafter⟩ := hafter
  refine h.after_quiet hs (hafter ▸ rfl) (hafter ▸ rfl) (hafter ▸ rfl) hinside hannounced hnames
    (hpairs ▸ fun _ hp => hp) fun _ hk hv => ?_
  rw [hafter]
  exact ⟨fun g hg => hnames .group g Kind.noConfusion (hk.present g hg),
    fun u hu => hv u (hk.vetted u hu), fun g hg u => hpairs ▸ hk.vacant g hg u⟩

theorem Good.after_load (h : v.Good) (hs : v.stance id = some s) (k : Kind) (urn : Urn k)
    (reply : Answer (Record k)) (ht : v.names.Tell (.load k urn) reply) :
    (v.after id s (.storage (.load k urn)) reply).Good := by
  cases k with
  | policy =>
    cases reply <;> exact h.after_idle hs rfl rfl rfl (fun _ _ _ hn => hn) rfl
  | user =>
    cases reply with
    | error failure => exact h.after_idle hs rfl rfl rfl (fun _ _ _ hn => hn) rfl
    | ok record =>
      refine h.after_quiet hs rfl rfl rfl rfl rfl (fun _ _ _ hn => hn) (fun _ hp => hp)
        fun _ hk hv => ⟨hk.present, fun u hu => ?_, hk.vacant⟩
      rcases List.mem_cons.1 hu with rfl | hu
      · exact .inl ht
      · exact hv u (hk.vetted u hu)
  | group =>
    cases reply with
    | ok record =>
      refine h.after_quiet hs rfl rfl rfl rfl rfl (fun _ _ _ hn => hn) (fun _ hp => hp)
        fun _ hk hv => ⟨fun g hg => ?_, fun u hu => hv u (hk.vetted u hu), hk.vacant⟩
      rcases List.mem_cons.1 hg with rfl | hg
      · exact ht
      · exact hk.present g hg
    | error failure =>
      refine h.after_quiet hs rfl rfl rfl rfl rfl (fun _ _ _ hn => hn) (fun _ hp => hp)
        fun _ hk hv => ⟨hk.present, fun u hu => hv u (hk.vetted u hu), fun g hg u hpair => ?_⟩
      have hg : g ∈ if failure.isNotFound then urn.text :: s.vacant else s.vacant := hg
      split at hg
      · rcases List.mem_cons.1 hg with rfl | hg
        -- members would have kept the record of their group
        · exact ht ‹_› (h.backed u _ hpair)
        · exact hk.vacant g hg u hpair
      · exact hk.vacant g hg u hpair

theorem Good.after_store (h : v.Good) (hs : v.stance id = some s) (k : Kind) (record : Record k)
    (reply : Answer Unit) : (v.after id s (.storage (.store k record)) reply).Good := by
  cases reply with
  | error failure => cases k <;> exact h.after_idle hs rfl rfl rfl (fun _ _ _ hn => hn) rfl
  | ok _ =>
    cases k with
    | group =>
      refine h.after_quiet hs rfl rfl rfl rfl rfl (fun _ _ _ => .inr) (fun _ hp => hp)
        fun _ hk hv => ⟨fun g hg => ?_, fun u hu => hv u (hk.vetted u hu), hk.vacant⟩
      rcases List.mem_cons.1 hg with rfl | hg
      · exact .inl ⟨rfl, rfl⟩
      · exact .inr (hk.present g hg)
    | user => exact h.after_idle hs rfl rfl rfl (fun _ _ _ => .inr) rfl
    | policy => exact h.after_idle hs rfl rfl rfl (fun _ _ _ => .inr) rfl

theorem Good.after_erase (h : v.Good) (hs : v.stance id = some s) (k : Kind) (urn : Urn k)
    (reply : Answer Unit) (hp : s.permits origin (.storage (.erase k urn))) :
    (v.after id s (.storage (.erase k urn)) reply).Good := by
  cases reply with
  | error failure => cases k <;> exact h.after_idle hs rfl rfl rfl (fun _ _ _ hn => hn) rfl
  | ok _ =>
    cases k with
    | user => exact h.after_eraseUser hs hp
    | group => exact h.after_eraseGroup hs hp
    | policy =>
      exact h.after_idle hs rfl rfl rfl (fun _ _ hk hn => ⟨hn, fun hsame => hk hsame.1⟩) rfl

theorem Good.after_disband (h : v.Good) (hs : v.stance id = some s) (group : Urn .group)
    (reply : Answer (List (Urn .user))) :
    (v.after id s (.storage (.disband group)) reply).Good := by
  have hpairs : ∀ u g, (u, g) ∈ (v.after id s (.storage (.disband group)) reply).pairs →
      (u, g) ∈ v.pairs ∧ g ≠ group.text := fun u g hpair => by
    simpa [View.after, Relation.after] using hpair
  cases reply with
  | error failure =>
    exact h.after_quiet hs rfl rfl rfl rfl rfl (fun _ _ _ hn => hn)
      (fun p hp => (hpairs p.1 p.2 hp).1) fun _ hk hv => ⟨hk.present,
        fun u hu => hv u (hk.vetted u hu),
        fun g hg u hpair => hk.vacant g hg u (hpairs u g hpair).1⟩
  | ok users =>
    refine h.after_quiet hs rfl rfl rfl rfl rfl (fun _ _ _ hn => hn)
      (fun p hp => (hpairs p.1 p.2 hp).1) fun _ hk hv =>
        ⟨hk.present, fun u hu => hv u (hk.vetted u hu), fun g hg u hpair => ?_⟩
    rcases List.mem_cons.1 hg with rfl | hg
    · exact (hpairs u _ hpair).2 rfl
    · exact hk.vacant g hg u (hpairs u g hpair).1

theorem Good.after_storage (h : v.Good) (hs : v.stance id = some s) (call : Storage.Call)
    (reply : Answer call.Reply) (hp : s.permits origin (.storage call))
    (ht : v.Tells (.storage call) reply) : (v.after id s (.storage call) reply).Good := by
  cases call with
  | load k urn => exact h.after_load hs k urn reply ht
  | store k record => exact h.after_store hs k record reply
  | erase k urn => exact h.after_erase hs k urn reply hp
  | list k => exact h.after_idle hs rfl rfl rfl (fun _ _ _ hn => hn) rfl
  | join user group => exact h.after_join hs hp reply
  | part user group => exact h.after_part hs hp reply
  | disband group => exact h.after_disband hs group reply
  | memberships user =>
    obtain rfl : reply = _ := ht
    exact h.after_memberships hs hp
  | members group => exact h.after_idle hs rfl rfl rfl (fun _ _ _ hn => hn) rfl

/-- A permitted call keeps a view good. -/
theorem Good.after (h : v.Good) (hs : v.stance id = some s) {call : Call} {reply : call.Reply}
    (hp : s.permits origin call) (ht : v.Tells call reply) : (v.after id s call reply).Good := by
  cases call with
  | enter gate =>
    cases gate with
    | group =>
      cases reply with
      | ok _ => exact h.after_enter hs hp ht
      | error failure => exact h.after_idle hs rfl rfl rfl (fun _ _ _ hn => hn) rfl
    | _ => cases reply <;> exact h.after_idle hs rfl rfl rfl (fun _ _ _ hn => hn) rfl
  | leave gate =>
    cases gate with
    | group => exact h.after_leave hs hp
    | _ => exact h.after_idle hs rfl rfl rfl (fun _ _ _ hn => hn) rfl
  | storage call => exact h.after_storage hs call reply hp ht
  | accounts call => exact h.after_idle hs rfl rfl rfl (fun _ _ _ hn => hn) rfl
  | decide policies request => exact h.after_idle hs rfl rfl rfl (fun _ _ _ hn => hn) rfl
  | announce user => exact h.after_announce hs hp

end Calls

/-! ## Tasks that come and go -/

section Tasks

variable {v : View} {id : Nat} {s : Stance}

/-- The view with a task that has begun, and with what is announced then. -/
def began (v : View) (id : Nat) (s : Stance) (announced : String → Prop) : View :=
  { v with announced, stance := fun j => if j = id then some s else v.stance j }

/-- The view without a task, which lets go of the gate. -/
def vanished (v : View) (id : Nat) : View :=
  { v with
    holder := if v.holder = some id then none else v.holder
    stance := fun j => if j = id then none else v.stance j }

/-- A task begins that owes nothing yet but perhaps to end a user, for whom nobody else needs to do
so any longer. -/
theorem Good.begins (h : v.Good) (hid : v.stance id = none) (hinside : s.inside = false)
    (hduty : s.duty = .none ∨ s.duty = .enter) {announced : String → Prop}
    (hann : ∀ user, v.announced user → announced user ∨ s.Due user) :
    (v.began id s announced).Good := by
  have hself : (if id = id then some s else v.stance id) = some s := if_pos rfl
  have hother : ∀ {j t}, v.stance j = some t →
      (if j = id then some s else v.stance j) = some t := fun {j t} ht => by
    rw [if_neg fun hj => ?_, ht]
    rw [hj, hid] at ht
    cases ht
  have hcases : ∀ {j t}, (if j = id then some s else v.stance j) = some t →
      (j = id ∧ t = s) ∨ v.stance j = some t := fun {j t} ht => by
    split at ht
    · exact .inl ⟨‹_›, (Option.some.inj ht).symm⟩
    · exact .inr ht
  have hnotin : v.holder ≠ some id := fun hh => by
    obtain ⟨t, ht⟩ := h.held id hh
    rw [hid] at ht
    cases ht
  have hdue : ∀ user, v.Due user → (v.began id s announced).Due user := by
    rintro user (hu | ⟨j, t, ht, hd⟩)
    · exact (hann user hu).imp (fun hu => hu) fun hd => ⟨id, s, hself, hd⟩
    · exact .inr ⟨j, t, hother ht, hd⟩
  refine ⟨fun j t ht => ?_, fun j hj => ?_, fun j t ht hin => ?_, fun j t ht htakes => ?_,
    h.backed, fun user group hp => ?_⟩
  · rcases hcases ht with ⟨rfl, rfl⟩ | ht
    · exact iff_of_false (by simp [hinside]) hnotin
    · exact h.inside j t ht
  · obtain ⟨t, ht⟩ := h.held j hj
    exact ⟨t, hother ht⟩
  · rcases hcases ht with ⟨-, rfl⟩ | ht
    · rw [hinside] at hin
      cases hin
    · have hk := h.knows j t ht hin
      exact ⟨hk.present, fun user hu => (hk.vetted user hu).imp_right (hdue user), hk.vacant⟩
  · rcases hcases ht with ⟨-, rfl⟩ | ht
    · obtain ⟨user, group, htakes⟩ := htakes
      exact absurd htakes (Stance.not_takesOut (hduty.imp_right .inr))
    · exact h.duties j t ht htakes
  · rcases h.covered user group hp with hv | ⟨j, t, ht, htakes⟩
    · exact .inl (hv.imp_right (hdue user))
    · exact .inr ⟨j, t, hother ht, htakes⟩

/-- A task without a duty may vanish. -/
theorem Good.vanishes (h : v.Good) (hs : v.stance id = some s) (hduty : s.duty = .none) :
    (v.vanished id).Good := by
  have hcases : ∀ {j t}, (if j = id then none else v.stance j) = some t →
      j ≠ id ∧ v.stance j = some t := fun {j t} ht => by
    split at ht
    · cases ht
    · exact ⟨‹_›, ht⟩
  -- the task that vanishes is none of those on which something depends
  have hother : ∀ {j t}, v.stance j = some t → t.duty ≠ .none →
      (if j = id then none else v.stance j) = some t := fun {j t} ht hd => by
    rw [if_neg fun hj => ?_, ht]
    rw [hj, hs] at ht
    exact hd (Option.some.inj ht ▸ hduty)
  have hholder : ∀ j, j ≠ id →
      ((if v.holder = some id then none else v.holder) = some j ↔ v.holder = some j) := by
    intro j hj
    split
    · rename_i hid
      rw [hid]
      exact iff_of_false nofun fun hh => hj (Option.some.inj hh).symm
    · exact .rfl
  have hdue : ∀ user, v.Due user → (v.vanished id).Due user := by
    rintro user (hu | ⟨j, t, ht, hd⟩)
    · exact .inl hu
    · exact .inr ⟨j, t, hother ht hd.duty_ne, hd⟩
  refine ⟨fun j t ht => ?_, fun j hj => ?_, fun j t ht hin => ?_, fun j t ht => ?_, h.backed,
    fun user group hp => ?_⟩
  · obtain ⟨hj, ht⟩ := hcases ht
    exact (h.inside j t ht).trans (hholder j hj).symm
  · have hj : (if v.holder = some id then none else v.holder) = some j := hj
    split at hj
    · cases hj
    · rename_i hne
      obtain ⟨t, ht⟩ := h.held j hj
      exact ⟨t, (if_neg fun (hji : j = id) => hne (hji ▸ hj)).trans ht⟩
  · have hk := h.knows j t (hcases ht).2 hin
    exact ⟨hk.present, fun user hu => (hk.vetted user hu).imp_right (hdue user), hk.vacant⟩
  · exact h.duties j t (hcases ht).2
  · rcases h.covered user group hp with hv | ⟨j, t, ht, htakes⟩
    · exact .inl (hv.imp_right (hdue user))
    · exact .inr ⟨j, t, hother ht htakes.duty_ne, htakes⟩

/-- A call to the storage that its caller has given up tells nothing and changes nothing. -/
theorem Good.after_refused (h : v.Good) (hs : v.stance id = some s) (call : Storage.Call)
    (hp : s.permits .caller (.storage call)) :
    (v.began id (s.after (.storage call) (.error .cancelled)) v.announced).Good := by
  -- after joining, a group is not known to be vacant, whatever has been answered
  have hafter : ∃ vacant, s.after (.storage call) (.error .cancelled) =
      { s with vacant, left := false } ∧ vacant ⊆ s.vacant := by
    cases call with
    | load k urn => cases k <;> exact ⟨s.vacant, rfl, fun _ hg => hg⟩
    | store k record => cases k <;> exact ⟨s.vacant, rfl, fun _ hg => hg⟩
    | erase k urn => cases k <;> exact ⟨s.vacant, rfl, fun _ hg => hg⟩
    | join user group => exact ⟨_, rfl, fun _ hg => (List.mem_filter.1 hg).1⟩
    | part user group =>
      have hparted : s.duty.parted group.text = s.duty := by
        cases hd : s.duty with
        | takeOut groups =>
          unfold Stance.permits at hp
          rw [hd] at hp
          cases hp.1
        | _ => rfl
      refine ⟨s.vacant, ?_, fun _ hg => hg⟩
      show { s with duty := s.duty.parted group.text, left := false } = _
      rw [hparted]
    | _ => exact ⟨s.vacant, rfl, fun _ hg => hg⟩
  obtain ⟨vacant, hafter, hvacant⟩ := hafter
  rw [hafter]
  have ha : Acts v (v.began id { s with vacant, left := false } v.announced) id s
      { s with vacant, left := false } := ⟨hs, fun _ => rfl⟩
  exact h.learns ha rfl rfl rfl (fun _ _ _ hn => hn) (fun _ hp => hp) (fun _ hd => hd)
    (fun _ ht => ht) (fun _ _ _ ht => ht)
    fun _ hk hv => ⟨hk.present, fun u hu => hv u (hk.vetted u hu),
      fun g hg => hk.vacant g (hvacant hg)⟩

end Tasks

end View

end AccessControl
