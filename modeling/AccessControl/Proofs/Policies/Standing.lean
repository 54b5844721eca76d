/-
Which policies decide. What has been asked of the service of policies, and what it answered, tells
which policies stand: those that were written with success and not deleted since, each with the body
that it was given last. Main statements: a storage of either kind keeps just the policies that stand
(`Stands.follow`), so that every decision is that of the policies that stand at that moment, in the
order of their names, whatever has been decided before (`heeds_attend`).
-/
import AccessControl.Proofs.Decision
import AccessControl.Proofs.Realm.Run
import AccessControl.Proofs.Storage.Interchange
import AccessControl.Proofs.Storage.Refinement
import AccessControl.Service.Authority
import AccessControl.Service.Policies
import Mathlib.Data.List.Induction

namespace AccessControl.Policies

open Storage (Backend Medium Memory)

/-! ## Histories -/

/-- What is asked, one after the other: the service of policies to change one, or a decision by the
policies that are stored. -/
inductive Request
  | create (name : String) (policy : Policy)
  | update (id : Urn .policy) (policy : Policy)
  | delete (id : Urn .policy)
  | decide (request : AccessRequest)

namespace Request

/-- What is answered to a request that does not fail. -/
def Reply : Request → Type
  | create _ _ => Urn .policy
  | update _ _ | delete _ => Unit
  | decide _ => Decision

def program : (request : Request) → Program (Answer request.Reply)
  | create name policy => (Policies.create name policy).run
  | update id policy => (Policies.update id policy).run
  | delete id => (Policies.delete id).run
  | decide request => Authority.decide request

/-- The record that a request is to store. -/
def record : Request → Option Policy
  | create name policy => some { policy with id := .ofLocal .policy name }
  | update id policy => some { policy with id }
  | delete _ | decide _ => none

end Request

/-- A request and what was answered to it. -/
abbrev Event := Σ request : Request, Answer request.Reply

/-- What has happened, the latest event first. -/
abbrev History := List Event

/-- What an event has made of a name: the policy that was written under it, or none if it was
deleted. -/
def Event.change : Event → Option (Urn .policy × Option Policy)
  | ⟨.create _ policy, .ok id⟩ => some (id, some policy)
  | ⟨.update id policy, .ok _⟩ => some (id, some policy)
  | ⟨.delete id, .ok _⟩ => some (id, none)
  | _ => none

/-- The policy that was written last under a name, unless it has been deleted since. -/
def History.standing (past : History) (id : Urn .policy) : Option Policy :=
  ((past.filterMap Event.change).lookup id).join

/-- A history and a realm go on with one request more, whose caller has given up or not. -/
def follow (before : History × Realm) (asked : Bool × Request) : History × Realm :=
  (⟨asked.2, (before.2.run asked.1 asked.2.program).1⟩ :: before.1,
    (before.2.run asked.1 asked.2.program).2)

/-- What has happened, and what the realm has become, after one request after the other. -/
def attend (s : Realm) (asked : List (Bool × Request)) : History × Realm :=
  asked.foldl follow ([], s)

variable {past : History} {event : Event} {s t : Realm} {m : Memory} {medium : Medium}

theorem standing_cons_none (h : event.change = none) (id : Urn .policy) :
    History.standing (event :: past) id = past.standing id := by
  unfold History.standing
  rw [List.filterMap_cons_none h]

theorem standing_cons_some {id : Urn .policy} {made : Option Policy}
    (h : event.change = some (id, made)) (other : Urn .policy) :
    History.standing (event :: past) other =
      if other = id then made else past.standing other := by
  unfold History.standing
  rw [List.filterMap_cons_some h, List.lookup_cons]
  by_cases hother : other = id
  · rw [if_pos hother, beq_iff_eq.2 hother]
    rfl
  · rw [if_neg hother, beq_eq_false_iff_ne.2 hother]

/-! ## One request -/

theorem change_failed (request : Request) (failure : Failure) :
    Event.change ⟨request, .error failure⟩ = none := by
  cases request <;> rfl

/-- The storage holds the policies that stand, and the cache holds what templates compile to. -/
structure Stands (medium : Medium) (past : History) (s : Realm) (m : Memory) : Prop where
  holds : Backend.Holds medium s.storage m
  filed : m.Filed
  standing : ∀ id : Urn .policy,
    m.policies.get? id.text = (past.standing id).map fun body => { body with id }
  sound : s.expressions.Sound

namespace Stands

/-- What changes no policy leaves those that stand. -/
theorem same (h : Stands medium past s m) (hchange : event.change = none)
    (hstorage : t.storage = s.storage) (hsound : t.expressions.Sound) :
    Stands medium (event :: past) t m where
  holds := hstorage ▸ h.holds
  filed := h.filed
  standing id := by
    rw [standing_cons_none hchange]
    exact h.standing id
  sound := hsound

/-- A policy that is stored stands from then on. -/
theorem stored (h : Stands medium past s m) (event : Event) {id : Urn .policy} {body : Policy}
    (hchange : event.change = some (id, some body))
    (haccepts : medium.Accepts (k := .policy) { body with id }) :
    ∃ m', Stands medium (event :: past)
      { s with storage := (s.storage.answer (.store .policy ({ body with id } : Policy))).2 }
      m' := by
  obtain ⟨-, hholds⟩ := h.holds.answer (.store .policy ({ body with id } : Policy))
    fun k record hcall => by cases hcall; exact haccepts
  refine ⟨_, hholds, h.filed.answer _, fun other => ?_, h.sound⟩
  show Assoc.get? (Assoc.put id.text ({ body with id } : Policy) m.policies) other.text = _
  rw [Assoc.get?_put, standing_cons_some hchange, h.standing other]
  by_cases hother : other = id
  · rw [if_pos (congrArg Urn.text hother.symm), if_pos hother, hother]
    rfl
  · rw [if_neg hother, if_neg fun htext => hother (congrArg Urn.mk htext.symm)]

/-- A policy that is deleted does not stand any longer; where there is none, nothing changes. -/
theorem erased (h : Stands medium past s m) (id : Urn .policy) :
    ∃ m', Stands medium (⟨.delete id, (s.storage.answer (.erase .policy id)).1⟩ :: past)
      { s with storage := (s.storage.answer (.erase .policy id)).2 } m' := by
  obtain ⟨hanswer, hholds⟩ :=
    h.holds.answer (.erase .policy id) fun k record hcall => by cases hcall
  have hfiled := h.filed.answer (.erase .policy id)
  have hmemory : m.answer (.erase .policy id) =
        (.ok (), { m with policies := Assoc.erase m.policies id.text }) ∨
      m.answer (.erase .policy id) = (.error (Storage.missing .policy), m) := by
    simp only [Memory.answer]
    split
    · exact .inl rfl
    · exact .inr rfl
  rcases hmemory with hmemory | hmemory <;> rw [hmemory] at hanswer hholds hfiled <;> rw [hanswer]
  · refine ⟨_, hholds, hfiled, fun other => ?_, h.sound⟩
    have hchange : Event.change ⟨.delete id, .ok ()⟩ = some (id, none) := rfl
    refine Eq.trans ?_ (congrArg _ (standing_cons_some hchange other).symm)
    show Assoc.get? (Assoc.erase m.policies id.text) other.text = _
    rw [Assoc.get?_erase, h.standing other]
    by_cases hother : other = id
    · rw [if_pos (congrArg Urn.text hother.symm), if_pos hother]
      rfl
    · rw [if_neg hother, if_neg fun htext => hother (congrArg Urn.mk htext.symm)]
  · refine ⟨m, hholds, hfiled, fun other => ?_, h.sound⟩
    exact (h.standing other).trans
      (congrArg _ (standing_cons_none (change_failed (.delete id) _) other).symm)

end Stands

/-- A storage that holds what a memory holds takes every record. -/
theorem stores (h : Backend.Holds medium s.storage m) {k : Kind} (record : Record k) :
    (s.storage.answer (.store k record)).1 = .ok () := by
  generalize s.storage = b at h
  cases h with
  | memory m => rfl
  | table writes _ => exact (writes.store k record).1

/-- A policy is created under a name that does by storing it. -/
theorem run_create (h : Backend.Holds medium s.storage m) {name : String} (hname : name ≠ "")
    (hreads : (Urn.ofLocal .policy name).name = name) (policy : Policy) :
    s.run false (create name policy).run =
      (.ok (.ofLocal .policy name), { s with storage := (s.storage.answer (.store .policy
        ({ policy with id := .ofLocal .policy name } : Policy))).2 }) := by
  have hempty : ¬ name.isEmpty = true := fun h => hname (String.isEmpty_iff.1 h)
  unfold create
  rw [if_neg hempty]
  dsimp only
  rw [if_neg (by rw [hreads, bne_self_eq_false]; exact Bool.false_ne_true)]
  refine (Realm.serve_guarded .policy _ s).trans (Realm.serve_bind_ok (a := ()) ?_)
  exact Prod.ext (stores h (k := .policy) _) rfl

/-- A policy is created, or the request is refused: the name does not do, or the caller has given
up. -/
theorem run_create_cases (h : Backend.Holds medium s.storage m) (givenUp : Bool) (name : String)
    (policy : Policy) :
    (∃ failure, s.run givenUp (create name policy).run = (.error failure, s)) ∨
      s.run givenUp (create name policy).run =
        (.ok (.ofLocal .policy name), { s with storage := (s.storage.answer (.store .policy
          ({ policy with id := .ofLocal .policy name } : Policy))).2 }) := by
  by_cases hname : name = ""
  · subst hname
    exact .inl ⟨_, rfl⟩
  · by_cases hreads : (Urn.ofLocal .policy name).name = name
    · cases givenUp with
      | false => exact .inr (run_create h hname hreads policy)
      | true =>
        left
        unfold create
        split
        · exact ⟨_, rfl⟩
        · dsimp only
          split
          · exact ⟨_, rfl⟩
          · exact ⟨_, rfl⟩
    · left
      unfold create
      split
      · exact ⟨_, rfl⟩
      · dsimp only
        rw [if_pos (bne_iff_ne.2 hreads)]
        exact ⟨_, rfl⟩

/-- A name of a policy makes for one call to the storage. -/
theorem run_named {id : Urn .policy} (hname : id.name ≠ "") (call : Storage.Call) (s : Realm) :
    s.run false (do named id; Service.guarded .policy (Service.storage call)).run =
      ((s.storage.answer call).1, { s with storage := (s.storage.answer call).2 }) := by
  have hempty : ¬ id.name.isEmpty = true := fun h => hname (String.isEmpty_iff.1 h)
  unfold named
  rw [if_neg hempty]
  rfl

/-- There is one call to the storage, or the request is refused: the name is that of no policy, or
the caller has given up. -/
theorem run_named_cases (givenUp : Bool) (id : Urn .policy) (call : Storage.Call) (s : Realm) :
    (∃ failure, s.run givenUp (do named id; Service.guarded .policy (Service.storage call)).run =
        (.error failure, s)) ∨
      s.run givenUp (do named id; Service.guarded .policy (Service.storage call)).run =
        ((s.storage.answer call).1, { s with storage := (s.storage.answer call).2 }) := by
  unfold named
  split
  · exact .inl ⟨_, rfl⟩
  · cases givenUp with
    | true => exact .inl ⟨_, rfl⟩
    | false => exact .inr rfl

/-- A decision lists the policies and evaluates them with the cache that there is. -/
theorem run_decide {policies : List Policy}
    (hlist : (s.storage.answer (.list .policy)).1 = .ok policies) (request : AccessRequest) :
    s.run false (Authority.decide request) =
      ((Matcher.run (Decision.evaluate policies request) s.expressions).1,
        { s with
          storage := (s.storage.answer (.list .policy)).2
          expressions := (Matcher.run (Decision.evaluate policies request) s.expressions).2 }) := by
  have hlisted : s.serve (Service.storage (.list .policy)) =
      (.ok policies, { s with storage := (s.storage.answer (.list .policy)).2 }) :=
    Prod.ext hlist rfl
  exact Realm.serve_bind_ok hlisted

namespace Stands

/-- The policies that stand, in the order of their names. -/
def policies (_ : Stands medium past s m) : List Policy :=
  m.policies.map fun e => { e.2 with id := ⟨e.1⟩ }

theorem list (h : Stands medium past s m) :
    (s.storage.answer (.list .policy)).1 = .ok h.policies ∧
      Backend.Holds medium (s.storage.answer (.list .policy)).2 m :=
  h.holds.answer (.list .policy) fun k record hcall => by cases hcall

/-- A storage keeps the policies that stand, whatever is asked. -/
theorem follow (h : Stands medium past s m) (asked : Bool × Request)
    (haccepts : ∀ policy, asked.2.record = some policy → medium.Accepts (k := .policy) policy) :
    ∃ m', Stands medium (Policies.follow (past, s) asked).1 (Policies.follow (past, s) asked).2
      m' := by
  obtain ⟨givenUp, request⟩ := asked
  have hgoes : ∀ answer t, s.run givenUp request.program = (answer, t) →
      (∃ m', Stands medium (⟨request, answer⟩ :: past) t m') →
      ∃ m', Stands medium (Policies.follow (past, s) (givenUp, request)).1
        (Policies.follow (past, s) (givenUp, request)).2 m' := by
    intro answer t hrun hstands
    unfold Policies.follow
    dsimp only
    rw [hrun]
    exact hstands
  have hrefused : ∀ failure, s.run givenUp request.program = (.error failure, s) →
      ∃ m', Stands medium (Policies.follow (past, s) (givenUp, request)).1
        (Policies.follow (past, s) (givenUp, request)).2 m' := fun failure hrun =>
    hgoes _ _ hrun ⟨m, h.same (change_failed request failure) rfl h.sound⟩
  cases request with
  | create name policy =>
    have haccept : medium.Accepts (k := .policy)
        ({ policy with id := .ofLocal .policy name } : Policy) := haccepts _ rfl
    rcases run_create_cases h.holds givenUp name policy with ⟨failure, hrun⟩ | hrun
    · exact hrefused failure hrun
    · exact hgoes _ _ hrun
        (h.stored ⟨.create name policy, .ok (.ofLocal .policy name)⟩ rfl haccept)
  | update id policy =>
    have haccept : medium.Accepts (k := .policy) ({ policy with id } : Policy) := haccepts _ rfl
    have hstore := stores h.holds (k := .policy) { policy with id }
    rcases run_named_cases givenUp id (.store .policy ({ policy with id } : Policy)) s with
      ⟨failure, hrun⟩ | hrun
    · exact hrefused failure hrun
    · exact hgoes _ _ (hrun.trans (Prod.ext hstore rfl))
        (h.stored ⟨.update id policy, .ok ()⟩ rfl haccept)
  | delete id =>
    rcases run_named_cases givenUp id (.erase .policy id) s with ⟨failure, hrun⟩ | hrun
    · exact hrefused failure hrun
    · exact hgoes _ _ hrun (h.erased id)
  | decide request =>
    cases givenUp with
    | true => exact hrefused .cancelled rfl
    | false =>
      obtain ⟨hlist, hholds⟩ := h.list
      have hsound := (Decision.evaluate_computes h.policies request s.expressions h.sound).2
      refine hgoes _ _ (run_decide hlist request) ⟨m, hholds, h.filed, fun id => ?_, hsound⟩
      refine (h.standing id).trans (congrArg _ (standing_cons_none ?_ id).symm)
      cases (Matcher.run (Decision.evaluate h.policies request) s.expressions).1 <;> rfl

/-- The policies that are listed are those that stand, ascending by name. -/
theorem mem_policies (h : Stands medium past s m) {policy : Policy} :
    policy ∈ h.policies ↔ ∃ id body, past.standing id = some body ∧ policy = { body with id } := by
  have hsorted : Assoc.Sorted m.policies := (h.filed .policy).1
  unfold policies
  rw [List.mem_map]
  constructor
  · rintro ⟨⟨name, record⟩, hmem, rfl⟩
    have hfound : m.policies.get? name = some record := hsorted.get?_of_mem hmem
    rw [h.standing ⟨name⟩] at hfound
    obtain ⟨body, hbody, rfl⟩ := Option.map_eq_some_iff.1 hfound
    exact ⟨⟨name⟩, body, hbody, rfl⟩
  · rintro ⟨id, body, hbody, rfl⟩
    have hfound := h.standing id
    rw [hbody] at hfound
    exact ⟨_, Assoc.mem_of_get? hfound, rfl⟩

theorem policies_ascending (h : Stands medium past s m) :
    h.policies.Pairwise fun a b => a.id.text < b.id.text := h.filed.listing .policy

end Stands

theorem stands_start (medium : Medium) (accounts : Accounts.Store) (now : Nat) :
    Stands medium [] (.start medium.empty accounts now) .empty where
  holds := by
    cases medium with
    | memory => exact .memory .empty
    | table => exact Backend.holds_table
  filed := Memory.filed_empty
  standing _ := rfl
  sound := Matcher.sound_nil

/-- A storage keeps the policies that stand, over every run. -/
theorem stands_attend (medium : Medium) (accounts : Accounts.Store) (now : Nat)
    (asked : List (Bool × Request))
    (haccepts : ∀ c ∈ asked, ∀ policy, c.2.record = some policy →
      medium.Accepts (k := .policy) policy) :
    ∃ m, Stands medium (attend (.start medium.empty accounts now) asked).1
      (attend (.start medium.empty accounts now) asked).2 m := by
  induction asked using List.reverseRecOn with
  | nil => exact ⟨_, stands_start medium accounts now⟩
  | append_singleton asked c ih =>
    obtain ⟨m, hm⟩ := ih fun c hc => haccepts c (List.mem_append_left _ hc)
    unfold attend at hm ⊢
    rw [List.foldl_append]
    exact hm.follow c (haccepts c (List.mem_append_right _ (List.mem_singleton_self c)))

/-- What a realm owes to what has been asked of its service of policies. -/
structure Heeds (past : History) (s : Realm) : Prop where
  /-- A policy can be created under every name that can be read back. -/
  creates : ∀ name policy, name ≠ "" → (Urn.ofLocal .policy name).name = name →
    (s.run false (Request.create name policy).program).1 = .ok (.ofLocal .policy name)
  /-- A policy can be written under every name of a policy. -/
  updates : ∀ (id : Urn .policy) policy, id.name ≠ "" →
    (s.run false (Request.update id policy).program).1 = .ok ()
  /-- Just the policies that stand can be deleted. -/
  deletes : ∀ id : Urn .policy, id.name ≠ "" →
    ((s.run false (Request.delete id).program).1 = .ok () ↔ ∃ body, past.standing id = some body)
  /-- A decision is that of the policies that stand, ascending by name: each has the body that was
  written last under its name, and its name as its id. -/
  decides : ∀ request, ∃ policies : List Policy,
    (s.run false (Authority.decide request)).1 =
      (Matcher.run (Decision.evaluate policies request) []).1 ∧
    (policies.Pairwise fun a b => a.id.text < b.id.text) ∧
    ∀ policy, policy ∈ policies ↔
      ∃ id body, past.standing id = some body ∧ policy = { body with id }

theorem Stands.heeds (h : Stands medium past s m) : Heeds past s where
  creates name policy hname hreads :=
    congrArg Prod.fst (run_create h.holds hname hreads policy)
  updates id policy hname :=
    (congrArg Prod.fst (run_named hname (.store .policy ({ policy with id } : Policy)) s)).trans
      (stores h.holds (k := .policy) { policy with id })
  deletes id hname := by
    obtain ⟨hanswer, -⟩ := h.holds.answer (.erase .policy id) fun k record hcall => by cases hcall
    have hrun : (s.run false (Request.delete id).program).1 = (m.answer (.erase .policy id)).1 :=
      (congrArg Prod.fst (run_named hname (.erase .policy id) s)).trans hanswer
    have hhas : Assoc.has m.policies id.text = (past.standing id).isSome := by
      rw [Assoc.has_eq, h.standing id, Option.isSome_map]
    rw [hrun, ← Option.isSome_iff_exists, ← hhas]
    simp only [Memory.answer]
    split
    · rename_i hthere
      exact ⟨fun _ => hthere, fun _ => rfl⟩
    · rename_i hgone
      exact ⟨fun hok => (by cases hok), fun hthere => absurd hthere hgone⟩
  decides request := by
    refine ⟨h.policies, ?_, h.policies_ascending, fun policy => h.mem_policies⟩
    rw [run_decide h.list.1]
    -- a cache that is sound gives the answer that an empty one gives
    have hcomputes := Decision.evaluate_computes h.policies request
    exact (hcomputes _ h.sound).1.trans (hcomputes _ Matcher.sound_nil).1.symm

/-- After every run of requests, given up or not, a decision is that of the policies that stand,
whatever has been decided before. A table keeps the policies as long as their texts give them back.
-/
theorem heeds_attend (medium : Medium) (accounts : Accounts.Store) (now : Nat)
    (asked : List (Bool × Request))
    (storable : medium = .table → ∀ c ∈ asked, ∀ policy, c.2.record = some policy →
      Record.Storable (k := .policy) policy) :
    Heeds (attend (.start medium.empty accounts now) asked).1
      (attend (.start medium.empty accounts now) asked).2 := by
  have haccepts : ∀ c ∈ asked, ∀ policy, c.2.record = some policy →
      medium.Accepts (k := .policy) policy := by
    intro c hc policy hpolicy
    cases medium with
    | memory => trivial
    | table => exact Medium.accepts (storable rfl c hc policy hpolicy) .table
  obtain ⟨m, h⟩ := stands_attend medium accounts now asked haccepts
  exact h.heeds

open Realm (majority majority_storable)

/-- A table keeps a policy that a caller who has given up has not deleted. -/
theorem heeds_attend_majority :
    let asked : List (Bool × Request) :=
      [(false, .update majority.id majority), (true, .delete majority.id)]
    ∃ policies : List Policy,
      ((attend (.start (.table .empty) (.register .empty) 0) asked).2.run false
        (Authority.decide ⟨"ada", "read", "report", []⟩)).1 =
          (Matcher.run (Decision.evaluate policies ⟨"ada", "read", "report", []⟩) []).1 ∧
      majority ∈ policies := by
  intro asked
  have hstorable : Medium.table = .table → ∀ c ∈ asked, ∀ policy, c.2.record = some policy →
      Record.Storable (k := .policy) policy := by
    intro _ c hc policy hpolicy
    rcases List.mem_cons.1 hc with rfl | hc
    · obtain rfl := Option.some.inj hpolicy
      exact majority_storable
    · obtain rfl := List.mem_singleton.1 hc
      cases hpolicy
  obtain ⟨policies, hdecision, -, hmem⟩ :=
    (heeds_attend .table (.register .empty) 0 asked hstorable).decides
      ⟨"ada", "read", "report", []⟩
  have hstands :
      (attend (.start (.table .empty) (.register .empty) 0) asked).1.standing majority.id =
        some majority := rfl
  exact ⟨policies, hdecision, (hmem majority).2 ⟨majority.id, majority, hstands, rfl⟩⟩

/-- About 1.5e34. -/
def drift : Double := ⟨false, 5118090790100425986, by decide⟩

/-- The number next to it, which is read from the text of it. -/
def drifted : Double := ⟨false, 5118090790100425987, by decide⟩

theorem rereadNumber_drift : Json.rereadNumber (.real drift) = some (.real drifted) := by
  decide +kernel

/-- A policy that allows what comes with a number. -/
def sharing (number : Double) : Policy :=
  { Policy.ofEffect .allow with
    id := .ofLocal .policy "sharing"
    subjects := ["ada"]
    resources := ["report"]
    actions := ["read"]
    conditions := [("share", .numeric .equal number)] }

open Json in
theorem decode_sharing :
    Decoder.decode Policy.decoder (sharing drift).toJson.render = .ok (sharing drifted) := by
  refine (Decoder.decode_written _ _).trans ?_
  have htree : Document.written (sharing drift).toJson = .ofJson (sharing drifted).toJson := by
    show Document.written (.object [("id", .text _), ("subjects", .array [.text _]),
      ("resources", .array [.text _]), ("actions", .array [.text _]), ("effect", .text _),
      ("conditions", .object [("share", .object [("type", .text _),
        ("options", .object [("operator", .text _), ("value", .number _)])])])]) = _
    simp only [Document.written, Document.writtenFields, Document.writtenItems,
      rereadNumber_drift]
    rfl
  rw [htree]
  rfl

/-- What comes with a number is not allowed by the policy with the next one. -/
theorem evaluate_sharing :
    let request : AccessRequest := ⟨"ada", "read", "report", [("share", .number (.real drift))]⟩
    (Matcher.run (Decision.evaluate [sharing drift] request) []).1 = .ok .allow ∧
      (Matcher.run (Decision.evaluate [sharing drifted] request) []).1 =
        .ok Decision.deniedByDefault := by
  decide +kernel

/-- A table gives the number back as its neighbour, and the policy does not apply any longer. -/
theorem decide_drifting :
    let request : AccessRequest := ⟨"ada", "read", "report", [("share", .number (.real drift))]⟩
    let created := (Realm.start (.table .empty) (.register .empty) 0).run false
      (Request.create "sharing" (sharing drift)).program
    created.1 = .ok (sharing drift).id ∧
      (created.2.run false (Authority.decide request)).1 = .ok Decision.deniedByDefault ∧
      (Matcher.run (Decision.evaluate [sharing drift] request) []).1 = .ok .allow := by
  intro request created
  have hcreated : created = _ :=
    @run_create _ _ _ Storage.Backend.holds_table "sharing" (by decide) rfl (sharing drift)
  have hlist : (created.2.storage.answer (.list .policy)).1 = .ok [sharing drifted] := by
    rw [hcreated]
    cases Storage.Backend.holds_table with
    | table writes _ =>
      have hwritten := (writes.store .policy (sharing drift)).2
      exact (hwritten.list .policy).trans
        (Storage.Table.recordsOf_singleton (k := .policy) _ decode_sharing)
  have hexpressions : created.2.expressions = [] := by
    rw [hcreated]
    rfl
  refine ⟨congrArg Prod.fst hcreated, ?_, evaluate_sharing.1⟩
  rw [run_decide hlist, hexpressions]
  dsimp only
  exact evaluate_sharing.2

end AccessControl.Policies
