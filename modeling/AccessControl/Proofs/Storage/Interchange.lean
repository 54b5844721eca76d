/-
Storages of either kind stand in for each other. Main statement: to any calls, given up or not, a
memory and a table give the same answers as long as every record that is stored can be read back;
listings ascend by name, and what an area answers does not depend on the calls to others
(`Realm.storages_interchangeable`).
-/
import AccessControl.Proofs.Storage.Contents

namespace AccessControl

namespace Storage

/-! ## Areas -/

/-- What a call reads and writes: the records of a kind, or the memberships from both sides. -/
inductive Area
  | records (k : Kind)
  | memberships
deriving DecidableEq

def Call.area : Call → Area
  | load k _ | store k _ | erase k _ | list k => .records k
  | join _ _ | part _ _ | disband _ | memberships _ | members _ => .memberships

namespace Memory

variable {m n : Memory}

/-- Two memories hold the same in an area. -/
def Agrees (m n : Memory) : Area → Prop
  | .records k => m.records k = n.records k
  | .memberships => m.memberships = n.memberships

theorem agrees_refl (m : Memory) (area : Area) : m.Agrees m area := by
  cases area <;> rfl

theorem setRecords_agrees {k : Kind} (records : Assoc (Record k)) {area : Area}
    (h : area ≠ .records k) : (m.setRecords k records).Agrees n area ↔ m.Agrees n area := by
  cases area with
  | memberships => cases k <;> rfl
  | records l =>
    have hl : k ≠ l := fun heq => h (congrArg Area.records heq.symm)
    show (m.setRecords k records).records l = n.records l ↔ m.records l = n.records l
    rw [records_setRecords, dif_neg hl]

/-- A call changes nothing outside of its area. -/
theorem Agrees.elsewhere {area : Area} (h : m.Agrees n area) {call : Call}
    (hcall : call.area ≠ area) : (m.answer call).2.Agrees n area := by
  cases call with
  | load k id => simp only [answer]; split <;> exact h
  | store k record => exact (setRecords_agrees _ (Ne.symm hcall)).2 h
  | erase k id =>
    simp only [answer]
    split
    · exact (setRecords_agrees _ (Ne.symm hcall)).2 h
    · exact h
  | list _ | memberships _ | members _ => exact h
  | join _ _ | disband _ =>
    cases area with
    | records k => cases k <;> exact h
    | memberships => exact absurd rfl hcall
  | part user group =>
    simp only [answer]
    split
    · cases area with
      | records k => cases k <;> exact h
      | memberships => exact absurd rfl hcall
    · exact h

/-- What a call answers and leaves in its area depends on nothing else. -/
theorem Agrees.answer {call : Call} (h : m.Agrees n call.area) :
    (m.answer call).1 = (n.answer call).1 ∧
      (m.answer call).2.Agrees (n.answer call).2 call.area := by
  cases call with
  | load k id =>
    have h : m.records k = n.records k := h
    simp only [Memory.answer, h]
    split <;> exact ⟨rfl, h⟩
  | store k record =>
    have h : m.records k = n.records k := h
    refine ⟨rfl, ?_⟩
    simp only [Memory.answer, Call.area, Agrees, records_setRecords, h]
  | erase k id =>
    have h : m.records k = n.records k := h
    simp only [Memory.answer, h]
    split
    · refine ⟨rfl, ?_⟩
      simp only [Call.area, Agrees, records_setRecords, dif_pos]
    · exact ⟨rfl, h⟩
  | list k =>
    have h : m.records k = n.records k := h
    exact ⟨by simp only [Memory.answer, h], h⟩
  | join _ _ | disband _ | memberships _ | members _ =>
    have h : m.memberships = n.memberships := h
    refine ⟨?_, ?_⟩ <;> simp only [Memory.answer, Call.area, Agrees, h]
  | part user group =>
    have h : m.memberships = n.memberships := h
    simp only [Memory.answer, h]
    split
    · exact ⟨rfl, by simp only [Call.area, Agrees]⟩
    · exact ⟨rfl, h⟩

/-! ## Listings -/

/-- The records stand in ascending order, each under its own name. -/
def Filed (m : Memory) : Prop :=
  ∀ k, (m.records k).Sorted ∧ ∀ e ∈ m.records k, e.2.id.text = e.1

theorem filed_empty : Filed empty := by
  intro k
  cases k <;> exact ⟨List.Pairwise.nil, fun e he => absurd he List.not_mem_nil⟩

theorem Filed.setRecords (h : m.Filed) {k : Kind} {records : Assoc (Record k)}
    (hsorted : records.Sorted) (hnames : ∀ e ∈ records, e.2.id.text = e.1) :
    (m.setRecords k records).Filed := by
  intro l
  rw [records_setRecords]
  by_cases hl : k = l
  · subst hl
    rw [dif_pos rfl]
    exact ⟨hsorted, hnames⟩
  · rw [dif_neg hl]
    exact h l

theorem Filed.answer (h : m.Filed) (call : Call) : (m.answer call).2.Filed := by
  cases call with
  | store k record =>
    refine h.setRecords ((h k).1.put _ _) fun e he => ?_
    rcases Assoc.mem_put he with rfl | he
    · rfl
    · exact (h k).2 e he
  | erase k id =>
    simp only [Memory.answer]
    split
    · exact h.setRecords ((h k).1.erase _) fun e he => (h k).2 e (Assoc.mem_erase he)
    · exact h
  | load k id => simp only [Memory.answer]; split <;> exact h
  | list _ | memberships _ | members _ => exact h
  | join _ _ | disband _ => intro k; cases k <;> exact h _
  | part user group =>
    simp only [Memory.answer]
    split
    · intro k; cases k <;> exact h _
    · exact h

/-- A listing ascends by the names of its records. -/
theorem Filed.listing (h : m.Filed) (k : Kind) :
    ((m.records k).map fun e => e.2.listed ⟨e.1⟩).Pairwise fun a b => a.id.text < b.id.text := by
  have hlisted : ∀ e ∈ m.records k, (e.2.listed ⟨e.1⟩).id.text = e.1 := by
    intro e he
    have hname := (h k).2 e he
    cases k
    · exact hname
    · exact hname
    · rfl
  rw [List.pairwise_map]
  refine (h k).1.imp_of_mem fun he hf hlt => ?_
  rwa [hlisted _ he, hlisted _ hf]

end Memory

/-! ## Calls and replies -/

/-- Calls, each under a context that is given up or not. -/
abbrev Calls := List (Bool × Call)

/-- All records that are stored, by calls that are not given up, can be stored. -/
def Calls.Storable (calls : Calls) : Prop :=
  ∀ (k : Kind) (record : Record k), (false, .store k record) ∈ calls → record.Storable

/-- The calls to an area. -/
def Calls.to (area : Area) (calls : Calls) : Calls := calls.filter fun c => c.2.area = area

/-- What one call after the other is answered. -/
abbrev Replies := List (Σ call : Call, Answer call.Reply)

/-- The answers to the calls to an area. -/
def Replies.of (area : Area) (replies : Replies) : Replies :=
  replies.filter fun reply => reply.1.area = area

theorem Calls.storable_cons {c : Bool × Call} {calls : Calls} :
    Storable (c :: calls) ↔ Storable [c] ∧ Storable calls := by
  refine ⟨fun h => ⟨fun k record hc => h k record ?_, fun k record hc => h k record ?_⟩, ?_⟩
  · exact List.mem_cons.2 (.inl (List.mem_singleton.1 hc))
  · exact List.mem_cons_of_mem _ hc
  · rintro ⟨hfirst, hrest⟩ k record hc
    rcases List.mem_cons.1 hc with hc | hc
    · exact hfirst k record (List.mem_singleton.2 hc)
    · exact hrest k record hc

end Storage

namespace Realm

open Storage hiding Call

/-! ## Runs of calls -/

/-- Calls the storage of a realm time after time. -/
def consult (s : Realm) : Calls → Replies × Realm
  | [] => ([], s)
  | (givenUp, call) :: rest =>
    let (answer, s) := s.run givenUp (Service.storage call).run
    let (answers, s) := s.consult rest
    (⟨call, answer⟩ :: answers, s)

/-- The memory after a call; one that is given up changes nothing. -/
def consulted (m : Memory) (givenUp : Bool) (call : Storage.Call) : Memory :=
  if givenUp then m else (m.answer call).2

variable {s t : Realm} {m n : Memory} {medium : Medium} {calls : Calls}

/-- A storage answers one call as the memory that it holds does. -/
theorem run_holds (h : Backend.Holds medium s.storage m) {givenUp : Bool} {call : Storage.Call}
    (hcall : Calls.Storable [(givenUp, call)]) :
    (s.run givenUp (Service.storage call).run).1 =
        (if givenUp then .error .cancelled else (m.answer call).1) ∧
      Backend.Holds medium (s.run givenUp (Service.storage call).run).2.storage
        (consulted m givenUp call) := by
  rw [run_storage]
  cases givenUp with
  | true => exact ⟨rfl, h⟩
  | false =>
    refine h.answer call fun k record heq => ?_
    exact medium.accepts (hcall k record (heq ▸ List.mem_singleton_self _))

/-- Two storages that hold the same give the same answers. -/
theorem consult_same {other : Medium} (hs : Backend.Holds medium s.storage m)
    (ht : Backend.Holds other t.storage m) (hcalls : calls.Storable) :
    (s.consult calls).1 = (t.consult calls).1 := by
  induction calls generalizing s t m with
  | nil => rfl
  | cons c rest ih =>
    obtain ⟨givenUp, call⟩ := c
    obtain ⟨hfirst, hrest⟩ := Calls.storable_cons.1 hcalls
    obtain ⟨hanswer, hs⟩ := run_holds hs hfirst
    obtain ⟨hanswer', ht⟩ := run_holds ht hfirst
    have hanswers := ih hs ht hrest
    exact congrArg₂ (fun a as => (⟨call, a⟩ :: as : Replies)) (hanswer.trans hanswer'.symm) hanswers

/-- Every listing ascends by name. -/
theorem consult_listing (h : Backend.Holds medium s.storage m) (hm : m.Filed)
    (hcalls : calls.Storable) {k : Kind} {records : List (Record k)}
    (hreply : ⟨.list k, .ok records⟩ ∈ (s.consult calls).1) :
    records.Pairwise fun a b => a.id.text < b.id.text := by
  induction calls generalizing s m with
  | nil => cases hreply
  | cons c rest ih =>
    obtain ⟨givenUp, call⟩ := c
    obtain ⟨hfirst, hrest⟩ := Calls.storable_cons.1 hcalls
    obtain ⟨hanswer, hholds⟩ := run_holds h hfirst
    have hafter : (consulted m givenUp call).Filed := by
      cases givenUp
      · exact hm.answer call
      · exact hm
    rcases List.mem_cons.1 hreply with heq | hreply
    · obtain ⟨rfl, hsame⟩ := Sigma.mk.inj heq
      have hlisted := (eq_of_heq hsame).trans hanswer
      cases givenUp with
      | true => cases hlisted
      | false =>
        obtain rfl := Except.ok.inj hlisted
        exact hm.listing k
    · exact ih hholds hafter hrest hreply

/-- The answers of an area are those of a storage to which only the calls to that area are made. -/
theorem consult_area {area : Area} (hs : Backend.Holds medium s.storage m)
    (ht : Backend.Holds medium t.storage n) (hagrees : m.Agrees n area)
    (hcalls : calls.Storable) :
    (s.consult calls).1.of area = (t.consult (calls.to area)).1 := by
  induction calls generalizing s t m n with
  | nil => rfl
  | cons c rest ih =>
    obtain ⟨givenUp, call⟩ := c
    obtain ⟨hfirst, hrest⟩ := Calls.storable_cons.1 hcalls
    obtain ⟨hanswer, hs⟩ := run_holds hs hfirst
    by_cases harea : call.area = area
    · subst harea
      obtain ⟨hanswer', ht⟩ := run_holds ht hfirst
      obtain ⟨hreply, hafter⟩ := hagrees.answer
      have hafter : (consulted m givenUp call).Agrees (consulted n givenUp call) call.area := by
        cases givenUp
        · exact hafter
        · exact hagrees
      have hanswers := ih hs ht hafter hrest
      have hsame : (s.run givenUp (Service.storage call).run).1 =
          (t.run givenUp (Service.storage call).run).1 := by
        rw [hanswer, hanswer', hreply]
      have hkept : Calls.to call.area ((givenUp, call) :: rest) =
          (givenUp, call) :: Calls.to call.area rest :=
        List.filter_cons_of_pos (decide_eq_true rfl)
      rw [hkept]
      refine (List.filter_cons_of_pos (by simp)).trans ?_
      exact congrArg₂ (fun a as => (⟨call, a⟩ :: as : Replies)) hsame hanswers
    · have hafter : (consulted m givenUp call).Agrees n area := by
        cases givenUp
        · exact hagrees.elsewhere harea
        · exact hagrees
      have hleft : Calls.to area ((givenUp, call) :: rest) = Calls.to area rest :=
        List.filter_cons_of_neg (by simpa using harea)
      rw [hleft, ← ih hs ht hafter hrest]
      exact List.filter_cons_of_neg (by simpa using harea)

/-! ## Either storage -/

/-- A memory and a table answer all calls alike, as long as every record that is stored can be read
back. Listings ascend by name, and no area is changed by the calls to another. -/
theorem storages_interchangeable (hcalls : calls.Storable) (hs : s.storage = .memory .empty)
    (ht : t.storage = .table .empty) :
    (s.consult calls).1 = (t.consult calls).1 ∧
      (∀ (k : Kind) (records : List (Record k)),
        ⟨.list k, .ok records⟩ ∈ (t.consult calls).1 →
          records.Pairwise fun a b => a.id.text < b.id.text) ∧
      ∀ area, (s.consult calls).1.of area = (s.consult (calls.to area)).1 ∧
        (t.consult calls).1.of area = (t.consult (calls.to area)).1 := by
  have hmemory : Backend.Holds .memory s.storage .empty := hs ▸ .memory .empty
  have htable : Backend.Holds .table t.storage .empty := ht ▸ Backend.holds_table
  refine ⟨consult_same hmemory htable hcalls, fun k records hreply => ?_, fun area => ⟨?_, ?_⟩⟩
  · exact consult_listing htable Memory.filed_empty hcalls hreply
  · exact consult_area hmemory hmemory (Memory.agrees_refl .empty area) hcalls
  · exact consult_area htable htable (Memory.agrees_refl .empty area) hcalls

/-- A policy about shares of more than a half. -/
def majority : Policy :=
  { Policy.ofEffect .allow with
    id := ⟨"urn:iam::policy/majority"⟩
    conditions := [("share", .numeric .greater ⟨false, 1022 * Nat.pow 2 52, by decide⟩)] }

theorem majority_storable : @Record.Storable .policy majority where
  proper := by
    refine ⟨List.pairwise_singleton _ _, fun e he => ?_⟩
    obtain rfl := List.mem_singleton.1 he
    trivial
  numbers := by
    have hhalf : Json.LegibleNumber (.real ⟨false, 1022 * Nat.pow 2 52, by decide⟩) :=
      Json.legibleNumber_iff.2 (by decide +kernel)
    exact ⟨trivial, trivial, trivial, trivial, trivial,
      ⟨⟨trivial, ⟨trivial, hhalf, trivial⟩, trivial⟩, trivial⟩, trivial⟩
  nesting := by decide

/-- A table lists the policy that it has been given, which a caller that has given up has not
erased. -/
theorem storages_interchangeable_majority :
    let calls : Calls :=
      [(false, .store .policy majority), (false, .join ⟨"urn:iam::user/2"⟩ ⟨"urn:iam::group/dev"⟩),
        (true, .erase .policy majority.id), (false, .list .policy)]
    let t : Realm := .start (.table .empty) (.register .empty) 0
    (t.consult calls).1 =
      [⟨.store .policy majority, .ok ()⟩,
        ⟨.join ⟨"urn:iam::user/2"⟩ ⟨"urn:iam::group/dev"⟩, .ok ()⟩,
        ⟨.erase .policy majority.id, .error .cancelled⟩, ⟨.list .policy, .ok [majority]⟩] := by
  intro calls t
  have hcalls : calls.Storable := by
    intro k record hcall
    rcases List.mem_cons.1 hcall with hcall | hcall
    · cases hcall
      exact majority_storable
    · simp at hcall
  have hstart : (Realm.start (.memory .empty) (.register .empty) 0).storage = .memory .empty := rfl
  have hboth := storages_interchangeable hcalls hstart (show t.storage = .table .empty from rfl)
  exact hboth.1.symm.trans rfl

end Realm

end AccessControl
