/-
What comes of a service however its calls turn out. A gate may refuse, the storage may fail at any
call and has then done nothing, the account store answers as it likes, and between two calls
subscribers come and go. A fortune says how it is this time, by what has been done so far. Main
statements: a run under a fortune makes calls that its program may make and answers them one after
the other (`Fortune.run_unfolds`), a realm runs programs as under one of the fortunes
(`Fortune.run_beside`), what the calls of a service are by how it is put together
(`Service.plays_bind_iff` and its like), and what a list of deeds makes of a realm: it changes
nothing that is stored unless a write succeeds (`Unfolds.unchanged`), and gives the subscribers to
do what the announcements among it do (`Unfolds.pending`).
-/
import AccessControl.Proofs.Service.Atomic
import AccessControl.Proofs.Storage.Canonical

namespace AccessControl

/-! ## Storages -/

namespace Storage.Backend

variable {b b' b'' : Backend} {k : Kind}

theorem Unchanged.trans (h : b.Unchanged b') (h' : b'.Unchanged b'') : b.Unchanged b'' := by
  cases h with
  | memory m => exact h'
  | table rows =>
    cases h' with
    | table rows' => exact .table fun bucket key => (rows' bucket key).trans (rows bucket key)

theorem Unchanged.entry (h : b.Unchanged b') (k : Kind) (name : String) :
    b'.entry k name = b.entry k name := by
  cases h with
  | memory m => rfl
  | table rows => exact congrArg (Option.map Entry.text) (rows _ _)

/-- Where a record has been stored it is kept under its name. -/
theorem holds_of_store {record : Record k} (h : (b.answer (.store k record)).1 = .ok ()) :
    ∃ entry, (b.answer (.store k record)).2.entry k record.id.text = some entry ∧
      entry.Holds record := by
  cases b with
  | memory m =>
    have hput : ((m.answer (.store k record)).2.records k).get? record.id.text = some record := by
      simp [Memory.answer, Memory.records_setRecords, Assoc.get?_put]
    exact ⟨.record record, congrArg (Option.map Entry.record) hput, rfl⟩
  | table t =>
    have hopen : t.isOpen = true := by
      cases hopen : t.isOpen with
      | true => rfl
      | false =>
        simp only [answer, Table.answer, Table.transact, hopen] at h
        cases h
    have hrun : (Transaction.write (Table.bucketOf k) record.id.text record.toJson.render).run
        t.rows = .ok ((), t.rows.write (Table.bucketOf k) record.id.text record.toJson.render) :=
      rfl
    have hrow : (t.transact (Transaction.write (Table.bucketOf k) record.id.text
        record.toJson.render)).2.rows.text? (Table.bucketOf k) record.id.text =
          some record.toJson.render := by
      rw [Table.transact_ok hopen hrun, Rows.text?_write, if_pos ⟨rfl, rfl⟩]
    exact ⟨.text record.toJson.render, congrArg (Option.map Entry.text) hrow, rfl⟩

/-- Where a record has been erased nothing is kept under its name. -/
theorem entry_of_erase {id : Urn k} (h : (b.answer (.erase k id)).1 = .ok ()) :
    (b.answer (.erase k id)).2.entry k id.text = none := by
  cases b with
  | memory m =>
    have hstored : (m.records k).has id.text = true := by
      cases hstored : (m.records k).has id.text with
      | true => rfl
      | false =>
        simp only [answer, Memory.answer, hstored] at h
        cases h
    have herased : ((m.answer (.erase k id)).2.records k).get? id.text = none := by
      simp [Memory.answer, hstored, Memory.records_setRecords, Assoc.get?_erase]
    exact congrArg (Option.map Entry.record) herased
  | table t =>
    have hopen : t.isOpen = true := by
      cases hopen : t.isOpen with
      | true => rfl
      | false =>
        simp only [answer, Table.answer, Table.transact, hopen] at h
        cases h
    have hrow : (t.answer (.erase k id)).2.rows.text? (Table.bucketOf k) id.text = none := by
      have hrun : (Transaction.remove (Table.bucketOf k) id.text).run t.rows =
          .ok ((t.rows.text? (Table.bucketOf k) id.text).isSome,
            t.rows.remove (Table.bucketOf k) id.text) := rfl
      have hafter : (t.answer (.erase k id)).2.rows =
          t.rows.remove (Table.bucketOf k) id.text := by
        cases hrow : (t.rows.text? (Table.bucketOf k) id.text).isSome <;>
          simp only [Table.answer, Table.transact_ok hopen hrun, hrow]
      rw [hafter, Rows.text?_remove, if_pos ⟨rfl, rfl⟩]
    exact congrArg (Option.map Entry.text) hrow

end Storage.Backend

/-! ## Deeds -/

/-- A call that has been made: under which context, and what it was answered. -/
structure Deed where
  origin : Origin
  call : Call
  reply : call.Reply

namespace Deed

/-- A gate has been asked for on behalf of the caller. -/
abbrev entered (gate : Kind) (reply : Answer Unit) : Deed := ⟨.caller, .enter gate, reply⟩

abbrev left (gate : Kind) : Deed := ⟨.caller, .leave gate, ()⟩

/-- The storage has been called on behalf of the caller. -/
abbrev stored (call : Storage.Call) (reply : Answer call.Reply) : Deed :=
  ⟨.caller, .storage call, reply⟩

/-- The account store has been called. -/
abbrev asked (origin : Origin) (call : Accounts.Call) (reply : Answer call.Reply) : Deed :=
  ⟨origin, .accounts call, reply⟩

/-- The subscribers have been told of a deletion. -/
abbrev announced (user : Urn .user) : Deed := ⟨.caller, .announce user, ()⟩

/-- It is no write to the storage that has succeeded. -/
def Idle : Deed → Prop
  | ⟨_, .storage call, reply⟩ =>
    call.Reads ∨ ∃ failure, (reply : Answer call.Reply) = .error failure
  | ⟨_, .enter _, _⟩ | ⟨_, .leave _, _⟩ | ⟨_, .accounts _, _⟩ | ⟨_, .decide _ _, _⟩
  | ⟨_, .announce _, _⟩ => True

end Deed

namespace Program

variable {α β : Type}

/-- The program may make these calls, where they are answered so, and ends with the value. -/
inductive Plays : Program α → List Deed → α → Prop
  | done (value : α) : Plays (done value) [] value
  | ask {origin : Origin} {call : Call} {next : call.Reply → Program α} {reply : call.Reply}
      {deeds : List Deed} {value : α} (rest : (next reply).Plays deeds value) :
      Plays (ask origin call next) (⟨origin, call, reply⟩ :: deeds) value

variable {p : Program α} {f : α → Program β} {deeds : List Deed}

theorem plays_pure_iff {a value : α} :
    (pure a : Program α).Plays deeds value ↔ deeds = [] ∧ value = a := by
  constructor
  · intro h
    cases h
    exact ⟨rfl, rfl⟩
  · rintro ⟨rfl, rfl⟩
    exact .done _

theorem plays_call_iff {origin : Origin} {call : Call} {reply : call.Reply} :
    (Program.call origin call).Plays deeds reply ↔ deeds = [⟨origin, call, reply⟩] := by
  constructor
  · intro h
    cases h with
    | ask rest => cases rest; rfl
  · rintro rfl
    exact .ask (.done _)

/-- A sequence makes the calls of its first part and then those of its second part. -/
theorem plays_bind_iff {value : β} :
    (p >>= f).Plays deeds value ↔
      ∃ first a rest, p.Plays first a ∧ (f a).Plays rest value ∧ deeds = first ++ rest := by
  constructor
  · intro h
    induction p generalizing deeds with
    | done a => exact ⟨[], a, deeds, .done a, h, rfl⟩
    | ask origin call next ih =>
      cases h with
      | @ask _ _ _ reply _ _ rest =>
        obtain ⟨first, a, back, hfirst, hback, rfl⟩ := ih reply rest
        exact ⟨_ :: first, a, back, .ask hfirst, hback, rfl⟩
  · rintro ⟨first, a, rest, hfirst, hrest, rfl⟩
    induction hfirst with
    | done a => exact hrest
    | ask _ ih => exact .ask (ih hrest)

/-- What a program does is allowed where it makes allowed calls only. -/
theorem Only.plays {allowed : Call → Prop} {value : α} (hp : p.Only allowed)
    (h : p.Plays deeds value) : ∀ deed ∈ deeds, allowed deed.call := by
  induction h with
  | done value => exact List.forall_mem_nil _
  | ask _ ih =>
    cases hp with
    | ask hcall hnext => exact List.forall_mem_cons.2 ⟨hcall, ih (hnext _)⟩

end Program

namespace Service

variable {α β : Type} {service : Service α} {deeds : List Deed}

/-- The service may make these calls, where they are answered so, and answers so itself. -/
def Plays (service : Service α) (deeds : List Deed) (answer : Answer α) : Prop :=
  service.run.Plays deeds answer

theorem plays_pure_iff {a : α} {answer : Answer α} :
    (pure a : Service α).Plays deeds answer ↔ deeds = [] ∧ answer = .ok a :=
  Program.plays_pure_iff

theorem plays_throw_iff {failure : Failure} {answer : Answer α} :
    (throw failure : Service α).Plays deeds answer ↔ deeds = [] ∧ answer = .error failure :=
  Program.plays_pure_iff

theorem plays_storage_iff {call : Storage.Call} {answer : Answer call.Reply} :
    (storage call).Plays deeds answer ↔ deeds = [.stored call answer] :=
  @Program.plays_call_iff deeds .caller (.storage call) answer

theorem plays_accounts_iff {call : Accounts.Call} {answer : Answer call.Reply} :
    (accounts call).Plays deeds answer ↔ deeds = [.asked .caller call answer] :=
  @Program.plays_call_iff deeds .caller (.accounts call) answer

theorem plays_archive_iff {id : Int} {answer : Answer Unit} :
    (detached (accounts (.archive id))).Plays deeds answer ↔
      deeds = [.asked .own (.archive id) answer] :=
  @Program.plays_call_iff deeds .own (.accounts (.archive id)) answer

theorem plays_bind_iff {next : α → Service β} {answer : Answer β} :
    (service >>= next).Plays deeds answer ↔
      (∃ first a rest, service.Plays first (.ok a) ∧ (next a).Plays rest answer ∧
        deeds = first ++ rest) ∨
      ∃ failure, service.Plays deeds (.error failure) ∧ answer = .error failure := by
  have hrun : (service >>= next).Plays deeds answer ↔
      (service.run >>= fun answer => ExceptT.bindCont next answer).Plays deeds answer := Iff.rfl
  rw [hrun, Program.plays_bind_iff]
  constructor
  · rintro ⟨first, ended, rest, hfirst, hrest, rfl⟩
    cases ended with
    | ok a => exact .inl ⟨first, a, rest, hfirst, hrest, rfl⟩
    | error failure =>
      obtain ⟨rfl, rfl⟩ := Program.plays_pure_iff.1 hrest
      exact .inr ⟨failure, (List.append_nil first).symm ▸ hfirst, rfl⟩
  · rintro (⟨first, a, rest, hfirst, hrest, rfl⟩ | ⟨failure, h, rfl⟩)
    · exact ⟨first, .ok a, rest, hfirst, hrest, rfl⟩
    · exact ⟨deeds, .error failure, [], h, Program.plays_pure_iff.2 ⟨rfl, rfl⟩,
        (List.append_nil deeds).symm⟩

theorem plays_announce_iff {user : Urn .user} {answer : Answer Unit} :
    (announce user).Plays deeds answer ↔ deeds = [.announced user] ∧ answer = .ok () := by
  have hrun : (announce user).Plays deeds answer ↔
      (Program.call .caller (.announce user) >>= fun a => pure (Except.ok a : Answer Unit)).Plays
        deeds answer := Iff.rfl
  rw [hrun, Program.plays_bind_iff]
  constructor
  · rintro ⟨first, a, rest, hfirst, hrest, rfl⟩
    obtain rfl := Program.plays_call_iff.1 hfirst
    obtain ⟨rfl, rfl⟩ := Program.plays_pure_iff.1 hrest
    exact ⟨rfl, rfl⟩
  · rintro ⟨rfl, rfl⟩
    exact ⟨_, (), [], Program.plays_call_iff.2 rfl, Program.plays_pure_iff.2 ⟨rfl, rfl⟩, rfl⟩

theorem plays_attempt_iff {answer : Answer (Answer α)} :
    service.attempt.Plays deeds answer ↔
      ∃ ended, service.Plays deeds ended ∧ answer = .ok ended := by
  have hrun : service.attempt.Plays deeds answer ↔
      (service.run >>= fun a => pure (Except.ok a : Answer (Answer α))).Plays deeds answer :=
    Iff.rfl
  rw [hrun, Program.plays_bind_iff]
  constructor
  · rintro ⟨first, ended, rest, hfirst, hrest, rfl⟩
    obtain ⟨rfl, rfl⟩ := Program.plays_pure_iff.1 hrest
    exact ⟨ended, (List.append_nil first).symm ▸ hfirst, rfl⟩
  · rintro ⟨ended, h, rfl⟩
    exact ⟨deeds, ended, [], h, Program.plays_pure_iff.2 ⟨rfl, rfl⟩, (List.append_nil deeds).symm⟩

theorem plays_discard_iff {answer : Answer Unit} :
    (discard service).Plays deeds answer ↔
      ∃ ended, service.Plays deeds ended ∧ answer = ended.map fun _ => () := by
  have hrun : (discard service).Plays deeds answer ↔
      (service >>= fun _ => pure ()).Plays deeds answer := Iff.rfl
  rw [hrun, plays_bind_iff]
  constructor
  · rintro (⟨first, a, rest, hfirst, hrest, rfl⟩ | ⟨failure, h, rfl⟩)
    · obtain ⟨rfl, rfl⟩ := plays_pure_iff.1 hrest
      exact ⟨.ok a, (List.append_nil first).symm ▸ hfirst, rfl⟩
    · exact ⟨.error failure, h, rfl⟩
  · rintro ⟨ended, h, rfl⟩
    cases ended with
    | ok a =>
      exact .inl ⟨deeds, a, [], h, plays_pure_iff.2 ⟨rfl, rfl⟩, (List.append_nil deeds).symm⟩
    | error failure => exact .inr ⟨failure, h, rfl⟩

/-- Behind a gate a service does nothing where it is not let in, and leaves however it ends. -/
theorem plays_guarded_iff {gate : Kind} {answer : Answer α} :
    (guarded gate service).Plays deeds answer ↔
      (∃ failure, deeds = [.entered gate (.error failure)] ∧ answer = .error failure) ∨
      ∃ inner, service.Plays inner answer ∧
        deeds = .entered gate (.ok ()) :: (inner ++ [.left gate]) := by
  have hrest : ∀ {deeds : List Deed} {answer : Answer α},
      Program.Plays (service.run >>= fun answer =>
        Program.call .caller (.leave gate) >>= fun _ => pure answer) deeds answer ↔
      ∃ inner, service.Plays inner answer ∧ deeds = inner ++ [.left gate] := by
    intro deeds answer
    simp only [Program.plays_bind_iff, Program.plays_pure_iff, Program.plays_call_iff]
    constructor
    · rintro ⟨inner, a, rest, hinner, ⟨left, _, ending, rfl, ⟨rfl, rfl⟩, rfl⟩, rfl⟩
      exact ⟨inner, hinner, rfl⟩
    · rintro ⟨inner, hinner, rfl⟩
      exact ⟨inner, answer, _, hinner, ⟨_, (), [], rfl, ⟨rfl, rfl⟩, rfl⟩, rfl⟩
  constructor
  · intro h
    cases h with
    | @ask _ _ _ reply rest _ hplays =>
      cases reply with
      | error failure =>
        cases hplays
        exact .inl ⟨failure, rfl, rfl⟩
      | ok _ =>
        obtain ⟨inner, hinner, rfl⟩ := hrest.1 hplays
        exact .inr ⟨inner, hinner, rfl⟩
  · rintro (⟨failure, rfl, rfl⟩ | ⟨inner, hinner, rfl⟩)
    · exact .ask (.done _)
    · exact .ask (hrest.2 ⟨inner, hinner, rfl⟩)

end Service

/-! ## What deeds make of a realm -/

/-- A subscriber comes or goes. -/
inductive Turnover
  | comes
  | goes (id : Nat)

namespace Realm

/-- The realm when a subscriber has come or gone. -/
def turn (s : Realm) : Turnover → Realm
  | .comes => s.subscribe.2
  | .goes id => (s.unsubscribe id).2

def turned (s : Realm) (changes : List Turnover) : Realm := changes.foldl turn s

/-- What a deed may make of a realm. The storage has done what it was called for, or it has failed
and done nothing. -/
inductive Befalls (s : Realm) : Deed → Realm → Prop
  | enter (origin : Origin) (gate : Kind) (reply : Answer Unit) :
    Befalls s ⟨origin, .enter gate, reply⟩ s
  | leave (origin : Origin) (gate : Kind) : Befalls s ⟨origin, .leave gate, ()⟩ s
  | storage (origin : Origin) (call : Storage.Call) :
    Befalls s ⟨origin, .storage call, (s.askStorage call).1⟩ (s.askStorage call).2
  | fault (origin : Origin) (call : Storage.Call) (failure : Failure) :
    Befalls s ⟨origin, .storage call, (.error failure : Answer call.Reply)⟩ s
  | accounts (origin : Origin) (call : Accounts.Call) (reply : Answer call.Reply) :
    Befalls s ⟨origin, .accounts call, reply⟩ s
  | decide (origin : Origin) (policies : List Policy) (request : AccessRequest)
      (reply : Answer Decision) (expressions : Matcher) :
    Befalls s ⟨origin, .decide policies request, reply⟩ { s with expressions }
  | announce (origin : Origin) (user : Urn .user) :
    Befalls s ⟨origin, .announce user, ()⟩ (s.announce user)

end Realm

/-- A deed, and the realm in which it was done. -/
structure Moment where
  realm : Realm
  deed : Deed

/-- What a deed gives the subscribers of that moment to do. -/
def Moment.handed : Moment → List (Nat × Listener × Urn .user)
  | ⟨s, _, .announce user, _⟩ => s.listeners.audience.map fun l => (l.1, l.2, user)
  | ⟨_, _, .enter _, _⟩ | ⟨_, _, .leave _, _⟩ | ⟨_, _, .storage _, _⟩ | ⟨_, _, .accounts _, _⟩
  | ⟨_, _, .decide _ _, _⟩ => []

/-- One deed after the other leads from a realm to a realm; before each one subscribers come and
go. -/
inductive Unfolds : Realm → List Moment → Realm → Prop
  | nil (s : Realm) : Unfolds s [] s
  | cons {s t u : Realm} {deed : Deed} {moments : List Moment} (changes : List Turnover)
      (befalls : (s.turned changes).Befalls deed t) (rest : Unfolds t moments u) :
      Unfolds s (⟨s.turned changes, deed⟩ :: moments) u

namespace Realm

variable {s t : Realm} {deed : Deed}

theorem turn_storage (s : Realm) (change : Turnover) : (s.turn change).storage = s.storage := by
  cases change <;> rfl

theorem turn_pending (s : Realm) (change : Turnover) : (s.turn change).pending = s.pending := by
  cases change <;> rfl

theorem turn_heard (s : Realm) (change : Turnover) : (s.turn change).heard = s.heard := by
  cases change <;> rfl

theorem turn_wf (h : s.listeners.WF) (change : Turnover) : (s.turn change).listeners.WF := by
  cases change with
  | comes => exact h.subscribe .recorder
  | goes id => exact h.unsubscribe id

theorem turned_storage (s : Realm) (changes : List Turnover) :
    (s.turned changes).storage = s.storage := by
  induction changes generalizing s with
  | nil => rfl
  | cons change rest ih => exact (ih _).trans (s.turn_storage change)

theorem turned_pending (s : Realm) (changes : List Turnover) :
    (s.turned changes).pending = s.pending := by
  induction changes generalizing s with
  | nil => rfl
  | cons change rest ih => exact (ih _).trans (s.turn_pending change)

theorem turned_heard (s : Realm) (changes : List Turnover) :
    (s.turned changes).heard = s.heard := by
  induction changes generalizing s with
  | nil => rfl
  | cons change rest ih => exact (ih _).trans (s.turn_heard change)

theorem turned_wf (h : s.listeners.WF) (changes : List Turnover) :
    (s.turned changes).listeners.WF := by
  induction changes generalizing s with
  | nil => exact h
  | cons change rest ih => exact ih (turn_wf h change)

theorem Befalls.unchanged (h : s.Befalls deed t) (hidle : deed.Idle) :
    s.storage.Unchanged t.storage := by
  cases h with
  | enter | leave | fault | accounts | decide | announce => exact .refl _
  | storage origin call =>
    rcases hidle with hreads | ⟨failure, hfails⟩
    · show s.storage.Unchanged (s.storage.answer call).2
      rw [s.storage.answer_reads hreads]
      exact .refl _
    · exact Storage.Backend.answer_failed hfails

theorem Befalls.of_stored {call : Storage.Call} {reply : Answer call.Reply}
    (h : s.Befalls (.stored call reply) t) :
    s.askStorage call = (reply, t) ∨ ∃ failure, reply = .error failure ∧ t = s := by
  cases h with
  | storage => exact .inl rfl
  | fault _ _ failure => exact .inr ⟨failure, rfl, rfl⟩

theorem Befalls.pending (h : s.Befalls deed t) :
    t.pending = s.pending ++ Moment.handed ⟨s, deed⟩ := by
  cases h with
  | enter | leave | storage | fault | accounts | decide => exact (List.append_nil _).symm
  | announce => rfl

theorem Befalls.heard (h : s.Befalls deed t) : t.heard = s.heard := by cases h <;> rfl

theorem Befalls.listeners (h : s.Befalls deed t) : t.listeners = s.listeners := by cases h <;> rfl

end Realm

namespace Unfolds

variable {s t : Realm} {moments front back : List Moment}

theorem of_cons {m : Moment} (h : Unfolds s (m :: moments) t) :
    ∃ changes u, m.realm = s.turned changes ∧ m.realm.Befalls m.deed u ∧ Unfolds u moments t := by
  cases h with
  | cons changes befalls rest => exact ⟨changes, _, rfl, befalls, rest⟩

theorem of_append (h : Unfolds s (front ++ back) t) :
    ∃ u, Unfolds s front u ∧ Unfolds u back t := by
  induction front generalizing s with
  | nil => exact ⟨s, .nil s, h⟩
  | cons m front ih =>
    cases h with
    | cons changes befalls rest =>
      obtain ⟨u, hfront, hback⟩ := ih rest
      exact ⟨u, .cons changes befalls hfront, hback⟩

/-- The moment of one of the deeds, with what comes before it and after it. -/
theorem at_deed {before after : List Deed} {deed : Deed} (h : Unfolds s moments t)
    (hdeeds : moments.map Moment.deed = before ++ deed :: after) :
    ∃ front r u back, moments = front ++ ⟨r, deed⟩ :: back ∧ front.map Moment.deed = before ∧
      back.map Moment.deed = after ∧ r.Befalls deed u ∧ Unfolds u back t := by
  obtain ⟨front, rest, rfl, rfl, hrest⟩ := List.map_eq_append_iff.1 hdeeds
  obtain ⟨m, back, rfl, rfl, rfl⟩ := List.map_eq_cons_iff.1 hrest
  obtain ⟨r, -, hback⟩ := h.of_append
  obtain ⟨changes, u, -, hbefalls, hback⟩ := hback.of_cons
  exact ⟨front, m.realm, u, back, rfl, rfl, rfl, hbefalls, hback⟩

/-- As long as no write succeeds what is stored is unchanged, at each moment and in the end. -/
theorem unchanged (h : Unfolds s moments t) (hidle : ∀ m ∈ moments, m.deed.Idle) :
    (∀ m ∈ moments, s.storage.Unchanged m.realm.storage) ∧ s.storage.Unchanged t.storage := by
  induction h with
  | nil s => exact ⟨List.forall_mem_nil _, .refl _⟩
  | @cons s t u deed moments changes befalls rest ih =>
    obtain ⟨hdeed, hrest⟩ := List.forall_mem_cons.1 hidle
    obtain ⟨hmoments, hend⟩ := ih hrest
    have hnow : s.storage.Unchanged (s.turned changes).storage := by
      rw [s.turned_storage changes]
      exact .refl _
    have hnext := hnow.trans (befalls.unchanged hdeed)
    exact ⟨List.forall_mem_cons.2 ⟨hnow, fun m hm => hnext.trans (hmoments m hm)⟩,
      hnext.trans hend⟩

/-- Where a record has been stored, and nothing after it, it is kept in the end. -/
theorem holds {k : Kind} {record : Record k} {before after : List Deed} (h : Unfolds s moments t)
    (hdeeds : moments.map Moment.deed = before ++ .stored (.store k record) (.ok ()) :: after)
    (hidle : ∀ deed ∈ after, deed.Idle) :
    ∃ entry, t.storage.entry k record.id.text = some entry ∧ entry.Holds record := by
  obtain ⟨front, r, u, back, -, -, rfl, hbefalls, hback⟩ := h.at_deed hdeeds
  rcases hbefalls.of_stored with hstored | ⟨failure, hfails, -⟩
  · have hu : (r.storage.answer (.store k record)).2 = u.storage :=
      congrArg (fun answered => answered.2.storage) hstored
    obtain ⟨entry, hentry, hholds⟩ :=
      Storage.Backend.holds_of_store (b := r.storage) (congrArg Prod.fst hstored)
    have hkept := (hback.unchanged fun m hm => hidle _ (List.mem_map_of_mem hm)).2
    rw [← hu] at hkept
    exact ⟨entry, (hkept.entry k record.id.text).trans hentry, hholds⟩
  · cases hfails

/-- Where a record has been erased, and nothing written after it, it is gone at each moment that
follows and in the end. -/
theorem gone {k : Kind} {id : Urn k} {before after : List Deed} (h : Unfolds s moments t)
    (hdeeds : moments.map Moment.deed = before ++ .stored (.erase k id) (.ok ()) :: after)
    (hidle : ∀ deed ∈ after, deed.Idle) :
    ∃ front back, moments = front ++ back ∧
      front.map Moment.deed = before ++ [.stored (.erase k id) (.ok ())] ∧
      back.map Moment.deed = after ∧ (∀ m ∈ back, m.realm.storage.entry k id.text = none) ∧
      t.storage.entry k id.text = none := by
  obtain ⟨front, r, u, back, rfl, rfl, rfl, hbefalls, hback⟩ := h.at_deed hdeeds
  rcases hbefalls.of_stored with herased | ⟨failure, hfails, -⟩
  · have hu : (r.storage.answer (.erase k id)).2 = u.storage :=
      congrArg (fun answered => answered.2.storage) herased
    have hgone : u.storage.entry k id.text = none := by
      rw [← hu]
      exact Storage.Backend.entry_of_erase (congrArg Prod.fst herased)
    obtain ⟨hmoments, hend⟩ := hback.unchanged fun m hm => hidle _ (List.mem_map_of_mem hm)
    exact ⟨front ++ [⟨r, .stored (.erase k id) (.ok ())⟩], back, List.append_cons _ _ _,
      List.map_append, rfl, fun m hm => ((hmoments m hm).entry k id.text).trans hgone,
      (hend.entry k id.text).trans hgone⟩
  · cases hfails

/-- What the subscribers have to do grows by what each deed gives them to do. -/
theorem pending (h : Unfolds s moments t) :
    t.pending = s.pending ++ moments.flatMap Moment.handed := by
  induction h with
  | nil s => exact (List.append_nil _).symm
  | @cons s t u deed moments changes befalls rest ih =>
    rw [ih, befalls.pending, s.turned_pending, List.flatMap_cons, List.append_assoc]

theorem heard (h : Unfolds s moments t) : t.heard = s.heard := by
  induction h with
  | nil s => rfl
  | @cons s t u deed moments changes befalls rest ih =>
    rw [ih, befalls.heard, s.turned_heard]

/-- At each moment, and in the end, no two subscribers have the same number. -/
theorem wf (h : Unfolds s moments t) (hs : s.listeners.WF) :
    (∀ m ∈ moments, m.realm.listeners.WF) ∧ t.listeners.WF := by
  induction h with
  | nil s => exact ⟨List.forall_mem_nil _, hs⟩
  | @cons s t u deed moments changes befalls rest ih =>
    have hnow := Realm.turned_wf hs changes
    obtain ⟨hmoments, hend⟩ := ih (befalls.listeners ▸ hnow)
    exact ⟨List.forall_mem_cons.2 ⟨hnow, hmoments⟩, hend⟩

end Unfolds

/-! ## Fortunes -/

/-- How calls turn out, each by what has been done before it. -/
structure Fortune where
  gate : List Deed → Origin → Kind → Answer Unit
  /-- Why the storage fails, if it does; it has then done nothing. -/
  fault : List Deed → Origin → Storage.Call → Option Failure
  accounts : List Deed → Origin → (call : Accounts.Call) → Answer call.Reply
  /-- Who comes and goes among the subscribers before the next call. -/
  turnover : List Deed → List Turnover

/-- A realm, and what has been done in it. -/
structure Chronicle where
  realm : Realm
  moments : List Moment

def Chronicle.deeds (c : Chronicle) : List Deed := c.moments.map Moment.deed

namespace Fortune

variable {α : Type}

/-- What a call is answered, and what it makes of a realm, after what has been done before. -/
def answer (fortune : Fortune) (done : List Deed) (origin : Origin) (call : Call) (s : Realm) :
    call.Reply × Realm :=
  match call with
  | .enter gate => (fortune.gate done origin gate, s)
  | .storage call =>
    match fortune.fault done origin call with
    | some failure => (.error failure, s)
    | none => s.askStorage call
  | .accounts call => (fortune.accounts done origin call, s)
  | .leave gate => s.answer false origin (.leave gate)
  | .decide policies request => s.answer false origin (.decide policies request)
  | .announce user => s.answer false origin (.announce user)

/-- Lets subscribers come and go, and then answers a call. -/
def follow (fortune : Fortune) (origin : Origin) (call : Call) (c : Chronicle) :
    call.Reply × Chronicle :=
  let s := c.realm.turned (fortune.turnover c.deeds)
  let (reply, t) := fortune.answer c.deeds origin call s
  (reply, ⟨t, c.moments ++ [⟨s, origin, call, reply⟩]⟩)

/-- Runs a program in a realm under a fortune. -/
def run (fortune : Fortune) (program : Program α) (s : Realm) : α × Chronicle :=
  program.run fortune.follow ⟨s, []⟩

/-- Runs a service in a realm under a fortune. -/
def serve (fortune : Fortune) (service : Service α) (s : Realm) : Answer α × Chronicle :=
  fortune.run service.run s

theorem answer_befalls (fortune : Fortune) (done : List Deed) (origin : Origin) (call : Call)
    (s : Realm) : s.Befalls ⟨origin, call, (fortune.answer done origin call s).1⟩
      (fortune.answer done origin call s).2 := by
  cases call with
  | enter gate => exact .enter origin gate _
  | leave gate => exact .leave origin gate
  | accounts call => exact .accounts origin call _
  | decide policies request => exact .decide origin policies request _ _
  | announce user => exact .announce origin user
  | storage call =>
    cases hfault : fortune.fault done origin call with
    | some failure =>
      have hanswer : fortune.answer done origin (.storage call) s = (.error failure, s) := by
        simp only [answer, hfault]
      rw [hanswer]
      exact .fault origin call failure
    | none =>
      have hanswer : fortune.answer done origin (.storage call) s = s.askStorage call := by
        simp only [answer, hfault]
        rfl
      rw [hanswer]
      exact .storage origin call

/-- What a program does under a fortune is what it may do, and unfolds in its realm. -/
theorem run_unfolds (fortune : Fortune) (program : Program α) (s : Realm) :
    program.Plays (fortune.run program s).2.deeds (fortune.run program s).1 ∧
      Unfolds s (fortune.run program s).2.moments (fortune.run program s).2.realm := by
  -- the induction is on the program, for any chronicle, as each call goes by what was done before
  have hfrom (c : Chronicle) : ∃ moments,
      (program.run fortune.follow c).2.moments = c.moments ++ moments ∧
        program.Plays (moments.map Moment.deed) (program.run fortune.follow c).1 ∧
        Unfolds c.realm moments (program.run fortune.follow c).2.realm := by
    induction program generalizing c with
    | done value => exact ⟨[], (List.append_nil _).symm, .done value, .nil _⟩
    | ask origin call next ih =>
      obtain ⟨moments, hmoments, hplays, hunfolds⟩ :=
        ih (fortune.follow origin call c).1 (fortune.follow origin call c).2
      refine ⟨⟨c.realm.turned (fortune.turnover c.deeds), origin, call,
        (fortune.follow origin call c).1⟩ :: moments, ?_, .ask hplays,
        .cons _ (fortune.answer_befalls c.deeds origin call _) hunfolds⟩
      exact hmoments.trans (List.append_assoc _ _ _)
  obtain ⟨moments, hmoments, hplays, hunfolds⟩ := hfrom ⟨s, []⟩
  obtain rfl : (fortune.run program s).2.moments = moments := hmoments
  exact ⟨hplays, hunfolds⟩

theorem serve_plays (fortune : Fortune) (service : Service α) (s : Realm) :
    service.Plays (fortune.serve service s).2.deeds (fortune.serve service s).1 :=
  (fortune.run_unfolds service.run s).1

theorem serve_unfolds (fortune : Fortune) (service : Service α) (s : Realm) :
    Unfolds s (fortune.serve service s).2.moments (fortune.serve service s).2.realm :=
  (fortune.run_unfolds service.run s).2

/-! ### The fortune of a realm beside an account store -/

variable {σ : Type}

/-- What a bridge remembers after what has been done. -/
def remembered (bridge : Accounts.Bridge σ) (givenUp : Bool) (memory : σ) (done : List Deed) : σ :=
  done.foldl (fun memory deed =>
    match deed.call with
    | .accounts call => (bridge (givenUp && deed.origin == .caller) call memory).2
    | _ => memory) memory

/-- Nothing fails but what is asked for on behalf of a caller who has given up; accounts are
answered by a bridge, and nobody comes or goes. -/
def beside (bridge : Accounts.Bridge σ) (givenUp : Bool) (memory : σ) : Fortune where
  gate _ origin _ := if givenUp && origin == .caller then .error .cancelled else .ok ()
  fault _ origin _ := if givenUp && origin == .caller then some .cancelled else none
  accounts done origin call :=
    (bridge (givenUp && origin == .caller) call (remembered bridge givenUp memory done)).1
  turnover _ := []

variable (bridge : Accounts.Bridge σ) (givenUp : Bool) (memory : σ)

/-- A chronicle has come to where a realm and a bridge are that have begun with this memory. -/
structure Beside (c : Chronicle) (t : Realm × σ) : Prop where
  realm : c.realm = t.1
  memory : remembered bridge givenUp memory c.deeds = t.2

theorem remembered_follow (fortune : Fortune) (origin : Origin) (call : Call) (c : Chronicle) :
    remembered bridge givenUp memory (fortune.follow origin call c).2.deeds =
      match call with
      | .accounts call =>
        (bridge (givenUp && origin == .caller) call (remembered bridge givenUp memory c.deeds)).2
      | _ => remembered bridge givenUp memory c.deeds := by
  have hdeeds : (fortune.follow origin call c).2.deeds =
      c.deeds ++ [⟨origin, call, (fortune.follow origin call c).1⟩] := List.map_append
  rw [hdeeds]
  exact List.foldl_append

variable {bridge givenUp memory}

theorem Beside.follow {c : Chronicle} {t : Realm × σ} (h : Beside bridge givenUp memory c t)
    (origin : Origin) (call : Call) :
    ((beside bridge givenUp memory).follow origin call c).1 =
        (Realm.answerVia bridge givenUp origin call t).1 ∧
      Beside bridge givenUp memory ((beside bridge givenUp memory).follow origin call c).2
        (Realm.answerVia bridge givenUp origin call t).2 := by
  obtain ⟨realm, after⟩ := t
  obtain ⟨rfl, rfl⟩ := h
  have hmemory :=
    remembered_follow bridge givenUp memory (beside bridge givenUp memory) origin call c
  cases call with
  | enter _ | leave _ | accounts _ | decide _ _ | announce _ => exact ⟨rfl, rfl, hmemory⟩
  | storage call =>
    -- what is refused to a caller who has given up is a fault of the fortune
    refine ⟨?_, ?_, hmemory⟩ <;> cases hrefused : givenUp && origin == .caller <;>
      simp only [Fortune.follow, answer, beside, Realm.answerVia, Realm.answer, hrefused] <;> rfl

/-- What a realm does beside an account store of any kind it does under a fortune. -/
theorem run_beside (bridge : Accounts.Bridge σ) (givenUp : Bool) (memory : σ) (program : Program α)
    (s : Realm) :
    let ran := (beside bridge givenUp memory).run program s
    let via := Realm.runVia bridge givenUp program (s, memory)
    ran.1 = via.1 ∧ ran.2.realm = via.2.1 := by
  have hstart : Beside bridge givenUp memory ⟨s, []⟩ (s, memory) := ⟨rfl, rfl⟩
  obtain ⟨hvalue, hbeside⟩ :=
    program.only_any.run_related (fun origin call _ _ _ h => h.follow origin call) hstart
  exact ⟨hvalue, hbeside.realm⟩

end Fortune

end AccessControl
