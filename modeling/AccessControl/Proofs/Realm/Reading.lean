/-
What a realm keeps while programs only read. Two realms are alike when they store the same, have
made the same of the accounts and owe their subscribers the same. Main statements: a program that
only reads leaves a realm alike (`alike_run`), and alike realms settle alike (`Alike.settle`).
-/
import AccessControl.Proofs.Http
import AccessControl.Proofs.Program
import AccessControl.Proofs.Realm.Run

namespace AccessControl

/-! ## Storages -/

namespace Storage

/-- The call changes nothing. -/
def Call.Reads : Call → Prop
  | load _ _ | list _ | memberships _ | members _ => True
  | store _ _ | erase _ _ | join _ _ | part _ _ | disband _ => False

theorem Backend.answer_reads {call : Call} (h : call.Reads) (b : Backend) :
    (b.answer call).2 = b := by
  cases b with
  | memory m =>
    cases call with
    | load k id => simp only [Backend.answer, Memory.answer]; split <;> rfl
    | list _ | memberships _ | members _ => rfl
    | store _ _ | erase _ _ | join _ _ | part _ _ | disband _ => exact h.elim
  | table t =>
    cases call with
    | load k id => simp only [Backend.answer, Table.answer]; split <;> rfl
    | list _ | memberships _ | members _ => rfl
    | store _ _ | erase _ _ | join _ _ | part _ _ | disband _ => exact h.elim

end Storage

/-! ## Account stores -/

namespace Accounts

/-- The call changes no account. -/
def Call.Reads : Call → Prop
  | account _ | subject _ => True
  | create _ _ _ | lock _ | unlock _ | archive _ => False

namespace Client

open Http Http.Dialogue

theorem send_asks {request : Option Request} (h : ∀ r, request = some r → r.method = .get) :
    (send request).Asks := by
  unfold send
  cases request with
  | none => exact asks_pure _
  | some request =>
    dsimp only
    refine (exchange_asks (h request rfl)).bind fun reply => ?_
    cases reply <;> exact asks_pure _

theorem method_request? {client : Client} {method : Http.Method} {path : String} {r : Request}
    (h : client.request? method path = some r) : r.method = method := by
  unfold Client.request? at h
  obtain ⟨url, -, h⟩ := Option.bind_eq_some_iff.1 h
  cases h
  rfl

theorem fetch_asks (client : Client) : client.fetch.Asks := by
  dsimp only [fetch]
  refine (send_asks fun r h => ?_).bind fun reply => ?_
  · obtain ⟨url, -, rfl⟩ := Option.map_eq_some_iff.1 h
    rfl
  · split
    · exact asks_pure _
    · split <;> exact asks_pure _

theorem key_asks (client : Client) (now : Nat) (id : Option String) :
    (client.key now id).Asks := by
  unfold Client.key
  split
  · exact asks_pure _
  · exact asks_pure _
  · split
    · exact asks_pure _
    · refine (fetch_asks client).bind fun answer => ?_
      split
      · exact asks_pure _
      · split <;> exact asks_pure _

theorem subject_asks (client : Client) (now : Nat) (token : String) :
    (client.subject now token).Asks := by
  unfold Client.subject
  split
  · exact asks_pure _
  · split
    · exact asks_pure _
    · refine (key_asks client now _).bind fun found => ?_
      split <;> exact asks_pure _

theorem account_asks (client : Client) (id : Int) : (client.account id).Asks := by
  unfold Client.account
  exact (send_asks fun _ h => method_request? h).bind fun _ => asks_pure _

theorem answer_asks {call : Call} (h : call.Reads) (client : Client) (now : Nat) :
    (client.answer now call).Asks := by
  cases call with
  | account id => exact (account_asks client id).bind fun _ => asks_pure _
  | subject token => exact subject_asks client now token
  | create _ _ _ | lock _ | unlock _ | archive _ => exact h.elim

end Client

/-- What there is of the accounts: a register, or the orders that servers have been given. -/
inductive Holdings
  | kept (register : Register)
  | ordered (servers : Http.Servers) (orders : List Http.Request)

def Store.holdings : Store → Holdings
  | register r => .kept r
  | remote _ servers sent => .ordered servers (Http.orders sent)

theorem Store.holdings_answer {call : Call} (h : call.Reads) (store : Store) (now : Nat) :
    (store.answer now call).2.holdings = store.holdings := by
  cases store with
  | register r =>
    cases call with
    | account id => simp only [Store.answer, Register.answer]; split <;> rfl
    | subject token => rfl
    | create _ _ _ | lock _ | unlock _ | archive _ => exact h.elim
  | remote client servers sent =>
    have horders := (Client.answer_asks h client now).orders_run servers sent
    simp only [Store.answer, holdings, horders]

end Accounts

/-! ## Realms -/

/-- The call changes neither what is stored nor the accounts, and gives subscribers nothing to do.
-/
def Call.Reads : Call → Prop
  | enter _ | leave _ | decide _ _ => True
  | storage call => call.Reads
  | accounts call => call.Reads
  | announce _ => False

/-- The call is about gates and the storage. -/
def Call.Inward : Call → Prop
  | enter _ | leave _ | storage _ => True
  | accounts _ | decide _ _ | announce _ => False

/-- The call is one that takes users out of groups. -/
def Call.Parts : Call → Prop
  | enter _ | leave _ => True
  | storage (.memberships _) | storage (.part _ _) => True
  | storage _ | accounts _ | decide _ _ | announce _ => False

theorem Call.Parts.inward {call : Call} (h : call.Parts) : call.Inward := by
  cases call with
  | enter _ | leave _ | storage _ => trivial
  | accounts _ | decide _ _ | announce _ => exact h.elim

namespace Realm

/-- Realms that store the same, have made the same of the accounts and owe the same to the same
subscribers. What they have read to find that out may differ. -/
structure Alike (s t : Realm) : Prop where
  storage : s.storage = t.storage
  holdings : s.accounts.holdings = t.accounts.holdings
  listeners : s.listeners = t.listeners
  pending : s.pending = t.pending
  heard : s.heard = t.heard

variable {s t u : Realm}

theorem Alike.refl (s : Realm) : Alike s s := ⟨rfl, rfl, rfl, rfl, rfl⟩

theorem Alike.trans (h : Alike s t) (h' : Alike t u) : Alike s u :=
  ⟨h.storage.trans h'.storage, h.holdings.trans h'.holdings, h.listeners.trans h'.listeners,
    h.pending.trans h'.pending, h.heard.trans h'.heard⟩

theorem askStorage_reads {call : Storage.Call} (h : call.Reads) (s : Realm) :
    s.askStorage call = ((s.storage.answer call).1, s) := by
  have hstorage := s.storage.answer_reads h
  rcases hanswer : s.storage.answer call with ⟨answer, storage⟩
  rw [hanswer] at hstorage
  cases hstorage
  simp only [askStorage, hanswer]

theorem serve_reads {β : Type} (call : Storage.Call) (h : call.Reads)
    (next : call.Reply → Service β)
    (s : Realm) :
    s.serve (Service.storage call >>= next) =
      match (s.storage.answer call).1 with
      | .ok reply => s.serve (next reply)
      | .error failure => (.error failure, s) := by
  rw [serve_bind, serve_storage, askStorage_reads h]
  cases (s.storage.answer call).1 <;> rfl

theorem serve_attempt_reads {β : Type} (call : Storage.Call) (h : call.Reads)
    (next : Answer call.Reply → Service β) (s : Realm) :
    s.serve (Service.attempt (Service.storage call) >>= next) =
      s.serve (next (s.storage.answer call).1) := by
  rw [serve_bind, serve_attempt, serve_storage, askStorage_reads h]

theorem alike_answer {call : Call} (h : call.Reads) (givenUp : Bool) (origin : Origin)
    (s : Realm) : Alike (s.answer givenUp origin call).2 s := by
  cases call with
  | enter _ | leave _ | decide _ _ => exact ⟨rfl, rfl, rfl, rfl, rfl⟩
  | storage call =>
    rcases answer_storage givenUp origin call s with hanswer | hanswer <;> rw [hanswer]
    · exact .refl s
    · exact ⟨s.storage.answer_reads h, rfl, rfl, rfl, rfl⟩
  | accounts call =>
    rcases answer_accounts givenUp origin call s with hanswer | hanswer <;> rw [hanswer]
    · exact .refl s
    · exact ⟨rfl, s.accounts.holdings_answer h s.now, rfl, rfl, rfl⟩
  | announce _ => exact h.elim

/-- A program that only reads leaves the realm as it is. -/
theorem alike_run {α : Type} {p : Program α} (h : p.Only Call.Reads) (givenUp : Bool) (s : Realm) :
    Alike (s.run givenUp p).2 s :=
  h.run_kept (I := fun t => Alike t s)
    (fun origin _ hcall t ht => (alike_answer hcall givenUp origin t).trans ht) (.refl s)

theorem Alike.answer {call : Call} (hcall : call.Inward) (h : Alike s t) (givenUp : Bool)
    (origin : Origin) :
    (s.answer givenUp origin call).1 = (t.answer givenUp origin call).1 ∧
      Alike (s.answer givenUp origin call).2 (t.answer givenUp origin call).2 := by
  cases call with
  | enter _ | leave _ => exact ⟨rfl, h⟩
  | storage call =>
    cases hrefused : givenUp && origin == .caller with
    | true =>
      simp only [Realm.answer, hrefused]
      exact ⟨rfl, h⟩
    | false =>
      simp only [Realm.answer, hrefused, Bool.false_eq_true, askStorage, h.storage]
      exact ⟨rfl, rfl, h.holdings, h.listeners, h.pending, h.heard⟩
  | accounts _ | decide _ _ | announce _ => exact hcall.elim

/-- What a program does that is about gates and the storage depends on nothing else. -/
theorem Alike.run {α : Type} {p : Program α} (hp : p.Only Call.Inward) (h : Alike s t)
    (givenUp : Bool) :
    (s.run givenUp p).1 = (t.run givenUp p).1 ∧ Alike (s.run givenUp p).2 (t.run givenUp p).2 :=
  hp.run_related (R := Alike) (fun origin _ hcall _ _ h => h.answer hcall givenUp origin) h

/-! ## What deletions bring about -/

theorem only_leave (user : Urn .user) (groups : List (Urn .group)) :
    (Groups.leave user groups).Only Call.Parts := by
  induction groups with
  | nil => exact Service.only_pure ()
  | cons group rest ih =>
    refine Service.Only.bind (Service.Only.discard ?_) fun _ => ih
    exact Service.Only.attempt (Service.only_storage trivial)

theorem only_reconcile (user : Urn .user) : (Groups.reconcile user).Only Call.Parts :=
  Service.Only.detached <| Service.Only.guarded trivial trivial <|
    (Service.only_storage trivial).bind fun groups => only_leave user groups

theorem Alike.hear (h : Alike s t) (task : Nat × Listener × Urn .user) :
    Alike (s.hear task) (t.hear task) := by
  obtain ⟨id, listener, user⟩ := task
  cases listener with
  | reconciler =>
    exact (h.run (Program.Only.mono (fun _ => Call.Parts.inward) (only_reconcile user)) false).2
  | recorder =>
    exact ⟨h.storage, h.holdings, h.listeners, h.pending, congrArg (· ++ [(id, user)]) h.heard⟩

/-- Realms that are alike are so when the subscribers have done what they have to do. -/
theorem Alike.settle (h : Alike s t) : Alike s.settle t.settle := by
  have hfold (tasks : List (Nat × Listener × Urn .user)) :
      ∀ s t, Alike s t → Alike (tasks.foldl Realm.hear s) (tasks.foldl Realm.hear t) := by
    induction tasks with
    | nil => exact fun _ _ h => h
    | cons task rest ih => exact fun _ _ h => ih _ _ (h.hear task)
  unfold Realm.settle
  rw [h.pending]
  exact hfold _ { s with pending := [] } { t with pending := [] }
    ⟨h.storage, h.holdings, h.listeners, rfl, h.heard⟩

end Realm

end AccessControl
