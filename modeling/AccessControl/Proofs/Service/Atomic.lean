/-
A call that fails leaves the storage as it was, whatever rows are in it and whatever an account
store answers. Most services read and then write once, so that nothing can fail after the write; a
group is deleted in two writes, of which the second cannot fail where the first has been made.
Main statement: `failed_unchanged`.
-/
import AccessControl.Proofs.Concurrent.World
import AccessControl.Proofs.Realm.Bridge
import AccessControl.Proofs.Realm.Reading
import AccessControl.Proofs.Storage.Entries
import AccessControl.Service.Policies

namespace AccessControl

/-! ## Storages -/

namespace Storage

/-- A storage holds what another one holds: the same memory, or the same text in each row. -/
inductive Backend.Unchanged : Backend → Backend → Prop
  | memory (m : Memory) : Unchanged (.memory m) (.memory m)
  | table {t t' : Table} (rows : ∀ bucket key, t'.rows.text? bucket key = t.rows.text? bucket key) :
      Unchanged (.table t) (.table t')

theorem Backend.Unchanged.refl (b : Backend) : b.Unchanged b := by
  cases b with
  | memory m => exact .memory m
  | table t => exact .table fun _ _ => rfl

theorem Table.answer_failed {t : Table} {call : Call} {failure : Failure}
    (h : (t.answer call).1 = .error failure) (bucket key : String) :
    (t.answer call).2.rows.text? bucket key = t.rows.text? bucket key := by
  cases call with
  | load k id => simp only [answer]; split <;> rfl
  | list _ | memberships _ | members _ => rfl
  | store _ _ | join _ _ | part _ _ => exact congrArg (·.rows.text? bucket key) (transact_failed h)
  | disband group =>
    rcases htransact : t.transact (Membership.disband group.text) with ⟨result, t'⟩
    simp only [answer, htransact] at h ⊢
    cases result with
    | ok users => cases h
    | error failure =>
      have hkept := transact_failed (congrArg Prod.fst htransact)
      rw [htransact] at hkept
      exact congrArg (·.rows.text? bucket key) hkept
  | erase k id =>
    cases hopen : t.isOpen with
    | false =>
      have hclosed : t.transact (Transaction.remove (bucketOf k) id.text) =
          (.error (closed "begin"), t) := by
        unfold transact
        rw [hopen]
        rfl
      simp only [answer, hclosed]
    | true =>
      -- the transaction goes through, and what failed is that there was no row to remove
      have hrun : (Transaction.remove (bucketOf k) id.text).run t.rows =
          .ok ((t.rows.text? (bucketOf k) id.text).isSome, t.rows.remove (bucketOf k) id.text) :=
        rfl
      simp only [answer, transact_ok hopen hrun] at h ⊢
      cases hrow : t.rows.text? (bucketOf k) id.text with
      | some text => rw [hrow] at h; cases h
      | none =>
        show (t.rows.remove (bucketOf k) id.text).text? bucket key = _
        rw [Rows.text?_remove]
        split
        · rename_i heq
          rw [← heq.1, ← heq.2, hrow]
        · rfl

namespace Backend

/-- A call that fails changes nothing. -/
theorem answer_failed {b : Backend} {call : Call} {failure : Failure}
    (h : (b.answer call).1 = .error failure) : b.Unchanged (b.answer call).2 := by
  cases b with
  | table t => exact .table (Table.answer_failed h)
  | memory m =>
    cases call with
    | load k id =>
      have hreads : (Call.load k id).Reads := trivial
      rw [answer_reads hreads]
      exact .memory m
    | list _ | memberships _ | members _ => exact .memory m
    | store _ _ | join _ _ | disband _ => cases h
    | erase _ _ | part _ _ =>
      simp only [answer, Memory.answer] at h ⊢
      split at h
      · cases h
      · rename_i hmissing
        rw [if_neg hmissing]
        exact .memory m

/-- Where a record of a group has been loaded and its memberships have been ended, the record is
still there to be erased. -/
theorem erase_after_disband {b : Backend} {group : Urn .group} {record : Group}
    (hload : (b.answer (.load .group group)).1 = .ok record) {users : List (Urn .user)}
    (hdisband : (b.answer (.disband group)).1 = .ok users) :
    ((b.answer (.disband group)).2.answer (.erase .group group)).1 = .ok () := by
  have hspares : ¬ (Call.disband group).Writes .group group.text := id
  have hkept := b.entry_answer hspares
  cases b with
  | memory m =>
    have hstored : m.Stored .group group.text := by
      have htells := Memory.load_names m (.load .group group)
      simp only [answer] at hload
      rwa [hload] at htells
    show ((Memory.answer _ (.erase .group group))).1 = _
    exact congrArg Prod.fst (if_pos hstored)
  | table t =>
    have hopen : t.isOpen = true := by
      cases hopen : t.isOpen with
      | true => rfl
      | false =>
        simp only [answer, Table.answer, Table.text?, Table.peek, hopen] at hload
        cases hload
    have hrow : (t.rows.text? (Table.bucketOf .group) group.text).isSome = true := by
      cases hrow : t.rows.text? (Table.bucketOf .group) group.text with
      | some text => rfl
      | none =>
        simp only [answer, Table.answer, Table.text?, Table.peek, hopen, hrow] at hload
        cases hload
    rcases htransact : t.transact (Table.Membership.disband group.text) with ⟨result, t'⟩
    have hopen' : t'.isOpen = true := by
      unfold Table.transact at htransact
      rw [if_pos hopen] at htransact
      split at htransact <;> cases htransact <;> exact hopen
    simp only [answer, Table.answer, htransact] at hdisband hkept ⊢
    cases result with
    | error failure => cases hdisband
    | ok roster =>
      simp only [entry] at hkept
      have hrow' : (t'.rows.text? (Table.bucketOf .group) group.text).isSome = true := by
        rw [← Option.isSome_map, hkept, Option.isSome_map]
        exact hrow
      have hrun : (Transaction.remove (Table.bucketOf .group) group.text).run t'.rows =
          .ok (true, t'.rows.remove (Table.bucketOf .group) group.text) := by
        rw [← hrow']
        rfl
      simp only [Table.transact_ok hopen' hrun]

end Backend

end Storage

/-- The call changes nothing that is stored. -/
def Call.Spectates : Call → Prop
  | storage call => call.Reads
  | enter _ | leave _ | accounts _ | decide _ _ | announce _ => True

/-! ## Services -/

namespace Service

open Realm (serveVia serveVia_bind serveVia_storage serveVia_discard serveVia_attempt
  serveVia_guarded serveVia_detached)

variable {α β : Type}

/-- However its calls are answered, where the service fails the storage is unchanged. -/
structure Atomic (service : Service α) : Prop where
  unchanged : ∀ {σ : Type} (bridge : Accounts.Bridge σ) (givenUp : Bool) (s : Realm × σ)
    (failure : Failure), (serveVia bridge givenUp service s).1 = .error failure →
      s.1.storage.Unchanged (serveVia bridge givenUp service s).2.1.storage

/-- However its calls are answered, the service does not fail. -/
structure Sure (service : Service α) : Prop where
  ok : ∀ {σ : Type} (bridge : Accounts.Bridge σ) (givenUp : Bool) (s : Realm × σ),
    ∃ a, (serveVia bridge givenUp service s).1 = .ok a

theorem sure_pure (a : α) : Sure (pure a) := ⟨fun _ _ _ => ⟨a, rfl⟩⟩

theorem sure_announce (user : Urn .user) : Sure (announce user) := ⟨fun _ _ _ => ⟨(), rfl⟩⟩

theorem sure_attempt (service : Service α) : Sure service.attempt :=
  ⟨fun _ _ _ => ⟨_, congrArg Prod.fst (serveVia_attempt service)⟩⟩

theorem Sure.bind {service : Service α} {next : α → Service β} (h : service.Sure)
    (hnext : ∀ a, (next a).Sure) : (service >>= next).Sure := by
  refine ⟨fun bridge givenUp s => ?_⟩
  obtain ⟨a, ha⟩ := h.ok bridge givenUp s
  rw [serveVia_bind]
  rcases hserve : serveVia bridge givenUp service s with ⟨answer, t⟩
  rw [hserve] at ha
  cases ha
  exact (hnext a).ok bridge givenUp t

theorem Sure.discard {service : Service α} (h : service.Sure) : (discard service).Sure :=
  Sure.bind h fun _ => sure_pure ()

/-! ### What leaves the storage alone -/

theorem Only.storage_serveVia {service : Service α} (h : service.Only Call.Spectates) {σ : Type}
    (bridge : Accounts.Bridge σ) (givenUp : Bool) (s : Realm × σ) :
    (serveVia bridge givenUp service s).2.1.storage = s.1.storage := by
  refine Program.Only.run_kept (I := fun t : Realm × σ => t.1.storage = s.1.storage) h
    (fun origin call hcall t ht => ?_) rfl
  rw [← ht]
  cases call with
  | enter _ | leave _ | accounts _ | decide _ _ | announce _ => rfl
  | storage call =>
    cases hrefused : givenUp && origin == .caller <;>
      simp only [Realm.answerVia, Realm.answer, hrefused]
    · exact t.1.storage.answer_reads hcall
    · rfl

theorem Only.atomic {service : Service α} (h : service.Only Call.Spectates) : service.Atomic := by
  refine ⟨fun bridge givenUp s failure _ => ?_⟩
  rw [h.storage_serveVia]
  exact .refl _

theorem atomic_throw (failure : Failure) : Atomic (throw failure : Service α) :=
  (only_throw failure).atomic

theorem atomic_throw_bind (failure : Failure) (next : α → Service β) :
    Atomic ((throw failure : Service α) >>= next) := (only_throw_bind failure next).atomic

/-! ### What writes -/

theorem atomic_storage (call : Storage.Call) : Atomic (storage call) := by
  refine ⟨fun bridge givenUp s failure h => ?_⟩
  cases givenUp with
  | true => exact .refl _
  | false => exact Storage.Backend.answer_failed h

/-- After what leaves the storage alone. -/
theorem Atomic.after {service : Service α} {next : α → Service β}
    (h : service.Only Call.Spectates) (hnext : ∀ a, (next a).Atomic) :
    (service >>= next).Atomic := by
  refine ⟨fun bridge givenUp s failure hfails => ?_⟩
  have hstorage := h.storage_serveVia bridge givenUp s
  rw [serveVia_bind] at hfails ⊢
  rcases hserve : serveVia bridge givenUp service s with ⟨answer, t⟩
  rw [hserve] at hfails hstorage
  cases answer with
  | error failure =>
    dsimp only at hstorage ⊢
    rw [hstorage]
    exact .refl _
  | ok a =>
    dsimp only at hstorage hfails ⊢
    rw [← hstorage]
    exact (hnext a).unchanged bridge givenUp t failure hfails

/-- Before what does not fail. -/
theorem Atomic.before {service : Service α} {next : α → Service β} (h : service.Atomic)
    (hnext : ∀ a, (next a).Sure) : (service >>= next).Atomic := by
  refine ⟨fun bridge givenUp s failure hfails => ?_⟩
  rw [serveVia_bind] at hfails ⊢
  rcases hserve : serveVia bridge givenUp service s with ⟨answer, t⟩
  rw [hserve] at hfails
  cases answer with
  | error failure =>
    have hkept := h.unchanged bridge givenUp s failure (by rw [hserve])
    rwa [hserve] at hkept
  | ok a =>
    obtain ⟨b, hb⟩ := (hnext a).ok bridge givenUp t
    have hfails : (serveVia bridge givenUp (next a) t).1 = .error failure := hfails
    rw [hb] at hfails
    cases hfails

/-- What follows an attempt does not fail where it has succeeded, and leaves the storage alone where
it has failed. -/
theorem Atomic.attempted {service : Service α} {next : Answer α → Service β} (h : service.Atomic)
    (hok : ∀ a, (next (.ok a)).Sure)
    (herror : ∀ failure, (next (.error failure)).Only Call.Spectates) :
    (service.attempt >>= next).Atomic := by
  refine ⟨fun bridge givenUp s failure hfails => ?_⟩
  rw [serveVia_bind, serveVia_attempt] at hfails ⊢
  dsimp only at hfails ⊢
  cases hserve : (serveVia bridge givenUp service s).1 with
  | ok a =>
    rw [hserve] at hfails
    obtain ⟨b, hb⟩ := (hok a).ok bridge givenUp (serveVia bridge givenUp service s).2
    rw [hb] at hfails
    cases hfails
  | error cause =>
    rw [(herror cause).storage_serveVia]
    exact h.unchanged bridge givenUp s cause hserve

/-- Two writes after a look, where the second goes through wherever the first has been made. -/
theorem atomic_twice {look first second : Storage.Call} (hlook : look.Reads)
    (hsecond : ∀ (b : Storage.Backend) seen made, (b.answer look).1 = .ok seen →
      (b.answer first).1 = .ok made → ∃ a, ((b.answer first).2.answer second).1 = .ok a) :
    Atomic (do discard (storage look); discard (storage first); storage second) := by
  refine ⟨fun bridge givenUp s failure hfails => ?_⟩
  cases givenUp with
  | true => exact .refl _
  | false =>
    simp only [serveVia_bind, serveVia_discard, serveVia_storage,
      s.1.storage.answer_reads hlook] at hfails ⊢
    cases hseen : (s.1.storage.answer look).1 with
    | error cause => exact .refl _
    | ok seen =>
      simp only [hseen] at hfails ⊢
      cases hmade : (s.1.storage.answer first).1 with
      | error cause => exact Storage.Backend.answer_failed hmade
      | ok made =>
        obtain ⟨a, ha⟩ := hsecond s.1.storage seen made hseen hmade
        simp only [hmade, ha] at hfails
        cases hfails

theorem Atomic.ite {c : Prop} [Decidable c] {first second : Service α} (hf : first.Atomic)
    (hs : second.Atomic) : Atomic (if c then first else second) := by
  split
  · exact hf
  · exact hs

theorem Atomic.guarded {service : Service α} (h : service.Atomic) (gate : Kind) :
    (guarded gate service).Atomic := by
  refine ⟨fun bridge givenUp s failure hfails => ?_⟩
  rw [serveVia_guarded] at hfails ⊢
  cases givenUp with
  | true => exact .refl _
  | false => exact h.unchanged bridge false s failure hfails

theorem Atomic.detached {service : Service α} (h : service.Atomic) : service.detached.Atomic := by
  refine ⟨fun bridge givenUp s failure hfails => ?_⟩
  rw [serveVia_detached] at hfails ⊢
  exact h.unchanged bridge false s failure hfails

end Service

/-! ## The service of users -/

namespace Users

open Service

theorem spectates_named (user : Urn .user) : (named user).Only Call.Spectates :=
  Only.ite (only_pure ()) (only_throw _)

theorem atomic_guarded {α : Type} (user : Urn .user) {service : Service α} (h : service.Atomic) :
    (do named user; guarded .user service : Service α).Atomic :=
  Atomic.after (spectates_named user) fun _ => h.guarded .user

theorem atomic_storeNew (user : User) : (storeNew user).Atomic := by
  refine Atomic.after (Only.attempt (only_storage trivial)) fun answer => ?_
  cases answer with
  | ok _ => exact atomic_throw _
  | error failure => exact Atomic.ite (atomic_storage _) (atomic_throw failure)

theorem atomic_create (username password : String) (attributes : Option Attributes) :
    (create username password attributes).Atomic := by
  refine Atomic.guarded (Atomic.after (only_accounts trivial) fun account => ?_) .user
  refine Atomic.attempted (atomic_storeNew _) (fun _ => sure_pure _) fun failure => ?_
  exact (Only.discard (Only.attempt (Only.detached (only_accounts trivial)))).bind fun _ =>
    only_throw failure

theorem spectates_withLock (user : User) : (withLock user).Only Call.Spectates :=
  (only_accounts trivial).bind fun _ => only_pure _

theorem spectates_withLocks (users : List User) : (withLocks users).Only Call.Spectates := by
  induction users with
  | nil => exact only_pure _
  | cons user rest ih => exact (spectates_withLock user).bind fun _ => ih.bind fun _ => only_pure _

theorem spectates_load (user : Urn .user) : (load user).Only Call.Spectates :=
  (spectates_named user).bind fun _ => Only.guarded trivial trivial <|
    (only_storage trivial).bind fun record => spectates_withLock record

theorem spectates_list : list.Only Call.Spectates :=
  Only.guarded trivial trivial ((only_storage trivial).bind fun users => spectates_withLocks users)

theorem atomic_delete (user : Urn .user) : (delete user).Atomic :=
  atomic_guarded user <| Atomic.after (only_storage trivial) fun _ =>
    Atomic.after (only_accounts trivial) fun _ =>
      (atomic_storage _).before fun _ => sure_announce user

theorem spectates_setLocked (user : Urn .user) (locked : Bool) :
    (setLocked user locked).Only Call.Spectates :=
  (spectates_named user).bind fun _ => Only.guarded trivial trivial <|
    (only_storage trivial).bind fun _ => Only.ite (only_accounts trivial) (only_accounts trivial)

theorem atomic_modify (user : Urn .user) (change : User → User) : (modify user change).Atomic :=
  atomic_guarded user (Atomic.after (only_storage trivial) fun _ => atomic_storage _)

end Users

/-! ## The service of groups -/

namespace Groups

open Service

theorem atomic_guarded {α : Type} (group : Urn .group) {service : Service α} (h : service.Atomic) :
    (do named group; guarded .group service : Service α).Atomic :=
  Atomic.after (Only.ite (only_throw _) (only_pure ())) fun _ => h.guarded .group

theorem spectates_attempt (group : Urn .group) :
    (attempt (storage (.load .group group))).Only Call.Spectates :=
  Only.attempt (only_storage trivial)

theorem atomic_list : list.Atomic := Atomic.guarded (atomic_storage _) .group

theorem atomic_memberships (user : Urn .user) : (memberships user).Atomic :=
  Atomic.guarded (atomic_storage _) .group

/-- Whatever is done to a group, its record is loaded first. -/
theorem spectates_loaded (group : Urn .group) :
    (discard (storage (.load .group group))).Only Call.Spectates :=
  Only.discard (only_storage trivial)

theorem atomic_create (name : String) (comment : Option String) :
    (create name comment).Atomic := by
  refine Atomic.ite (atomic_throw_bind _ _) (Atomic.ite (atomic_throw_bind _ _) ?_)
  refine Atomic.guarded (Atomic.after (spectates_attempt _) fun answer => ?_) .group
  cases answer with
  | ok _ => exact atomic_throw _
  | error failure =>
    have hstore : (do storage (.store .group (Group.ofName name comment))
                      return (Group.ofName name comment).id : Service (Urn .group)).Atomic :=
      (atomic_storage _).before fun _ => sure_pure _
    exact Atomic.ite hstore (atomic_throw_bind _ _)

/-- The record that has been loaded is still there when the memberships have been ended. -/
theorem atomic_delete (group : Urn .group) : (delete group).Atomic :=
  atomic_guarded group <| atomic_twice trivial fun _ _ _ hload hdisband =>
    ⟨(), Storage.Backend.erase_after_disband hload hdisband⟩

theorem atomic_setComment (group : Urn .group) (comment : Option String) :
    (setComment group comment).Atomic :=
  atomic_guarded group (Atomic.after (only_storage trivial) fun _ => atomic_storage _)

theorem atomic_addMember (group : Urn .group) (user : Urn .user) :
    (addMember group user).Atomic :=
  atomic_guarded group <| Atomic.after (spectates_loaded group) fun _ =>
    Atomic.after (Only.discard (Users.spectates_load user)) fun _ => atomic_storage _

theorem atomic_removeMember (group : Urn .group) (user : Urn .user) :
    (removeMember group user).Atomic :=
  atomic_guarded group (Atomic.after (spectates_loaded group) fun _ => atomic_storage _)

theorem sure_leave (user : Urn .user) (groups : List (Urn .group)) : (leave user groups).Sure := by
  induction groups with
  | nil => exact sure_pure ()
  | cons group rest ih => exact Sure.bind (Sure.discard (sure_attempt _)) fun _ => ih

theorem atomic_reconcile (user : Urn .user) : (reconcile user).Atomic :=
  Atomic.detached <| Atomic.guarded
    ((atomic_storage (.memberships user)).before fun groups => sure_leave user groups) .group

end Groups

/-! ## The service of policies -/

namespace Policies

open Service

theorem atomic_guarded {α : Type} (id : Urn .policy) {service : Service α} (h : service.Atomic) :
    (do named id; guarded .policy service : Service α).Atomic :=
  Atomic.after (Only.ite (only_throw _) (only_pure ())) fun _ => h.guarded .policy

theorem atomic_list : list.Atomic := Atomic.guarded (atomic_storage _) .policy

theorem atomic_create (name : String) (policy : Policy) : (create name policy).Atomic :=
  Atomic.ite (atomic_throw_bind _ _) <| Atomic.ite (atomic_throw_bind _ _) <|
    Atomic.guarded ((atomic_storage _).before fun _ => sure_pure _) .policy

end Policies

/-! ## All services -/

/-- What is wanted of a service. -/
inductive Wish
  /-- Of the services of users and of groups. -/
  | errand (errand : Errand)
  | createPolicy (name : String) (policy : Policy)
  | deletePolicy (id : Urn .policy)
  | loadPolicy (id : Urn .policy)
  | updatePolicy (id : Urn .policy) (policy : Policy)
  | listPolicies
  | pagePolicies (limit offset : Nat)

namespace Wish

/-- What is answered to a wish that does not fail. -/
def Result : Wish → Type
  | errand e => e.Result
  | createPolicy _ _ => Urn .policy
  | loadPolicy _ => Policy
  | listPolicies | pagePolicies _ _ => List Policy
  | deletePolicy _ | updatePolicy _ _ => Unit

def service : (wish : Wish) → Service wish.Result
  | errand e => e.service
  | createPolicy name policy => Policies.create name policy
  | deletePolicy id => Policies.delete id
  | loadPolicy id => Policies.load id
  | updatePolicy id policy => Policies.update id policy
  | listPolicies => Policies.list
  | pagePolicies limit offset => Policies.listPage limit offset

end Wish

open Service in
theorem Errand.atomic (errand : Errand) : errand.service.Atomic := by
  cases errand with
  | createUser username password attributes =>
    exact Users.atomic_create username password attributes
  | loadUser user => exact (Users.spectates_load user).atomic
  | listUsers => exact Users.spectates_list.atomic
  | deleteUser user => exact Users.atomic_delete user
  | setLocked user locked => exact (Users.spectates_setLocked user locked).atomic
  | setAttributes user attributes => exact Users.atomic_modify user _
  | setAttribute user key value => exact Users.atomic_modify user _
  | eraseAttribute user key => exact Users.atomic_modify user _
  | createGroup name comment => exact Groups.atomic_create name comment
  | loadGroup group => exact Groups.atomic_guarded group (atomic_storage _)
  | listGroups => exact Groups.atomic_list
  | deleteGroup group => exact Groups.atomic_delete group
  | setComment group comment => exact Groups.atomic_setComment group comment
  | addMember group user => exact Groups.atomic_addMember group user
  | removeMember group user => exact Groups.atomic_removeMember group user
  | members group =>
    exact Groups.atomic_guarded group
      (Atomic.after (Groups.spectates_loaded group) fun _ => atomic_storage _)
  | memberships user => exact Groups.atomic_memberships user
  | reconcile user => exact Groups.atomic_reconcile user

open Service in
theorem Wish.atomic (wish : Wish) : wish.service.Atomic := by
  cases wish with
  | errand errand => exact errand.atomic
  | createPolicy name policy => exact Policies.atomic_create name policy
  | deletePolicy id => exact Policies.atomic_guarded id (atomic_storage _)
  | loadPolicy id => exact Policies.atomic_guarded id (atomic_storage _)
  | updatePolicy id policy => exact Policies.atomic_guarded id (atomic_storage _)
  | listPolicies => exact Policies.atomic_list
  | pagePolicies limit offset =>
    exact Atomic.ite Policies.atomic_list (atomic_throw _)

/-- A call to a service that fails leaves the storage as it was, whatever it holds and whatever an
account store answers. -/
theorem failed_unchanged {σ : Type} (bridge : Accounts.Bridge σ) (givenUp : Bool) (wish : Wish)
    (s : Realm) (memory : σ) {failure : Failure}
    (hfails : (Realm.serveVia bridge givenUp wish.service (s, memory)).1 = .error failure) :
    s.storage.Unchanged (Realm.serveVia bridge givenUp wish.service (s, memory)).2.1.storage :=
  wish.atomic.unchanged bridge givenUp (s, memory) failure hfails

/-- A group of two users, the second of which has a row that is no roster. -/
def damagedRows : Storage.Rows :=
  [("iam-v1-groups", [("urn:iam::group/dev",
      "\x7b\"id\":\"urn:iam::group/dev\",\"name\":\"dev\"\x7d")]),
    ("iam-v1-membership-groups",
      [("urn:iam::group/dev", "[\"urn:iam::user/1\",\"urn:iam::user/2\"]")]),
    ("iam-v1-membership-users",
      [("urn:iam::user/1", "[\"urn:iam::group/dev\"]"), ("urn:iam::user/2", "dev")])]

/-- The group is not deleted, because its second user cannot be taken out of it; the first user, who
could be, is in it as before. -/
theorem failed_unchanged_deletion :
    let s : Realm := .start (.table ⟨damagedRows, true⟩) (.register .empty) 0
    let deletion : Wish := .errand (.deleteGroup ⟨"urn:iam::group/dev"⟩)
    let idle : Accounts.Bridge Unit := fun _ _ _ => (.error .cancelled, ())
    (Realm.serveVia idle false deletion.service (s, ())).1 = .error Storage.Table.undecodable ∧
      s.storage.Unchanged (Realm.serveVia idle false deletion.service (s, ())).2.1.storage := by
  intro s deletion idle
  have hfails : (Realm.serveVia idle false (Groups.delete ⟨"urn:iam::group/dev"⟩) (s, ())).1 =
      .error Storage.Table.undecodable := by decide +kernel
  exact ⟨hfails, failed_unchanged idle false deletion s () hfails⟩

end AccessControl
