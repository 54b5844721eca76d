/-
What becomes of an account whose user cannot be recorded. Opening a user makes up to four calls that
may fail, one of which makes up for the others. Main statement: however the calls turn out, either
the user is recorded and its account stays, or the account is archived again, once and on the
service's own account, nothing that is stored has changed, and the failure is the one that came
first (`create_compensated`).
-/
import AccessControl.Proofs.Service.Fortune

namespace AccessControl.Users

open Service

/-- It asks for an account to be archived. -/
def archives : Deed → Bool
  | ⟨_, .accounts (.archive _), _⟩ => true
  | _ => false

/-! ## What the calls can be -/

/-- How it can go when a new record is stored. -/
inductive Storing (user : User) : List Deed → Answer Unit → Prop
  /-- There is a record of that name already. -/
  | occupied (record : User) :
    Storing user [.stored (.load .user user.id) (.ok record)] (.error (.conflict "user"))
  /-- It cannot be told whether there is one. -/
  | unread {failure : Failure} (found : failure.isNotFound = false) :
    Storing user [.stored (.load .user user.id) (.error failure)] (.error failure)
  | written {failure : Failure} (missing : failure.isNotFound = true) (answer : Answer Unit) :
    Storing user
      [.stored (.load .user user.id) (.error failure), .stored (.store .user user) answer] answer

/-- How it can go when a user is opened. -/
inductive Creating (username password : String) (attributes : Option Attributes) :
    List Deed → Answer (Urn .user) → Prop
  | refused (failure : Failure) :
    Creating username password attributes [.entered .user (.error failure)] (.error failure)
  | unopened (failure : Failure) :
    Creating username password attributes
      [.entered .user (.ok ()), .asked .caller (.create username password false) (.error failure),
        .left .user] (.error failure)
  | recorded {account : Int} {storing : List Deed}
      (stores : Storing (User.ofAccount account username attributes) storing (.ok ())) :
    Creating username password attributes
      (.entered .user (.ok ()) :: .asked .caller (.create username password false) (.ok account) ::
        (storing ++ [.left .user])) (.ok (.ofAccount account))
  | archived {account : Int} {storing : List Deed} {failure : Failure}
      (fails : Storing (User.ofAccount account username attributes) storing (.error failure))
      (reply : Answer Unit) :
    Creating username password attributes
      (.entered .user (.ok ()) :: .asked .caller (.create username password false) (.ok account) ::
        (storing ++ [.asked .own (.archive account) reply, .left .user])) (.error failure)

variable {username password : String} {attributes : Option Attributes} {deeds : List Deed}

theorem storing_of_plays {user : User} {answer : Answer Unit}
    (h : (storeNew user).Plays deeds answer) : Storing user deeds answer := by
  unfold storeNew at h
  rcases plays_bind_iff.1 h with ⟨first, ended, rest, hload, hrest, rfl⟩ | ⟨failure, hload, rfl⟩
  · obtain ⟨loaded, hload, hended⟩ := plays_attempt_iff.1 hload
    obtain rfl := Except.ok.inj hended
    obtain rfl := plays_storage_iff.1 hload
    cases ended with
    | ok record =>
      obtain ⟨rfl, rfl⟩ := plays_throw_iff.1 hrest
      exact .occupied record
    | error failure =>
      cases hmissing : failure.isNotFound with
      | true =>
        simp only [hmissing] at hrest
        obtain rfl := plays_storage_iff.1 hrest
        exact .written hmissing answer
      | false =>
        simp only [hmissing, Bool.false_eq_true] at hrest
        obtain ⟨rfl, rfl⟩ := plays_throw_iff.1 hrest
        exact .unread hmissing
  · obtain ⟨loaded, -, hended⟩ := plays_attempt_iff.1 hload
    cases hended

theorem creating_of_plays {answer : Answer (Urn .user)}
    (h : (create username password attributes).Plays deeds answer) :
    Creating username password attributes deeds answer := by
  unfold create at h
  rcases plays_guarded_iff.1 h with ⟨failure, rfl, rfl⟩ | ⟨inner, hinner, rfl⟩
  · exact .refused failure
  rcases plays_bind_iff.1 hinner with ⟨first, account, rest, hopen, hrest, rfl⟩ |
    ⟨failure, hopen, rfl⟩
  · obtain rfl := plays_accounts_iff.1 hopen
    rcases plays_bind_iff.1 hrest with ⟨storing, ended, last, hstore, hlast, rfl⟩ |
      ⟨failure, hstore, rfl⟩
    · obtain ⟨stored, hstore, hended⟩ := plays_attempt_iff.1 hstore
      obtain rfl := Except.ok.inj hended
      have hstoring := storing_of_plays hstore
      cases ended with
      | ok _ =>
        obtain ⟨rfl, rfl⟩ := plays_pure_iff.1 hlast
        simp only [List.append_nil, List.cons_append, List.nil_append]
        exact .recorded hstoring
      | error failure =>
        rcases plays_bind_iff.1 hlast with ⟨made, _, thrown, harchive, hthrow, rfl⟩ |
          ⟨cause, harchive, rfl⟩
        · obtain ⟨rfl, rfl⟩ := plays_throw_iff.1 hthrow
          obtain ⟨ended, harchive, -⟩ := plays_discard_iff.1 harchive
          obtain ⟨reply, harchive, -⟩ := plays_attempt_iff.1 harchive
          obtain rfl := plays_archive_iff.1 harchive
          simp only [List.append_nil, List.append_assoc, List.cons_append, List.nil_append]
          exact .archived hstoring reply
        · -- what comes of archiving is set aside, so that this part does not fail
          obtain ⟨ended, harchive, hended⟩ := plays_discard_iff.1 harchive
          obtain ⟨reply, -, rfl⟩ := plays_attempt_iff.1 harchive
          cases hended
    · obtain ⟨stored, -, hended⟩ := plays_attempt_iff.1 hstore
      cases hended
  · obtain rfl := plays_accounts_iff.1 hopen
    exact .unopened failure

namespace Storing

variable {user : User} {answer : Answer Unit} {failure : Failure}

/-- Only the storage is called. -/
theorem stored (h : Storing user deeds answer) :
    ∀ deed ∈ deeds, ∃ call reply, deed = .stored call reply := by
  cases h with
  | occupied record => exact List.forall_mem_singleton.2 ⟨_, _, rfl⟩
  | unread found => exact List.forall_mem_singleton.2 ⟨_, _, rfl⟩
  | written missing answer =>
    exact List.forall_mem_cons.2 ⟨⟨_, _, rfl⟩, List.forall_mem_singleton.2 ⟨_, _, rfl⟩⟩

theorem filter_archives (h : Storing user deeds answer) : deeds.filter archives = [] := by
  refine List.filter_eq_nil_iff.2 fun deed hdeed => ?_
  obtain ⟨call, reply, rfl⟩ := h.stored deed hdeed
  exact Bool.false_ne_true

theorem asked_not_mem (h : Storing user deeds answer) (origin : Origin) (call : Accounts.Call)
    (reply : Answer call.Reply) : .asked origin call reply ∉ deeds := by
  intro hmem
  obtain ⟨call, reply, hdeed⟩ := h.stored _ hmem
  cases hdeed

/-- Where a record is not stored nothing has been written. -/
theorem idle (h : Storing user deeds (.error failure)) : ∀ deed ∈ deeds, deed.Idle := by
  cases h with
  | occupied record => exact List.forall_mem_singleton.2 (.inl trivial)
  | unread found => exact List.forall_mem_singleton.2 (.inl trivial)
  | written missing _ =>
    exact List.forall_mem_cons.2 ⟨.inl trivial, List.forall_mem_singleton.2 (.inr ⟨failure, rfl⟩)⟩

end Storing

/-- The account is opened in the second place or not at all. -/
theorem Creating.opened {answer : Answer (Urn .user)}
    (h : Creating username password attributes deeds answer) {reply : Answer Int}
    (hopened : .asked .caller (.create username password false) reply ∈ deeds) :
    deeds[1]? = some (.asked .caller (.create username password false) reply) := by
  cases h with
  | refused failure => cases List.mem_singleton.1 hopened
  | unopened failure =>
    rcases List.mem_cons.1 hopened with hfirst | hopened
    · cases hfirst
    rcases List.mem_cons.1 hopened with hsecond | hopened
    · exact congrArg some hsecond.symm
    · cases List.mem_singleton.1 hopened
  | recorded stores =>
    rcases List.mem_cons.1 hopened with hfirst | hopened
    · cases hfirst
    rcases List.mem_cons.1 hopened with hsecond | hopened
    · exact congrArg some hsecond.symm
    rcases List.mem_append.1 hopened with hstoring | hlast
    · exact absurd hstoring (stores.asked_not_mem _ _ _)
    · cases List.mem_singleton.1 hlast
  | archived fails _ =>
    rcases List.mem_cons.1 hopened with hfirst | hopened
    · cases hfirst
    rcases List.mem_cons.1 hopened with hsecond | hopened
    · exact congrArg some hsecond.symm
    rcases List.mem_append.1 hopened with hstoring | hlast
    · exact absurd hstoring (fails.asked_not_mem _ _ _)
    rcases List.mem_cons.1 hlast with harchive | hlast
    · cases harchive
    · cases List.mem_singleton.1 hlast

/-! ## What comes of them -/

/-- What has come of opening a user in a realm. -/
structure Compensated (username password : String) (attributes : Option Attributes) (s : Realm)
    (answer : Answer (Urn .user)) (c : Chronicle) : Prop where
  /-- A user that is answered is that of the account that has been opened. It is recorded, and its
  account has not been archived. -/
  recorded : ∀ user, answer = .ok user → ∃ account,
    .asked .caller (.create username password false) (.ok account) ∈ c.deeds ∧
      user = .ofAccount account ∧
      (∃ entry, c.realm.storage.entry .user user.text = some entry ∧
        entry.Holds (User.ofAccount account username attributes)) ∧
      c.deeds.filter archives = []
  /-- Where it fails after an account has been opened, that account has been archived once, not on
  behalf of the caller; what is stored is unchanged; and the failure is the one with which the
  record could not be stored, whatever has come of archiving. -/
  archived : ∀ failure account, answer = .error failure →
    .asked .caller (.create username password false) (.ok account) ∈ c.deeds →
      (∃ reply, c.deeds.filter archives = [.asked .own (.archive account) reply]) ∧
        s.storage.Unchanged c.realm.storage ∧
        ∃ storing, storing <:+: c.deeds ∧
          Storing (User.ofAccount account username attributes) storing (.error failure)
  /-- Where no account can be opened nothing else is done. -/
  unopened : ∀ failure,
    .asked .caller (.create username password false) (.error failure) ∈ c.deeds →
      answer = .error failure ∧ c.deeds = [.entered .user (.ok ()),
        .asked .caller (.create username password false) (.error failure), .left .user]
  /-- An account has been asked for, unless the gate has refused. -/
  asked : (∃ reply, .asked .caller (.create username password false) reply ∈ c.deeds) ∨
    ∃ failure, answer = .error failure ∧ c.deeds = [.entered .user (.error failure)]

theorem Creating.compensated {s : Realm} {answer : Answer (Urn .user)} {c : Chronicle}
    (h : Creating username password attributes c.deeds answer)
    (hunfolds : Unfolds s c.moments c.realm) :
    Compensated username password attributes s answer c := by
  have hopened {reply : Answer Int} := @h.opened _ _ _ _ _ reply
  have hidle (hall : ∀ deed ∈ c.deeds, deed.Idle) : s.storage.Unchanged c.realm.storage :=
    (hunfolds.unchanged fun m hm => hall _ (List.mem_map_of_mem hm)).2
  generalize hdeeds : c.deeds = deeds at h hopened hidle
  constructor
  case recorded =>
    rintro user rfl
    cases h with
    | @recorded account storing stores =>
      refine ⟨account, by simp [hdeeds], rfl, ?_, ?_⟩
      · cases stores with
        | @written failure missing =>
          have hlog : c.moments.map Moment.deed = [_, _, _] ++
              .stored (.store .user (User.ofAccount account username attributes)) (.ok ()) ::
                [.left .user] := hdeeds
          exact hunfolds.holds hlog (List.forall_mem_singleton.2 trivial)
      · rw [hdeeds]
        show (storing ++ [_]).filter archives = _
        rw [List.filter_append, stores.filter_archives]
        rfl
  case archived =>
    rintro failure account rfl hmem
    rw [hdeeds] at hmem ⊢
    have hsecond := hopened hmem
    cases h with
    | refused failure => cases hsecond
    | unopened failure => cases hsecond
    | @archived opened storing _ fails reply =>
      cases hsecond
      refine ⟨⟨reply, ?_⟩, hidle ?_, storing, ⟨[_, _], [_, _], rfl⟩, fails⟩
      · show (storing ++ [_, _]).filter archives = _
        rw [List.filter_append, fails.filter_archives]
        rfl
      · -- no write has succeeded, as the only one there may be is the one that has failed
        have hlast : ∀ deed ∈ ([.asked .own (.archive account) reply, .left .user] : List Deed),
            deed.Idle :=
          List.forall_mem_cons.2 ⟨trivial, List.forall_mem_singleton.2 trivial⟩
        exact List.forall_mem_cons.2 ⟨trivial, List.forall_mem_cons.2
          ⟨trivial, List.forall_mem_append.2 ⟨fails.idle, hlast⟩⟩⟩
  case unopened =>
    intro failure hmem
    rw [hdeeds] at hmem ⊢
    have hsecond := hopened hmem
    cases h with
    | refused failure => cases hsecond
    | unopened failure => cases hsecond; exact ⟨rfl, rfl⟩
    | recorded stores => cases hsecond
    | archived fails _ => cases hsecond
  case asked =>
    rw [hdeeds]
    cases h with
    | refused failure => exact .inr ⟨failure, rfl, rfl⟩
    | unopened failure => exact .inl ⟨.error failure, by simp⟩
    | @recorded account _ stores => exact .inl ⟨.ok account, by simp⟩
    | @archived account _ _ fails _ => exact .inl ⟨.ok account, by simp⟩

/-- However its calls turn out, a user is opened as a whole or its account is archived again. -/
theorem create_compensated (fortune : Fortune) (s : Realm) (username password : String)
    (attributes : Option Attributes) :
    Compensated username password attributes s
      (fortune.serve (create username password attributes) s).1
      (fortune.serve (create username password attributes) s).2 :=
  (creating_of_plays (fortune.serve_plays _ s)).compensated (fortune.serve_unfolds _ s)

end AccessControl.Users
