/-
An account store of its own over whole runs. What has been done with a store, and what it answered,
is its history, and the history alone tells what the store does next. Main statements: the accounts
are those that were opened, as they were left last (`Reflects.turn`); each token is known by the
account that it was handed out for (`Remembers.turn`); so that after every run numbers ascend,
usernames in use are unique, the password of the account in use opens it, tokens speak for accounts
that are neither locked nor archived, and an archived account stays without a voice
(`lawful_attend`).
-/
import AccessControl.Proofs.Accounts.Register
import Mathlib.Data.List.Induction
import Mathlib.Data.List.Nodup

namespace AccessControl.Accounts

/-! ## Histories -/

/-- What is done with an account store: it is called, under a context that may have been given up, a
token is fetched from it, or it comes to refuse to archive accounts, or to do so again. -/
inductive Deed
  | ask (givenUp : Bool) (call : Call)
  | login (username password token : String)
  | issue (id : Int) (token : String)
  | refuseArchive (refuses : Bool)

def Deed.Reply : Deed → Type
  | ask _ call => call.Reply
  | login _ _ _ | issue _ _ | refuseArchive _ => Unit

/-- A deed and what was answered to it. -/
abbrev Event := Σ deed : Deed, Answer deed.Reply

/-- What has happened, the latest event first. -/
abbrev History := List Event

namespace Event

/-- The account that was opened, as it was then, with its password. -/
def opened : Event → Option Holder
  | ⟨.ask _ (.create username password locked), .ok id⟩ =>
    some ⟨⟨id, username, locked, false⟩, password⟩
  | _ => none

/-- The number of the account that was left locked or unlocked, and which of the two. -/
def locked : Event → Option (Int × Bool)
  | ⟨.ask _ (.create _ _ locked), .ok id⟩ => some (id, locked)
  | ⟨.ask _ (.lock id), .ok _⟩ => some (id, true)
  | ⟨.ask _ (.unlock id), .ok _⟩ => some (id, false)
  | _ => none

/-- The number of the account that was archived. -/
def archived : Event → Option Int
  | ⟨.ask _ (.archive id), .ok _⟩ => some id
  | _ => none

/-- The token that was handed out. -/
def token : Event → Option String
  | ⟨.login _ _ token, .ok _⟩ | ⟨.issue _ token, .ok _⟩ => some token
  | _ => none

end Event

namespace History

/-- The accounts that have been opened, each as it was then; the latest first. -/
def opened (past : History) : List Holder := past.filterMap Event.opened

def archived (past : History) (id : Int) : Bool := past.any fun event => event.archived == some id

/-- What the last event that locked or unlocked an account made of it. -/
def locked (past : History) (id : Int) : Bool :=
  ((past.filterMap Event.locked).lookup id).getD false

/-- An account as it is now. -/
def current (past : History) (h : Holder) : Holder :=
  { h with account := { h.account with
      locked := past.locked h.account.id, archived := past.archived h.account.id } }

/-- An account that has been opened under a username and is not archived. -/
def Live (past : History) (username : String) (h : Holder) : Prop :=
  h ∈ past.opened ∧ h.account.username = username ∧ past.archived h.account.id = false

/-- The tokens that have been handed out; the latest first. -/
def tokens (past : History) : List String := past.filterMap Event.token

variable {past : History} {event : Event} {id other : Int}

theorem opened_cons_none (h : event.opened = none) : opened (event :: past) = past.opened :=
  List.filterMap_cons_none h

theorem opened_cons_some {new : Holder} (h : event.opened = some new) :
    opened (event :: past) = new :: past.opened := List.filterMap_cons_some h

theorem archived_cons :
    archived (event :: past) id = (event.archived == some id || past.archived id) := rfl

theorem archived_cons_none (h : event.archived = none) :
    archived (event :: past) id = past.archived id := by
  rw [archived_cons, h]
  rfl

theorem locked_cons_none (h : event.locked = none) :
    locked (event :: past) id = past.locked id := by
  unfold locked
  rw [List.filterMap_cons_none h]

theorem locked_cons_some {locked : Bool} (h : event.locked = some (id, locked)) :
    History.locked (event :: past) other = if other = id then locked else past.locked other := by
  unfold History.locked
  rw [List.filterMap_cons_some h, List.lookup_cons]
  by_cases hother : other = id
  · rw [if_pos hother, beq_iff_eq.2 hother]
    rfl
  · rw [if_neg hother, beq_eq_false_iff_ne.2 hother]

/-- An archived account stays archived. -/
theorem archived_append {earlier later : History} (h : archived earlier id = true) :
    archived (later ++ earlier) id = true := by
  unfold archived at h ⊢
  rw [List.any_append, h, Bool.or_true]

end History

/-- After a history, an event hands out a token for the account of a number. A login does so for the
account in use under its username. -/
def Event.Hands (past : History) (token : String) (id : Int) : Event → Prop
  | ⟨.login username _ handed, .ok _⟩ =>
    handed = token ∧ ∃ h, past.Live username h ∧ h.account.id = id
  | ⟨.issue other handed, .ok _⟩ => handed = token ∧ other = id
  | _ => False

/-- A token has been handed out for the account of a number. -/
def History.Handed (token : String) (id : Int) : History → Prop
  | [] => False
  | event :: past => event.Hands past token id ∨ Handed token id past

namespace Register

/-- Does one thing. A call under a context that has been given up is refused. -/
def turn (r : Register) : (deed : Deed) → Answer deed.Reply × Register
  | .ask givenUp call => if givenUp then (.error .cancelled, r) else r.answer call
  | .login username password token => r.login username password token
  | .issue id token => r.issue id token
  | .refuseArchive refuses => (.ok (), { r with refusesArchive := refuses })

/-- A history and a register go on with one thing more. -/
def follow (before : History × Register) (deed : Deed) : History × Register :=
  (⟨deed, (before.2.turn deed).1⟩ :: before.1, (before.2.turn deed).2)

/-- What has happened, and what the register has become, after one thing after the other was done
with a new store. -/
def attend (deeds : List Deed) : History × Register := deeds.foldl follow ([], .empty)

/-! ## One thing -/

/-- What may come of an event. -/
inductive Effect (r : Register) : Event → Register → Prop
  | none {event : Event} (refuses : Bool) (opened : event.opened = .none)
      (locked : event.locked = .none) (archived : event.archived = .none)
      (token : event.token = .none) : Effect r event { r with refusesArchive := refuses }
  | opened (username password : String) (locked : Bool) (free : r.live? username = .none) :
      Effect r ⟨.ask false (.create username password locked), .ok (r.lastId + 1)⟩
        { r with
          lastId := r.lastId + 1
          holders := r.holders ++ [⟨⟨r.lastId + 1, username, locked, false⟩, password⟩] }
  | locked {event : Event} (id : Int) (locked : Bool) (known : ∃ a, r.account? id = some a)
      (opened : event.opened = .none) (locks : event.locked = some (id, locked))
      (archived : event.archived = .none) (token : event.token = .none) :
      Effect r event (r.changed id fun account => { account with locked })
  | archived (id : Int) (known : ∃ a, r.account? id = some a) :
      Effect r ⟨.ask false (.archive id), .ok ()⟩
        (r.changed id fun account => { account with archived := true })
  | login (username password token : String) (h : Holder) (live : r.live? username = some h)
      (opens : h.password = password) :
      Effect r ⟨.login username password token, .ok ()⟩
        { r with tokens := r.tokens.put token h.account.id }
  | issued (id : Int) (token : String) (known : ∃ a, r.account? id = some a) :
      Effect r ⟨.issue id token, .ok ()⟩ { r with tokens := r.tokens.put token id }

variable {r r' : Register} {past : History}

/-- Nothing comes of what fails. -/
theorem Effect.failed (deed : Deed) (failure : Failure) : Effect r ⟨deed, .error failure⟩ r := by
  refine .none r.refusesArchive ?_ ?_ ?_ ?_
  all_goals
    cases deed with
    | ask givenUp call => cases call <;> rfl
    | login _ _ _ | issue _ _ | refuseArchive _ => rfl

/-- A change is made of an account that is known, and is refused otherwise. -/
theorem change_cases (r : Register) (id : Int) (f : Account → Account) :
    ((∃ account, r.account? id = some account) ∧ r.change id f = (.ok (), r.changed id f)) ∨
      r.change id f = (.error unknown, r) := by
  cases h : r.account? id with
  | some account => exact .inl ⟨⟨account, rfl⟩, change_of_account? h f⟩
  | none =>
    unfold change
    rw [h]
    exact .inr rfl

theorem effect_create (r : Register) (username password : String) (locked : Bool) :
    Effect r ⟨.ask false (.create username password locked), (r.create username password locked).1⟩
      (r.create username password locked).2 := by
  unfold create
  split
  · exact .failed _ _
  · split
    · exact .failed _ _
    · rename_i hfree
      exact .opened username password locked (Option.not_isSome_iff_eq_none.1 hfree)

theorem account?_of_mem {h : Holder} (hmem : h ∈ r.holders) :
    (r.account? h.account.id).isSome := by
  unfold account?
  rw [List.find?_isSome]
  exact ⟨h.account, List.mem_map_of_mem hmem, beq_self_eq_true _⟩

theorem effect_issue (r : Register) (id : Int) (token : String) :
    Effect r ⟨.issue id token, (r.issue id token).1⟩ (r.issue id token).2 := by
  unfold issue
  split
  · rename_i hknown
    exact .issued id token (Option.isSome_iff_exists.1 hknown)
  · exact .failed _ _

theorem login_of_live? {username password : String} {h : Holder}
    (hlive : r.live? username = some h) (hopens : h.password = password) (token : String) :
    r.login username password token =
      (.ok (), { r with tokens := r.tokens.put token h.account.id }) := by
  have hmem : h ∈ r.holders := List.mem_of_find?_eq_some hlive
  unfold login issue
  rw [hlive, Option.filter_some, if_pos (beq_iff_eq.2 hopens)]
  exact if_pos (account?_of_mem hmem)

theorem login_refused {username password : String}
    (h : ∀ h, r.live? username = some h → h.password ≠ password) (token : String) :
    r.login username password token = (.error (.unauthenticated "invalid credentials"), r) := by
  unfold login
  cases hlive : r.live? username with
  | none => rfl
  | some holder => rw [Option.filter_some, if_neg fun heq => h holder hlive (beq_iff_eq.1 heq)]

theorem effect_login (r : Register) (username password token : String) :
    Effect r ⟨.login username password token, (r.login username password token).1⟩
      (r.login username password token).2 := by
  by_cases hopens : ∃ h, r.live? username = some h ∧ h.password = password
  · obtain ⟨h, hlive, hopens⟩ := hopens
    rw [login_of_live? hlive hopens]
    exact .login username password token h hlive hopens
  · rw [login_refused fun h hlive heq => hopens ⟨h, hlive, heq⟩]
    exact .failed _ _

/-- Everything that is done has one of these effects. -/
theorem effect_turn (r : Register) (deed : Deed) :
    Effect r ⟨deed, (r.turn deed).1⟩ (r.turn deed).2 := by
  cases deed with
  | refuseArchive refuses => exact .none refuses rfl rfl rfl rfl
  | issue id token => exact r.effect_issue id token
  | login username password token => exact r.effect_login username password token
  | ask givenUp call =>
    cases givenUp with
    | true => exact .failed _ _
    | false =>
      rw [show r.turn (.ask false call) = r.answer call from rfl]
      cases call with
      | create username password locked => exact r.effect_create username password locked
      | account id =>
        simp only [answer]
        cases r.account? id with
        | none => exact .failed _ _
        | some account => exact .none r.refusesArchive rfl rfl rfl rfl
      | subject token =>
        simp only [answer]
        cases r.subject token with
        | error failure => exact .failed _ _
        | ok subject => exact .none r.refusesArchive rfl rfl rfl rfl
      | lock id =>
        simp only [answer]
        rcases r.change_cases id fun account => { account with locked := true } with
          ⟨hknown, h⟩ | h <;> rw [h]
        · exact .locked id true hknown rfl rfl rfl rfl
        · exact .failed _ _
      | unlock id =>
        simp only [answer]
        rcases r.change_cases id fun account => { account with locked := false } with
          ⟨hknown, h⟩ | h <;> rw [h]
        · exact .locked id false hknown rfl rfl rfl rfl
        · exact .failed _ _
      | archive id =>
        simp only [answer]
        cases r.refusesArchive with
        | true => exact .failed _ _
        | false =>
          rcases r.change_cases id fun account => { account with archived := true } with
            ⟨hknown, h⟩ | h
          · simp only [Bool.false_eq_true, h]
            exact .archived id hknown
          · simp only [Bool.false_eq_true, h]
            exact .failed _ _

/-! ## What the register keeps -/

/-- The accounts of a register are those of a history. -/
structure Reflects (past : History) (r : Register) : Prop where
  given : ∀ h ∈ past.opened, h.account.id ≤ r.lastId
  ascending : past.opened.Pairwise fun later earlier => earlier.account.id < later.account.id
  known : ∀ id, past.archived id = true → ∃ h ∈ past.opened, h.account.id = id
  accounts : r.holders = (past.opened.map past.current).reverse
  single : ∀ username a b, past.Live username a → past.Live username b → a = b

namespace Reflects

variable {h : Holder} {username : String}

theorem empty : Reflects [] .empty where
  given := nofun
  ascending := .nil
  known := nofun
  accounts := rfl
  single := nofun

theorem mem_holders (hr : Reflects past r) :
    h ∈ r.holders ↔ ∃ h₀ ∈ past.opened, past.current h₀ = h := by
  rw [hr.accounts, List.mem_reverse, List.mem_map]

/-- Accounts of one number are the same account. -/
theorem eq_of_id (hr : Reflects past r) {a b : Holder} (ha : a ∈ past.opened)
    (hb : b ∈ past.opened) (hid : a.account.id = b.account.id) : a = b := by
  refine List.inj_on_of_nodup_map (f := fun h => h.account.id) ?_ ha hb hid
  rw [List.nodup_iff_pairwise_ne, List.pairwise_map]
  refine hr.ascending.imp fun hlt heq => ?_
  omega

theorem account? (hr : Reflects past r) (hmem : h ∈ past.opened) :
    r.account? h.account.id = some (past.current h).account := by
  have hsome : (r.account? h.account.id).isSome :=
    account?_of_mem (h := past.current h) (hr.mem_holders.2 ⟨h, hmem, rfl⟩)
  obtain ⟨account, haccount⟩ := Option.isSome_iff_exists.1 hsome
  obtain ⟨holder, hholder, rfl⟩ := mem_of_account? haccount
  obtain ⟨h₀, hmem₀, rfl⟩ := hr.mem_holders.1 hholder
  have hid : (past.current h₀).account.id = h.account.id := id_of_account? haccount
  rw [haccount, hr.eq_of_id hmem₀ hmem hid]

theorem mem_of_known (hr : Reflects past r) {id : Int} {account : Account}
    (h : r.account? id = some account) : ∃ h ∈ past.opened, h.account.id = id := by
  obtain ⟨holder, hholder, rfl⟩ := mem_of_account? h
  obtain ⟨h₀, hmem₀, rfl⟩ := hr.mem_holders.1 hholder
  have hid : (past.current h₀).account.id = id := id_of_account? h
  exact ⟨h₀, hmem₀, hid⟩

/-- The account in use under a username is the one that the history knows. -/
theorem live?_eq_some (hr : Reflects past r) :
    r.live? username = some h ↔ ∃ h₀, past.Live username h₀ ∧ past.current h₀ = h := by
  constructor
  · intro hlive
    unfold live? at hlive
    obtain ⟨h₀, hmem₀, rfl⟩ := hr.mem_holders.1 (List.mem_of_find?_eq_some hlive)
    have hfound := List.find?_some hlive
    rw [Bool.and_eq_true, beq_iff_eq, Bool.not_eq_true'] at hfound
    exact ⟨h₀, ⟨hmem₀, hfound⟩, rfl⟩
  · rintro ⟨h₀, hlive₀, rfl⟩
    obtain ⟨hmem₀, husername, harchived⟩ := hlive₀
    have hsome : (r.live? username).isSome := by
      unfold live?
      rw [List.find?_isSome]
      refine ⟨past.current h₀, hr.mem_holders.2 ⟨h₀, hmem₀, rfl⟩, ?_⟩
      rw [Bool.and_eq_true, beq_iff_eq, Bool.not_eq_true']
      exact ⟨husername, harchived⟩
    obtain ⟨h, hlive⟩ := Option.isSome_iff_exists.1 hsome
    have hfound := List.find?_some hlive
    rw [Bool.and_eq_true, beq_iff_eq, Bool.not_eq_true'] at hfound
    obtain ⟨h₁, hmem₁, rfl⟩ := hr.mem_holders.1 (List.mem_of_find?_eq_some hlive)
    rw [hlive, hr.single username h₁ h₀ ⟨hmem₁, hfound⟩ ⟨hmem₀, husername, harchived⟩]

/-! ### What is kept -/

/-- An event that opens no account leaves the accounts as it leaves their locks and their ends. -/
theorem goes (hr : Reflects past r) {event : Event} (hopened : event.opened = none)
    (hknown : ∀ id, event.archived = some id → ∃ h ∈ past.opened, h.account.id = id)
    (hlast : r'.lastId = r.lastId)
    (hholders : r'.holders = (past.opened.map (History.current (event :: past))).reverse) :
    Reflects (event :: past) r' := by
  have hsame : History.opened (event :: past) = past.opened := History.opened_cons_none hopened
  have hlive : ∀ username h, History.Live (event :: past) username h → past.Live username h := by
    rintro username h ⟨hmem, husername, harchived⟩
    rw [hsame] at hmem
    rw [History.archived_cons, Bool.or_eq_false_iff] at harchived
    exact ⟨hmem, husername, harchived.2⟩
  refine ⟨?_, ?_, ?_, ?_, ?_⟩
  · rw [hsame, hlast]
    exact hr.given
  · rw [hsame]
    exact hr.ascending
  · intro id harchived
    rw [hsame]
    rw [History.archived_cons, Bool.or_eq_true, beq_iff_eq] at harchived
    exact harchived.elim (hknown id) (hr.known id)
  · rw [hsame]
    exact hholders
  · intro username a b ha hb
    exact hr.single username a b (hlive username a ha) (hlive username b hb)

/-- An event that neither opens nor locks nor archives leaves the accounts as they are. -/
theorem same (hr : Reflects past r) {event : Event} (hopened : event.opened = none)
    (hlocked : event.locked = none) (harchived : event.archived = none)
    (hlast : r'.lastId = r.lastId) (hholders : r'.holders = r.holders) :
    Reflects (event :: past) r' := by
  refine hr.goes hopened (fun id h => by rw [harchived] at h; cases h) hlast ?_
  have hcurrent : History.current (event :: past) = past.current := by
    funext h
    unfold History.current
    rw [History.locked_cons_none hlocked, History.archived_cons_none harchived]
  rw [hcurrent, hholders, hr.accounts]

/-- A change of an account is what the event makes of it. -/
theorem changed (hr : Reflects past r) {event : Event} {id : Int} {f : Account → Account}
    (hopened : event.opened = none)
    (hknown : ∀ id, event.archived = some id → ∃ h ∈ past.opened, h.account.id = id)
    (hcurrent : ∀ h, (History.current (event :: past) h).account =
      if h.account.id = id then f (past.current h).account else (past.current h).account) :
    Reflects (event :: past) (r.changed id f) := by
  refine hr.goes hopened hknown rfl ?_
  show r.holders.map _ = _
  rw [hr.accounts, List.map_reverse, List.map_map]
  refine congrArg List.reverse (List.map_congr_left fun h _ => ?_)
  have hpassword : (History.current (event :: past) h).password = h.password := rfl
  have hid : (past.current h).account.id = h.account.id := rfl
  have hwhole : History.current (event :: past) h =
      ⟨(History.current (event :: past) h).account, h.password⟩ := rfl
  rw [Function.comp_apply, hwhole, hcurrent h, hid]
  by_cases hother : h.account.id = id
  · rw [if_pos (beq_iff_eq.2 hother), if_pos hother]
    rfl
  · rw [if_neg fun heq => hother (beq_iff_eq.1 heq), if_neg hother]
    rfl

/-- The number that is given next has not been archived. -/
theorem fresh (hr : Reflects past r) : past.archived (r.lastId + 1) = false := by
  rw [Bool.eq_false_iff]
  intro h
  obtain ⟨holder, hmem, hid⟩ := hr.known _ h
  have hle := hr.given holder hmem
  omega

/-- Where a username is free, an account that is opened under it is the only one in use under it,
and under other usernames nothing changes. -/
theorem live_opened (hr : Reflects past r) {event : Event} {new : Holder}
    (hopened : event.opened = some new) (harchived : event.archived = none)
    (hfree : r.live? new.account.username = none)
    (hlive : History.Live (event :: past) username h) :
    (h = new ∧ username = new.account.username) ∨
      (past.Live username h ∧ username ≠ new.account.username) := by
  obtain ⟨hmem, husername, hends⟩ := hlive
  rw [History.opened_cons_some hopened, List.mem_cons] at hmem
  rw [History.archived_cons_none harchived] at hends
  rcases hmem with rfl | hmem
  · exact .inl ⟨rfl, husername.symm⟩
  · refine .inr ⟨⟨hmem, husername, hends⟩, ?_⟩
    rintro rfl
    have hsome := hr.live?_eq_some.2 ⟨h, ⟨hmem, husername, hends⟩, rfl⟩
    rw [hfree] at hsome
    cases hsome

/-- A new account is what it was opened as, and the accounts before it are what they were. -/
theorem current_opened (hr : Reflects past r) {event : Event} {new : Holder}
    (hid : new.account.id = r.lastId + 1) (hopen : new.account.archived = false)
    (hopened : event.opened = some new)
    (hlocked : event.locked = some (new.account.id, new.account.locked))
    (harchived : event.archived = none) :
    (History.opened (event :: past)).map (History.current (event :: past)) =
      new :: past.opened.map past.current := by
  have hbefore : ∀ h ∈ past.opened, History.current (event :: past) h = past.current h := by
    intro h hmem
    have hle := hr.given h hmem
    unfold History.current
    rw [History.locked_cons_some hlocked, History.archived_cons_none harchived,
      if_neg (by omega)]
  have hnew : History.current (event :: past) new = new := by
    have hfresh : past.archived new.account.id = new.account.archived := by
      rw [hid, hopen]
      exact hr.fresh
    unfold History.current
    rw [History.locked_cons_some hlocked, History.archived_cons_none harchived, hfresh,
      if_pos rfl]
  rw [History.opened_cons_some hopened, List.map_cons, hnew, List.map_congr_left hbefore]

/-- A new account has a number of its own. -/
theorem opens (hr : Reflects past r) {event : Event} {new : Holder}
    (hid : new.account.id = r.lastId + 1) (hopen : new.account.archived = false)
    (hopened : event.opened = some new)
    (hlocked : event.locked = some (new.account.id, new.account.locked))
    (harchived : event.archived = none) (hfree : r.live? new.account.username = none) :
    Reflects (event :: past) { r with
      lastId := new.account.id
      holders := r.holders ++ [new] } := by
  refine ⟨?_, ?_, ?_, ?_, ?_⟩
  · intro h hmem
    rw [History.opened_cons_some hopened] at hmem
    rcases List.mem_cons.1 hmem with rfl | hmem
    · exact Int.le_refl _
    · have hle := hr.given h hmem
      show h.account.id ≤ new.account.id
      omega
  · rw [History.opened_cons_some hopened, List.pairwise_cons]
    refine ⟨fun h hmem => ?_, hr.ascending⟩
    have hle := hr.given h hmem
    omega
  · intro id h
    rw [History.archived_cons_none harchived] at h
    obtain ⟨holder, hmem, hid⟩ := hr.known id h
    rw [History.opened_cons_some hopened]
    exact ⟨holder, List.mem_cons_of_mem _ hmem, hid⟩
  · rw [hr.current_opened hid hopen hopened hlocked harchived, List.reverse_cons, ← hr.accounts]
  · intro u a b ha hb
    rcases hr.live_opened hopened harchived hfree ha with ⟨rfl, rfl⟩ | ⟨ha, hne⟩
    · rcases hr.live_opened hopened harchived hfree hb with ⟨rfl, -⟩ | ⟨-, hne⟩
      · rfl
      · exact absurd rfl hne
    · rcases hr.live_opened hopened harchived hfree hb with ⟨-, rfl⟩ | ⟨hb, -⟩
      · exact absurd rfl hne
      · exact hr.single u a b ha hb

/-- The accounts follow the history whatever is done. -/
theorem turn (hr : Reflects past r) {event : Event} (h : Effect r event r') :
    Reflects (event :: past) r' := by
  cases h with
  | none refuses hopened hlocked harchived _ => exact hr.same hopened hlocked harchived rfl rfl
  | login username password token h _ _ => exact hr.same rfl rfl rfl rfl rfl
  | issued id token _ => exact hr.same rfl rfl rfl rfl rfl
  | opened username password locked hfree =>
    exact @opens _ _ hr _ ⟨⟨r.lastId + 1, username, locked, false⟩, password⟩ rfl rfl rfl rfl rfl
      hfree
  | locked id locked hknown hopened hlocked harchived _ =>
    refine hr.changed hopened (fun id h => by rw [harchived] at h; cases h) fun h => ?_
    unfold History.current
    rw [History.locked_cons_some hlocked, History.archived_cons_none harchived]
    by_cases hother : h.account.id = id
    · rw [if_pos hother, if_pos hother]
    · rw [if_neg hother, if_neg hother]
  | archived id hknown =>
    obtain ⟨account, hknown⟩ := hknown
    refine hr.changed rfl (fun other h => ?_) fun h => ?_
    · obtain rfl := Option.some.inj h
      exact hr.mem_of_known hknown
    · unfold History.current
      rw [History.locked_cons_none rfl, History.archived_cons]
      by_cases hother : h.account.id = id
      · rw [if_pos hother]
        simp [Event.archived, hother]
      · rw [if_neg hother]
        simp [Event.archived, Ne.symm hother]

end Reflects

/-! ## Tokens -/

/-- A register knows for which account each token has been handed out. -/
structure Remembers (past : History) (r : Register) : Prop where
  tokens : ∀ token id, r.tokens.get? token = some id ↔ past.Handed token id
  known : ∀ token id, past.Handed token id → ∃ h ∈ past.opened, h.account.id = id

theorem token_of_hands {event : Event} {token : String} {id : Int}
    (h : event.Hands past token id) : event.token = some token := by
  unfold Event.Hands at h
  split at h
  · exact congrArg some h.1
  · exact congrArg some h.1
  · exact h.elim

theorem mem_tokens_of_handed {token : String} {id : Int} (h : past.Handed token id) :
    token ∈ past.tokens := by
  induction past with
  | nil => exact h.elim
  | cons event past ih =>
    rw [History.tokens, List.mem_filterMap]
    rcases h with hhands | hbefore
    · exact ⟨event, List.mem_cons_self, token_of_hands hhands⟩
    · obtain ⟨earlier, hmem, htoken⟩ := List.mem_filterMap.1 (ih hbefore)
      exact ⟨earlier, List.mem_cons_of_mem _ hmem, htoken⟩

theorem opened_subset (event : Event) : past.opened ⊆ History.opened (event :: past) :=
  List.filterMap_subset _ (List.subset_cons_self _ _)

namespace Remembers

theorem empty : Remembers [] .empty := ⟨fun _ _ => ⟨nofun, False.elim⟩, nofun⟩

theorem same (hm : Remembers past r) {event : Event} (htoken : event.token = none)
    (htokens : r'.tokens = r.tokens) : Remembers (event :: past) r' := by
  have hhanded : ∀ token id, History.Handed token id (event :: past) ↔ past.Handed token id := by
    refine fun token id => ⟨fun h => h.resolve_left fun hhands => ?_, .inr⟩
    have hsome := token_of_hands hhands
    rw [htoken] at hsome
    cases hsome
  refine ⟨fun token id => ?_, fun token id h => ?_⟩
  · rw [htokens, hm.tokens token id, hhanded]
  · obtain ⟨h, hmem, hid⟩ := hm.known token id ((hhanded token id).1 h)
    exact ⟨h, opened_subset event hmem, hid⟩

/-- A token that has not been handed out before speaks for the account it is handed out for. -/
theorem hands (hm : Remembers past r) {event : Event} {token : String} {h : Holder}
    (htoken : event.token = some token) (hnew : token ∉ past.tokens) (hmem : h ∈ past.opened)
    (hhands : ∀ id, event.Hands past token id ↔ h.account.id = id) :
    Remembers (event :: past) { r with tokens := r.tokens.put token h.account.id } := by
  have hothers : ∀ other id, token ≠ other → ¬ event.Hands past other id := by
    intro other id hother hhands
    have hsome := token_of_hands hhands
    rw [htoken] at hsome
    exact hother (Option.some.inj hsome)
  refine ⟨fun other id => ?_, fun other id hhanded => ?_⟩
  · show Assoc.get? (r.tokens.put token h.account.id) other = some id ↔ _
    rw [Assoc.get?_put]
    by_cases hother : token = other
    · subst hother
      rw [if_pos rfl, Option.some.injEq, ← hhands id]
      exact ⟨.inl, fun h => h.resolve_right fun h => hnew (mem_tokens_of_handed h)⟩
    · rw [if_neg hother, hm.tokens other id]
      exact ⟨.inr, fun h => h.resolve_left (hothers other id hother)⟩
  · rcases hhanded with hnow | hbefore
    · by_cases hother : token = other
      · subst hother
        exact ⟨h, opened_subset event hmem, (hhands id).1 hnow⟩
      · exact absurd hnow (hothers other id hother)
    · obtain ⟨h, hmem, hid⟩ := hm.known other id hbefore
      exact ⟨h, opened_subset event hmem, hid⟩

/-- Tokens follow the history whatever is done, if no token is handed out twice. -/
theorem turn (hm : Remembers past r) (hr : Reflects past r) {event : Event}
    (h : Effect r event r') (hdistinct : (History.tokens (event :: past)).Nodup) :
    Remembers (event :: past) r' := by
  have hnew : ∀ token, event.token = some token → token ∉ past.tokens := by
    intro token htoken
    rw [History.tokens, List.filterMap_cons_some htoken] at hdistinct
    exact (List.nodup_cons.1 hdistinct).1
  cases h with
  | none _ _ _ _ htoken => exact hm.same htoken rfl
  | opened _ _ _ _ => exact hm.same rfl rfl
  | locked _ _ _ _ _ _ htoken => exact hm.same htoken rfl
  | archived _ _ => exact hm.same rfl rfl
  | issued id token hknown =>
    obtain ⟨account, hknown⟩ := hknown
    obtain ⟨h, hmem, rfl⟩ := hr.mem_of_known hknown
    exact hm.hands rfl (hnew token rfl) hmem fun _ => ⟨fun h => h.2, fun h => ⟨rfl, h⟩⟩
  | login username password token h hlive _ =>
    obtain ⟨h₀, hlive₀, rfl⟩ := hr.live?_eq_some.1 hlive
    refine hm.hands (h := h₀) rfl (hnew token rfl) hlive₀.1 fun id =>
      ⟨?_, fun hid => ⟨rfl, h₀, hlive₀, hid⟩⟩
    rintro ⟨-, h, hlive, rfl⟩
    rw [hr.single username h h₀ hlive hlive₀]

end Remembers

/-! ## Whole runs -/

theorem attend_append (deeds more : List Deed) :
    attend (deeds ++ more) = more.foldl follow (attend deeds) := List.foldl_append

/-- What happens later comes on top of what has happened. -/
theorem attend_suffix (deeds more : List Deed) :
    (attend deeds).1 <:+ (attend (deeds ++ more)).1 := by
  induction more using List.reverseRecOn with
  | nil => exact (List.append_nil deeds).symm ▸ List.suffix_rfl
  | append_singleton more deed ih =>
    rw [← List.append_assoc, attend_append (deeds ++ more) [deed]]
    exact ih.trans (List.suffix_cons _ _)

/-- The accounts follow the history over every run. -/
theorem reflects_attend (deeds : List Deed) : Reflects (attend deeds).1 (attend deeds).2 := by
  induction deeds using List.reverseRecOn with
  | nil => exact .empty
  | append_singleton deeds deed ih =>
    rw [attend_append]
    exact ih.turn (effect_turn _ deed)

/-- Tokens follow the history over every run in which no token is handed out twice. -/
theorem remembers_attend (deeds : List Deed) (distinct : (attend deeds).1.tokens.Nodup) :
    Remembers (attend deeds).1 (attend deeds).2 := by
  induction deeds using List.reverseRecOn with
  | nil => exact .empty
  | append_singleton deeds deed ih =>
    have hbefore : (attend deeds).1.tokens.Nodup := by
      obtain ⟨later, hlater⟩ := attend_suffix deeds [deed]
      rw [← hlater, History.tokens, List.filterMap_append] at distinct
      exact (List.nodup_append.1 distinct).2.1
    rw [attend_append] at distinct ⊢
    exact (ih hbefore).turn (reflects_attend deeds) (effect_turn _ deed) distinct

/-- A token speaks for a known account that is neither locked nor archived. -/
theorem ok_subject_iff {token text : String} :
    r.subject token = .ok text ↔ ∃ account, r.tokens.get? token = some account.id ∧
      r.account? account.id = some account ∧ toString account.id = text ∧
        account.locked = false ∧ account.archived = false := by
  unfold subject
  constructor
  · intro h
    split at h
    · cases h
    · rename_i id htoken
      split at h
      · rename_i account haccount
        obtain rfl := id_of_account? haccount
        split at h
        · cases h
        · rename_i hopen
          rw [Bool.or_eq_true, not_or, Bool.not_eq_true, Bool.not_eq_true] at hopen
          exact ⟨account, htoken, haccount, Except.ok.inj h, hopen.2, hopen.1⟩
      · cases h
  · rintro ⟨account, htoken, haccount, rfl, hlocked, harchived⟩
    simp only [htoken, haccount, hlocked, harchived, Bool.or_self, Bool.false_eq_true, if_false]

/-- What a store owes to its history. -/
structure Lawful (past : History) (r : Register) : Prop where
  /-- Each number is larger than those that were given before. -/
  ascending : past.opened.Pairwise fun later earlier => earlier.account.id < later.account.id
  /-- One account at most is in use under a username. -/
  single : ∀ username a b, past.Live username a → past.Live username b → a = b
  /-- The accounts are those that have been opened, locked and archived as they were left. -/
  accounts : r.holders = (past.opened.map past.current).reverse
  /-- The password of the account in use under a username fetches a token for that account. -/
  admits : ∀ username token h, past.Live username h →
    r.login username h.password token =
      (.ok (), { r with tokens := r.tokens.put token h.account.id })
  /-- No other password fetches anything. -/
  refuses : ∀ username password token, (∀ h, past.Live username h → h.password ≠ password) →
    r.login username password token = (.error (.unauthenticated "invalid credentials"), r)
  /-- A token speaks for the account it was handed out for, while that is neither locked nor
  archived. -/
  subject : ∀ token text, r.subject token = .ok text ↔ ∃ id, past.Handed token id ∧
    toString id = text ∧ past.locked id = false ∧ past.archived id = false

theorem Reflects.lawful (hr : Reflects past r) (hm : Remembers past r) : Lawful past r where
  ascending := hr.ascending
  single := hr.single
  accounts := hr.accounts
  admits username token h hlive := login_of_live? (hr.live?_eq_some.2 ⟨h, hlive, rfl⟩) rfl token
  refuses username password token hno := by
    refine login_refused (fun h hlive => ?_) token
    obtain ⟨h₀, hlive₀, rfl⟩ := hr.live?_eq_some.1 hlive
    exact hno h₀ hlive₀
  subject token text := by
    rw [ok_subject_iff]
    constructor
    · rintro ⟨account, htoken, haccount, rfl, hopen⟩
      have hhanded := (hm.tokens token account.id).1 htoken
      obtain ⟨h, hmem, hid⟩ := hm.known token account.id hhanded
      -- the account is as the history tells
      rw [← hid, hr.account? hmem] at haccount
      rw [← Option.some.inj haccount] at hopen
      exact ⟨account.id, hhanded, rfl, hid ▸ hopen⟩
    · rintro ⟨id, hhanded, rfl, hopen⟩
      obtain ⟨h, hmem, rfl⟩ := hm.known token id hhanded
      have haccount := hr.account? hmem
      exact ⟨(past.current h).account, (hm.tokens token _).2 hhanded, haccount, rfl, hopen⟩

/-- After every run in which no token is handed out twice, a store does as its history tells; and an
account that was archived at any time of it stays archived, none of its tokens verifies, and no
login fetches a token for it. -/
theorem lawful_attend (deeds more : List Deed)
    (distinct : (attend (deeds ++ more)).1.tokens.Nodup) :
    Lawful (attend (deeds ++ more)).1 (attend (deeds ++ more)).2 ∧
      ∀ id, (attend deeds).1.archived id = true →
        (attend (deeds ++ more)).1.archived id = true ∧
        (∀ token text, (attend (deeds ++ more)).1.Handed token id →
          (attend (deeds ++ more)).2.subject token ≠ .ok text) ∧
        ∀ username password token,
          ((attend (deeds ++ more)).2.login username password token).1 = .ok () →
          ((attend (deeds ++ more)).2.login username password token).2.tokens.get? token ≠
            some id := by
  have hr := reflects_attend (deeds ++ more)
  have hm := remembers_attend (deeds ++ more) distinct
  have hlaw := hr.lawful hm
  refine ⟨hlaw, fun id hbefore => ?_⟩
  have harchived : (attend (deeds ++ more)).1.archived id = true := by
    obtain ⟨later, hlater⟩ := attend_suffix deeds more
    rw [← hlater]
    exact History.archived_append hbefore
  refine ⟨harchived, fun token text hhanded hok => ?_,
    fun username password token hok hhanded => ?_⟩
  · obtain ⟨other, hother, -, -, hends⟩ := (hlaw.subject token text).1 hok
    -- the token was handed out for one account only
    have hsame : some id = some other :=
      ((hm.tokens token id).2 hhanded).symm.trans ((hm.tokens token other).2 hother)
    rw [← Option.some.inj hsame, harchived] at hends
    cases hends
  · obtain ⟨h, hlive, rfl⟩ | hno :=
      em (∃ h, (attend (deeds ++ more)).1.Live username h ∧ h.password = password)
    · rw [hlaw.admits username token h hlive] at hhanded
      have hid : h.account.id = id := by
        rw [Assoc.get?_put, if_pos rfl] at hhanded
        exact Option.some.inj hhanded
      rw [← hid, hlive.2.2] at harchived
      cases harchived
    · rw [hlaw.refuses username password token fun h hlive heq => hno ⟨h, hlive, heq⟩] at hok
      cases hok

/-- An account is opened, used and archived, and its username is given out again. -/
def renewal : List Deed × List Deed :=
  ([.ask false (.create "ada" "pw" false), .login "ada" "pw" "first", .issue 1 "second",
      .ask false (.archive 1)],
    [.ask false (.create "ada" "pw" false), .login "ada" "pw" "third", .ask false (.unlock 1)])

/-- None of the tokens of the account that was archived verifies, while the one that was opened
under its username has the token that was fetched last. -/
theorem lawful_attend_renewal :
    (attend (renewal.1 ++ renewal.2)).1.tokens.Nodup ∧
      (attend (renewal.1 ++ renewal.2)).2.subject "first" ≠ .ok "1" ∧
      (attend (renewal.1 ++ renewal.2)).2.subject "third" = .ok "2" := by
  have hdistinct : (attend (renewal.1 ++ renewal.2)).1.tokens.Nodup := by decide +kernel
  obtain ⟨hlaw, hends⟩ := lawful_attend renewal.1 renewal.2 hdistinct
  have harchived : (attend renewal.1).1.archived 1 = true := by decide +kernel
  have hfirst : (attend (renewal.1 ++ renewal.2)).1.Handed "first" 1 :=
    ((remembers_attend _ hdistinct).tokens "first" 1).1 (by decide +kernel)
  have hthird : (attend (renewal.1 ++ renewal.2)).1.Handed "third" 2 :=
    ((remembers_attend _ hdistinct).tokens "third" 2).1 (by decide +kernel)
  have hopen : (attend (renewal.1 ++ renewal.2)).1.locked 2 = false := by decide +kernel
  have hlives : (attend (renewal.1 ++ renewal.2)).1.archived 2 = false := by decide +kernel
  exact ⟨hdistinct, (hends 1 harchived).2.1 "first" "1" hfirst,
    (hlaw.subject "third" "2").2 ⟨2, hthird, rfl, hopen, hlives⟩⟩

end Register

end AccessControl.Accounts
