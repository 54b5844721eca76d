/-
The formats in which records, conditions and accounts are stored and sent. Main statement: what has
been written is read as it was, and what has been read is written as a text that reading and writing
leaves as it is (`Format.round_trip`).
-/
import AccessControl.Account
import AccessControl.Proofs.Json.Yielded
import AccessControl.Proofs.Record

namespace AccessControl

open Json Json.Decoder

/-! ## Conditions -/

namespace Condition

theorem numbers_toJson {P : Number → Prop} {c : Condition} (hreal : ∀ d, P (.real d))
    (hvalue : ∀ value, c = contains value → value.Numbers P) : c.toJson.Numbers P := by
  cases c with
  | textEqual _ | textMatch _ | equalsSubject | boolean _ =>
    exact ⟨trivial, by trivial, trivial⟩
  | numeric comparison value => exact ⟨trivial, ⟨trivial, hreal value, trivial⟩, trivial⟩
  | contains value => exact ⟨trivial, ⟨hvalue value rfl, trivial⟩, trivial⟩

/-- A condition as readers yield it: its value, if it has any, is. -/
def Yielded (depth : Nat) : Condition → Prop
  | contains value => Json.Yielded depth value
  | _ => True

variable {depth : Nat} {c : Condition}

theorem Yielded.proper (h : c.Yielded depth) : c.Proper := by
  cases c with
  | contains value => exact Json.Yielded.ordered h
  | _ => trivial

theorem Yielded.numbers (h : c.Yielded depth) : c.toJson.Numbers Number.Sized := by
  refine numbers_toJson (fun _ => trivial) fun value hc => ?_
  subst hc
  exact Json.Yielded.numbers h

theorem Yielded.nesting (h : c.Yielded depth) : c.toJson.nesting ≤ depth + 2 := by
  cases c with
  | contains value =>
    have hvalue : value.nesting ≤ depth := Json.Yielded.nesting h
    simpa [toJson, parts, Json.nesting, nestingFields] using hvalue
  | _ => simp [toJson, parts, Json.nesting, nestingFields]

theorem options_yields {comparison : Json.Decoder Comparison} {form : Form} {document : Document}
    (hsized : document.Sized) (h : optionsDecoder comparison form depth document = .ok c) :
    ∃ inner, depth = inner + 1 ∧ c.Yielded inner := by
  cases form with
  | textEqual | textMatch | boolean =>
    obtain ⟨inner, entries, rfl, rfl, hread⟩ := namedRecord_ok h
    refine ⟨inner, rfl, named_keeps ?_ (by trivial) hsized hread⟩
    exact keep_cons (fun _ _ _ _ _ _ => trivial) keep_nil
  | equalsSubject =>
    obtain ⟨inner, entries, rfl, rfl, hread⟩ := namedRecord_ok h
    exact ⟨inner, rfl, named_keeps keep_nil (by trivial) hsized hread⟩
  | numeric =>
    obtain ⟨pair, hpair, hread⟩ := bind_ok_iff.1 h
    obtain ⟨inner, entries, rfl, -, -⟩ := namedRecord_ok hpair
    obtain rfl := Except.ok.inj hread
    exact ⟨inner, rfl, trivial⟩
  | contains =>
    obtain ⟨inner, entries, rfl, rfl, hread⟩ := namedRecord_ok h
    have hnull : (contains .null).Yielded inner := ⟨trivial, trivial, Nat.zero_le _⟩
    refine ⟨inner, rfl, named_keeps ?_ hnull hsized hread⟩
    exact keep_cons (fun _ _ _ hsized hvalue _ => yielded_json hsized hvalue) keep_nil

theorem settledOptions_ok {form : Form} {document : Document}
    (h : settledOptions form depth document = .ok c) :
    optionsDecoder (settledWord Comparison.words) form depth document = .ok c := by
  unfold settledOptions at h
  split at h
  · rename_i hread
    rwa [← Except.ok.inj h]
  · cases h

/-- The fields that are found, and those after them, are fields of the object. -/
theorem nextField_sized {fields rest : List (Key × Document)} {found : Option (Bool × Document)}
    (hsized : Document.SizedFields fields) (h : nextField fields = .ok (found, rest)) :
    (∀ tag document, found = some (tag, document) → document.Sized) ∧
      Document.SizedFields rest := by
  induction fields with
  | nil =>
    cases h
    exact ⟨nofun, trivial⟩
  | cons entry fields ih =>
    obtain ⟨key, document⟩ := entry
    have hfound : ∀ tag : Bool, ∀ other next, some (tag, document) = some (other, next) →
        next.Sized := by
      intro tag other next heq
      cases heq
      exact hsized.1
    cases key with
    | other | broken => cases h
    | text key =>
      rw [nextField] at h
      split at h
      · cases h
        exact ⟨hfound true, hsized.2⟩
      · split at h
        · cases h
          exact ⟨hfound false, hsized.2⟩
        · split at h
          · exact ih hsized.2 h
          · cases h

theorem conclude_ok {rest : List (Key × Document)} {result : Condition}
    (h : conclude c rest = .ok result) : result = c := by
  obtain ⟨⟨found, rest⟩, -, h⟩ := bind_ok_iff.1 h
  cases found with
  | none => exact (Except.ok.inj h).symm
  | some _ => cases h

/-- A condition is read with two containers open, whichever of its fields comes first. -/
theorem decoder_yields {document : Document} (hsized : document.Sized)
    (h : decoder depth document = .ok c) : ∃ inner, depth = inner + 2 ∧ c.Yielded inner := by
  have hwithin {left : Nat} (hleft : enter depth = .ok left)
      (hc : ∃ inner, left = inner + 1 ∧ c.Yielded inner) :
      ∃ inner, depth = inner + 2 ∧ c.Yielded inner := by
    obtain ⟨inner, rfl, hc⟩ := hc
    exact ⟨inner, enter_ok hleft, hc⟩
  cases document with
  | object fields =>
    obtain ⟨left, hleft, h⟩ := bind_ok_iff.1 h
    refine hwithin hleft ?_
    obtain ⟨⟨found, rest⟩, hfirst, h⟩ := bind_ok_iff.1 h
    obtain ⟨hfound, hrest⟩ := nextField_sized hsized hfirst
    rcases found with _ | ⟨_ | _, document⟩
    · cases h
    · -- the options come first
      obtain ⟨_, -, h⟩ := bind_ok_iff.1 h
      obtain ⟨⟨second, rest⟩, -, h⟩ := bind_ok_iff.1 h
      rcases second with _ | ⟨_ | _, type⟩
      · cases h
      · cases h
      · obtain ⟨form, -, h⟩ := bind_ok_iff.1 h
        obtain ⟨read, hread, h⟩ := bind_ok_iff.1 h
        obtain rfl := conclude_ok h
        exact options_yields (hfound _ _ rfl) (settledOptions_ok hread)
    · obtain ⟨form, -, h⟩ := bind_ok_iff.1 h
      obtain ⟨⟨second, rest⟩, hsecond, h⟩ := bind_ok_iff.1 h
      obtain ⟨hfound, -⟩ := nextField_sized hrest hsecond
      rcases second with _ | ⟨_ | _, options⟩
      · cases h
      · obtain ⟨read, hread, h⟩ := bind_ok_iff.1 h
        obtain rfl := conclude_ok h
        exact options_yields (hfound _ _ rfl) hread
      · cases h
  | array items =>
    obtain ⟨left, hleft, h⟩ := bind_ok_iff.1 h
    refine hwithin hleft ?_
    rcases items with _ | ⟨type, _ | ⟨options, rest⟩⟩
    · cases h
    · obtain ⟨_, -, h⟩ := bind_ok_iff.1 h
      cases h
    · obtain ⟨form, -, h⟩ := bind_ok_iff.1 h
      obtain ⟨read, hread, h⟩ := bind_ok_iff.1 h
      split at h
      · obtain rfl := Except.ok.inj h
        exact options_yields hsized.2.1 hread
      · cases h
  | _ => cases h

end Condition

/-! ## Policies -/

namespace Policy

theorem numbers_toJson {P : Number → Prop} {policy : Policy}
    (h : ∀ e ∈ policy.conditions, e.2.toJson.Numbers P) : policy.toJson.Numbers P := by
  have hconditions : Numbers P (.object (Assoc.mapValues Condition.toJson policy.conditions)) := by
    refine numbersFields_iff.2 fun e he => ?_
    obtain ⟨entry, hentry, rfl⟩ := List.mem_map.1 he
    exact h entry hentry
  refine numbersFields_iff.2 fun e he => ?_
  rcases List.mem_append.1 he with he | he
  · rcases List.mem_append.1 he with he | he
    · rcases List.mem_append.1 he with he | he
      · obtain rfl := List.mem_singleton.1 he
        trivial
      · obtain ⟨_, -, rfl⟩ := Option.map_eq_some_iff.1 (Option.mem_toList.1 he)
        trivial
    · simp only [List.mem_cons, List.not_mem_nil, or_false] at he
      rcases he with rfl | rfl | rfl | rfl
      case inr.inr.inr => trivial
      all_goals exact numbersItems_texts P _
  · split at he
    · cases he
    · obtain rfl := List.mem_singleton.1 he
      exact hconditions

/-- A policy as readers yield it: so are its conditions, each by its own name. -/
structure Yielded (depth : Nat) (policy : Policy) : Prop where
  sorted : policy.conditions.Sorted
  conditions : ∀ e ∈ policy.conditions, e.2.Yielded depth

theorem yielded_of_decoder {document : Document} (hsized : document.Sized) {policy : Policy}
    (h : decoder maxDepth document = .ok policy) : policy.Yielded 123 := by
  have hcondition (document : Document) (c : Condition) (hsized : document.Sized)
      (hread : Condition.decoder 125 document = .ok c) : c.Yielded 123 := by
    obtain ⟨inner, hinner, hc⟩ := Condition.decoder_yields hsized hread
    obtain rfl : inner = 123 := by omega
    exact hc
  have hempty : (ofEffect .deny).Yielded 123 := ⟨List.Pairwise.nil, List.forall_mem_nil _⟩
  -- only the last field changes the conditions
  refine record_keeps ?_ hempty hsized h
  refine keep_cons ?_ (keep_cons ?_ (keep_cons ?_ (keep_cons ?_ (keep_cons ?_ (keep_cons ?_
    (keep_cons ?_ keep_nil))))))
  case refine_7 =>
    intro document conditions _ hsized hread _
    obtain ⟨hsorted, hvalues⟩ := map_keeps hcondition hsized hread
    exact ⟨hsorted, hvalues⟩
  all_goals exact fun _ _ _ _ _ hpolicy => ⟨hpolicy.sorted, hpolicy.conditions⟩

theorem Yielded.nesting {depth : Nat} {policy : Policy} (h : policy.Yielded depth) :
    policy.toJson.nesting ≤ depth + 4 := by
  have hconditions :
      Json.nesting (.object (Assoc.mapValues Condition.toJson policy.conditions)) ≤ depth + 3 := by
    refine Nat.succ_le_succ (nestingFields_le_iff.2 fun e he => ?_)
    obtain ⟨entry, hentry, rfl⟩ := List.mem_map.1 he
    exact (h.conditions entry hentry).nesting
  rw [nesting_toJson]
  split <;> omega

end Policy

/-! ## Users -/

namespace User

theorem numbers_toJson {P : Number → Prop} {user : User} :
    user.toJson.Numbers P ↔ P (.whole user.account) ∧
      ∀ attributes, user.attributes = some attributes → Numbers P (.object attributes) := by
  obtain ⟨account, username, id, locked, attributes⟩ := user
  cases locked <;> cases attributes <;> simp [toJson, Numbers, NumbersFields, Json.ofInt]

/-- A user as readers yield it: the number of the account has 64 bits, and so are the attributes. -/
structure Yielded (depth : Nat) (user : User) : Prop where
  lower : -(Nat.pow 2 63 : Int) ≤ user.account
  upper : user.account < Nat.pow 2 63
  attributes : ∀ attributes, user.attributes = some attributes →
    Json.Yielded depth (.object attributes)

theorem yielded_of_decoder {document : Document} (hsized : document.Sized) {user : User}
    (h : decoder maxDepth document = .ok user) : user.Yielded 126 := by
  have hstart : Yielded 126 ⟨0, "", ⟨""⟩, none, none⟩ := ⟨by decide, by decide, nofun⟩
  refine record_keeps ?_ hstart hsized h
  refine keep_cons ?_ (keep_cons ?_ (keep_cons ?_ (keep_cons ?_ (keep_cons ?_ keep_nil))))
  case refine_1 =>
    intro document account _ hsized hread huser
    obtain ⟨hlower, hupper⟩ := int64_ok hsized hread
    exact ⟨hlower, hupper, huser.attributes⟩
  case refine_5 =>
    intro document attributes _ hsized hread huser
    refine ⟨huser.lower, huser.upper, fun a ha => ?_⟩
    exact yielded_object_iff.2 (map_keeps (fun _ _ hsized hvalue => yielded_json hsized hvalue)
      hsized (optional_keeps hread ha))
  all_goals exact fun _ _ _ _ _ huser => ⟨huser.lower, huser.upper, huser.attributes⟩

theorem Yielded.nesting {depth : Nat} {user : User} (h : user.Yielded depth) :
    user.toJson.nesting ≤ depth + 1 := by
  rw [nesting_toJson]
  refine Nat.succ_le_succ ?_
  cases hattributes : user.attributes with
  | none => exact Nat.zero_le _
  | some attributes => exact (h.attributes attributes hattributes).nesting

end User

/-! ## Accounts -/

namespace Account

/-- The number of the account has 64 bits. -/
structure Proper (account : Account) : Prop where
  lower : -(Nat.pow 2 63 : Int) ≤ account.id
  upper : account.id < Nat.pow 2 63

/-- An account is read from the value that it is written as. -/
theorem ofJson_toJson {account : Account} (h : account.Proper) :
    ofJson decoder account.toJson = .ok account := by
  obtain ⟨id, username, locked, archived⟩ := account
  have hid : int64 126 (Document.ofJson (Json.ofInt id)) = .ok id := if_pos h.upper
  have husername : text 126 (Document.ofJson (.text username)) = .ok username := rfl
  have hlocked : Decoder.bool 126 (Document.ofJson (.bool locked)) = .ok locked := rfl
  have harchived : Decoder.bool 126 (Document.ofJson (.bool archived)) = .ok archived := rfl
  unfold decoder toJson
  rw [ofJson_record]
  exact (named_field hid rfl rfl rfl).trans ((named_field husername rfl rfl rfl).trans
    ((named_field hlocked rfl rfl rfl).trans ((named_field harchived rfl rfl rfl).trans rfl)))

theorem proper_of_decoder {document : Document} (hsized : document.Sized) {account : Account}
    (h : decoder maxDepth document = .ok account) : account.Proper := by
  have hstart : Proper ⟨0, "", false, false⟩ := ⟨by decide, by decide⟩
  refine record_keeps ?_ hstart hsized h
  refine keep_cons ?_ (keep_cons ?_ (keep_cons ?_ (keep_cons ?_ keep_nil)))
  case refine_1 =>
    intro document id _ hsized hread _
    obtain ⟨hlower, hupper⟩ := int64_ok hsized hread
    exact ⟨hlower, hupper⟩
  all_goals exact fun _ _ _ _ _ haccount => ⟨haccount.lower, haccount.upper⟩

theorem numbers_toJson {P : Number → Prop} {account : Account} :
    account.toJson.Numbers P ↔ P (.whole account.id) := by
  simp [toJson, Numbers, NumbersFields, Json.ofInt]

end Account

/-! ## Formats -/

/-- What is stored or sent as a text of its own. -/
inductive Format
  | record (k : Kind)
  | condition
  | account

namespace Format

def Value : Format → Type
  | record k => Record k
  | condition => Condition
  | account => Account

def toJson : (f : Format) → f.Value → Json
  | record _, value => Record.toJson value
  | condition, value => Condition.toJson value
  | account, value => Account.toJson value

def decoder : (f : Format) → Json.Decoder f.Value
  | record k => Record.decoder k
  | condition => Condition.decoder
  | account => Account.decoder

/-- The numbers that have 64 bits do, and the maps are in order. -/
def Proper : (f : Format) → f.Value → Prop
  | record _, value => Record.Proper value
  | condition, value => Condition.Proper value
  | account, value => Account.Proper value

/-- A value as there are any: it is proper, and all its whole numbers lie in the range. -/
structure WellFormed (f : Format) (value : f.Value) : Prop where
  proper : f.Proper value
  numbers : (f.toJson value).Numbers Number.Sized

/-- The JSON as which a value may be written: the attributes of a user come in no order. -/
inductive Written : (f : Format) → f.Value → Json → Prop
  | user {user : User} {attributes : Option Attributes}
      (order : Option.Rel List.Perm attributes user.attributes) :
      Written (.record .user) user (User.toJson { user with attributes })
  | same {f : Format} {value : f.Value} : Written f value (f.toJson value)

/-- Reads a text and writes what has been read. -/
def rewrite (f : Format) (text : String) : Except Fault String := do
  return (f.toJson (← decode f.decoder text)).render

variable {f : Format} {value : f.Value}

/-- What has been written is read as it was, unless it nests too deep. -/
theorem Written.decode {json : Json} (h : Written f value json) (hvalue : f.WellFormed value)
    (hexact : json.Numbers Number.Exact) :
    Decoder.decode f.decoder json.render = within json.nesting maxDepth value := by
  cases h with
  | @user user attributes order =>
    have hsized : (User.toJson { user with attributes }).Numbers Number.Sized := by
      obtain ⟨haccount, hfields⟩ := User.numbers_toJson.1 hvalue.numbers
      refine User.numbers_toJson.2 ⟨haccount, fun fields hwritten => ?_⟩
      obtain rfl : attributes = some fields := hwritten
      cases hread : user.attributes with
      | none =>
        rw [hread] at order
        cases order
      | some read =>
        rw [hread] at order
        cases order with
        | some hperm =>
          have hall := numbersFields_iff.1 (hfields read hread)
          exact numbersFields_iff.2 fun e he => hall e (hperm.mem_iff.1 he)
    exact (decode_render User.decoder (legible_of_exact hsized hexact)).trans
      (User.ofJson_written hvalue.proper order)
  | same =>
    rw [decode_render f.decoder (legible_of_exact hvalue.numbers hexact)]
    cases f with
    | record k =>
      cases k with
      | user => exact User.ofJson_toJson hvalue.proper
      | group => exact Group.ofJson_toJson value
      | policy => exact Policy.ofJson_toJson hvalue.proper
    | condition => exact Condition.decoder_toJson hvalue.proper maxDepth
    | account =>
      refine (Account.ofJson_toJson hvalue.proper).trans (if_pos ?_).symm
      simp [toJson, Account.toJson, Json.ofInt, nesting, nestingFields, maxDepth]

/-- What has been read is as there is any, and it does not nest deeper than a reader goes. -/
theorem wellFormed_of_decode {text : String} (h : decode f.decoder text = .ok value) :
    f.WellFormed value ∧ (f.toJson value).nesting ≤ maxDepth := by
  obtain ⟨document, hsized, h⟩ := of_decode_ok h
  cases f with
  | record k =>
    cases k with
    | user =>
      have huser := User.yielded_of_decoder hsized h
      have hattributes := huser.attributes
      have haccount : Number.isWhole (User.account value) = true := by
        have hupper := huser.upper
        simp only [Number.isWhole, Bool.and_eq_true, decide_eq_true_eq]
        exact ⟨huser.lower, Int.lt_trans hupper (by decide)⟩
      refine ⟨⟨⟨huser.lower, huser.upper, fun a ha => (hattributes a ha).ordered⟩, ?_⟩,
        huser.nesting⟩
      exact User.numbers_toJson.2 ⟨haccount, fun a ha => (hattributes a ha).numbers⟩
    | group =>
      have hnumbers : (Group.toJson value).Numbers Number.Sized := by
        obtain ⟨id, name, comment⟩ : Group := value
        cases comment <;> simp [Group.toJson, Numbers, NumbersFields]
      refine ⟨⟨trivial, hnumbers⟩, ?_⟩
      exact (Group.nesting_toJson value).le.trans (by decide)
    | policy =>
      have hpolicy := Policy.yielded_of_decoder hsized h
      refine ⟨⟨⟨hpolicy.sorted, fun e he => (hpolicy.conditions e he).proper⟩, ?_⟩,
        hpolicy.nesting⟩
      exact Policy.numbers_toJson fun e he => (hpolicy.conditions e he).numbers
  | condition =>
    obtain ⟨inner, hinner, hc⟩ := Condition.decoder_yields hsized h
    exact ⟨⟨hc.proper, hc.numbers⟩, hinner ▸ hc.nesting⟩
  | account =>
    have haccount := Account.proper_of_decoder hsized h
    have hnumber : Number.isWhole (Account.id value) = true := by
      simp only [Number.isWhole, Bool.and_eq_true, decide_eq_true_eq]
      exact ⟨haccount.lower, Int.lt_trans haccount.upper (by decide)⟩
    refine ⟨⟨haccount, Account.numbers_toJson.2 hnumber⟩, ?_⟩
    simp [toJson, Account.toJson, Json.ofInt, nesting, nestingFields, maxDepth]

/-- What has been written is read as it was, as long as its fractions are and it does not nest too
deep. What has been read, from a text of any shape, is written as a text that is read as the same
and that reading and writing leaves as it is. -/
theorem round_trip (f : Format) :
    (∀ (value : f.Value) (written : Json), f.WellFormed value → Written f value written →
      written.Numbers Number.Exact → written.nesting ≤ maxDepth →
        decode f.decoder written.render = .ok value) ∧
    ∀ (text : String) (value : f.Value), decode f.decoder text = .ok value →
      (f.toJson value).Numbers Number.Exact →
        decode f.decoder (f.toJson value).render = .ok value ∧
          f.rewrite (f.toJson value).render = .ok (f.toJson value).render := by
  refine ⟨fun value written hvalue hwritten hexact hnesting => ?_, fun text value h hexact => ?_⟩
  · exact (hwritten.decode hvalue hexact).trans (if_pos hnesting)
  · obtain ⟨hvalue, hnesting⟩ := wellFormed_of_decode h
    have hread : decode f.decoder (f.toJson value).render = .ok value :=
      (Written.same.decode hvalue hexact).trans (if_pos hnesting)
    refine ⟨hread, ?_⟩
    unfold rewrite
    rw [hread]
    rfl

/-- A share of a quarter, and an age. -/
def shares : Attributes :=
  [("age", .ofInt 30), ("share", .number (.real ⟨false, 1021 * Nat.pow 2 52, by decide⟩))]

/-- A user whose share has been written before the age is read with both in order, and an account is
read from its parts in a row, but written with their names. -/
theorem round_trip_shares :
    let user : User := User.ofAccount 7 "kim" (some shares)
    let account : Account := ⟨7, "kim", true, false⟩
    decode User.decoder (User.toJson { user with attributes := some shares.reverse }).render =
        .ok user ∧
      decode Account.decoder "[7,\"kim\",true]" = .ok account ∧
        rewrite .account account.toJson.render = .ok account.toJson.render := by
  intro user account
  have hsorted : shares.Sorted := by
    refine List.pairwise_cons.2 ⟨fun e he => ?_, List.pairwise_singleton _ _⟩
    obtain rfl := List.mem_singleton.1 he
    exact String.lt_iff.2 (by decide)
  have hsized {n : Int} (h : Number.isWhole n = true) : (Json.ofInt n).Numbers Number.Sized := h
  have huser : WellFormed (.record .user) user := by
    refine ⟨⟨by decide, by decide, fun attributes hattributes => ?_⟩, ?_⟩
    · obtain rfl := Option.some.inj hattributes
      exact ⟨hsorted, trivial, trivial, trivial⟩
    · exact ⟨hsized rfl, trivial, trivial, ⟨hsized rfl, trivial, trivial⟩, trivial⟩
  have hshare : Double.Exact ⟨false, 1021 * Nat.pow 2 52, by decide⟩ :=
    exact_iff.2 (by decide +kernel)
  have hread : decode Account.decoder "[7,\"kim\",true]" = .ok account := by decide +kernel
  refine ⟨(round_trip (.record .user)).1 user _ huser (.user (.some (List.reverse_perm shares)))
    ⟨trivial, trivial, trivial, ⟨hshare, trivial, trivial⟩, trivial⟩ (by decide), hread, ?_⟩
  exact ((round_trip .account).2 _ account hread ⟨trivial, trivial, trivial, trivial, trivial⟩).2

end Format

end AccessControl
