/-
Records are read as they are written. Main statement: a record whose numbers are read as they are
written is read from its text exactly when it does not nest deeper than a reader goes
(`Record.decode_render`).
-/
import AccessControl.Proofs.Json.Nesting
import AccessControl.Proofs.Json.Number
import AccessControl.Record

namespace AccessControl

open Json Json.Decoder

namespace Json

/-! ## Maps of values -/

namespace Decoder

variable {α : Type} {value : Decoder α} {f : α → Json}

/-- A map is read from the fields of its values, unless one of them nests too deep. -/
theorem bindings_ofFields {m : Assoc α} (h : ∀ e ∈ m, ∀ depth,
      value depth (Document.ofJson (f e.2)) = within (nesting (f e.2)) depth e.2) (depth : Nat) :
    bindings value depth (Document.ofFields (Assoc.mapValues f m)) =
      within (nestingFields (Assoc.mapValues f m)) depth m := by
  induction m with
  | nil => exact (if_pos (Nat.zero_le _)).symm
  | cons e m ih =>
    have hfirst := h e List.mem_cons_self depth
    have hrest := ih fun e he => h e (List.mem_cons_of_mem _ he)
    show (do return (e.1, ← value depth (Document.ofJson (f e.2))) ::
      (← bindings value depth (Document.ofFields (Assoc.mapValues f m)))) = _
    rw [hfirst, hrest]
    exact within_cons fun value rest => (e.1, value) :: rest

/-- A map is read from its bindings in any order. -/
theorem map_ofFields {fields m : Assoc α} (hm : Assoc.ofList fields = m)
    (h : ∀ e ∈ fields, ∀ depth,
      value depth (Document.ofJson (f e.2)) = within (nesting (f e.2)) depth e.2) (depth : Nat) :
    map value depth (Document.ofJson (.object (Assoc.mapValues f fields))) =
      within (nesting (.object (Assoc.mapValues f fields))) depth m :=
  within_enter Assoc.ofList (bindings_ofFields h) hm

theorem map_ofJson {m : Assoc α} (hm : m.Sorted) (h : ∀ e ∈ m, ∀ depth,
      value depth (Document.ofJson (f e.2)) = within (nesting (f e.2)) depth e.2) (depth : Nat) :
    map value depth (Document.ofJson (.object (Assoc.mapValues f m))) =
      within (nesting (.object (Assoc.mapValues f m))) depth m :=
  map_ofFields (Assoc.ofList_of_sorted hm) h depth

/-- A field that has not been given is read by its name, and the rest follows. -/
theorem named_field {β : Type} {fields : List (RecordField α)} {depth : Nat}
    {given : List String} {record : α} {key : String} {document : Document}
    {rest : List (Key × Document)} {field : RecordField α} {value : Decoder β} {set : β → α → α}
    {b : β} (hvalue : value depth document = .ok b)
    (hfind : fields.find? (fun field => field.names.contains key) = some field)
    (hread : field.read = fun depth document record => do
      return set (← value depth document) record)
    (hgiven : field.names.any given.contains = false) :
    named fields depth given record ((.text key, document) :: rest) =
      named fields depth (key :: given) (set b record) rest := by
  rw [named, hfind]
  simp only [hgiven, hread, hvalue]
  rfl

/-- The last field decides what is read if it is one that may nest too deep. -/
theorem named_last {β : Type} {fields : List (RecordField α)} {depth n : Nat} {given : List String}
    {record result : α} {key : String} {document : Document} {field : RecordField α}
    {value : Decoder β} {set : β → α → α} {b : β} (hvalue : value depth document = within n depth b)
    (hfind : fields.find? (fun field => field.names.contains key) = some field)
    (hread : field.read = fun depth document record => do
      return set (← value depth document) record)
    (hgiven : field.names.any given.contains = false)
    (hresult : named fields depth (key :: given) (set b record) [] = .ok result) :
    named fields depth given record [(.text key, document)] = within n depth result := by
  unfold within at hvalue ⊢
  by_cases hn : n ≤ depth
  · rw [if_pos hn] at hvalue ⊢
    exact (named_field hvalue hfind hread hgiven).trans hresult
  · rw [if_neg hn] at hvalue ⊢
    rw [named, hfind]
    simp only [hgiven, hread, hvalue]
    rfl

/-- What is read of an object with a field that has not been given has been read of its value. -/
theorem of_named_ok {β : Type} {fields : List (RecordField α)} {depth : Nat}
    {given : List String} {record result : α} {key : String} {document : Document}
    {rest : List (Key × Document)} {field : RecordField α} {value : Decoder β} {set : β → α → α}
    (hfind : fields.find? (fun field => field.names.contains key) = some field)
    (hread : field.read = fun depth document record => do
      return set (← value depth document) record)
    (h : named fields depth given record ((.text key, document) :: rest) = .ok result) :
    ∃ b, value depth document = .ok b ∧
      named fields depth (key :: given) (set b record) rest = .ok result := by
  rw [named, hfind] at h
  dsimp only at h
  split at h
  · cases h
  · obtain ⟨next, hnext, h⟩ := bind_ok_iff.1 h
    rw [hread] at hnext
    obtain ⟨b, hb, hnext⟩ := bind_ok_iff.1 hnext
    obtain rfl := Except.ok.inj hnext
    exact ⟨b, hb, h⟩

/-- What no field changes that is still to come is in the end as it was. -/
theorem named_kept {β : Type} (part : α → β) {fields : List (RecordField α)} {depth : Nat}
    {given : List String} {record result : α} {rest : List (Key × Document)}
    (hkept : ∀ field ∈ fields, field.names.any given.contains = false →
      ∀ document a b, field.read depth document a = .ok b → part b = part a)
    (h : named fields depth given record rest = .ok result) : part result = part record := by
  induction rest generalizing given record with
  | nil =>
    rw [named] at h
    split at h
    · rw [Except.ok.inj h]
    · cases h
  | cons entry rest ih =>
    obtain ⟨key, document⟩ := entry
    cases key with
    | other | broken => cases h
    | text key =>
      rw [named] at h
      split at h
      · split at h
        · exact ih hkept h
        · cases h
      · rename_i field hfind
        split at h
        · cases h
        · rename_i hgiven
          obtain ⟨next, hnext, h⟩ := bind_ok_iff.1 h
          have hfirst := hkept field (List.mem_of_find?_eq_some hfind)
            (Bool.eq_false_iff.2 hgiven) document record next hnext
          refine (ih (fun other hmem hother => hkept other hmem ?_) h).trans hfirst
          rw [List.any_eq_false] at hother ⊢
          exact fun name hname hcontains => hother name hname
            (List.contains_iff_mem.2 (List.mem_cons_of_mem _ (List.contains_iff_mem.1 hcontains)))

/-- A record is read from the fields of an object. -/
theorem ofJson_record (fields : List (RecordField α)) (start : α) (fs : List (String × Json)) :
    ofJson (record fields start) (.object fs) =
      named fields 126 [] start (Document.ofFields fs) := rfl

theorem decode_record (fields : List (RecordField α)) (start : α) (fs : List (String × Json)) :
    decode (record fields start) (Json.object fs).render =
      named fields 126 [] start (Document.writtenFields fs) := decode_written _ (.object fs)

theorem list_texts (depth : Nat) (names : List String) :
    list text (depth + 1) (Document.ofJson (.array (names.map .text))) = .ok names :=
  items_texts depth names

end Decoder

end Json

/-! ## Users -/

namespace User

/-- The number of the account has 64 bits, and the attributes are in order. -/
structure Proper (user : User) : Prop where
  lower : -(Nat.pow 2 63 : Int) ≤ user.account
  upper : user.account < Nat.pow 2 63
  attributes : ∀ attributes, user.attributes = some attributes → Ordered (.object attributes)

/-- Attributes are read from the fields that they are written as, in whatever order. -/
theorem attributes_ofFields {fields attributes : Attributes} (hperm : fields.Perm attributes)
    (h : Ordered (.object attributes)) (depth : Nat) :
    map json depth (.ofJson (.object fields)) =
      within (nesting (.object fields)) depth attributes := by
  have hmap := map_ofFields (f := fun j => j) (Assoc.ofList_of_perm hperm h.1) fun e he =>
    json_ofJson e.2 (orderedFields_iff.1 h.2 e (hperm.mem_iff.1 he))
  have hsame : Assoc.mapValues (fun j => j) fields = fields := List.map_id _
  rw [hsame] at hmap
  exact hmap depth

theorem nesting_toJson (user : User) :
    user.toJson.nesting = (user.attributes.elim 0 fun a => nesting (.object a)) + 1 := by
  unfold toJson
  cases user.locked <;> cases user.attributes <;> simp [nesting, nestingFields, Json.ofInt]

/-- A user is read from the value that it is written as, its attributes in whatever order, unless
they nest too deep. -/
theorem ofJson_written {user : User} (h : user.Proper) {written : Option Attributes}
    (hwritten : Option.Rel List.Perm written user.attributes) :
    ofJson decoder (toJson { user with attributes := written }) =
      within (toJson { user with attributes := written }).nesting maxDepth user := by
  rw [nesting_toJson]
  have hattributes : ∀ fields, written = some fields →
      optional (map json) 126 (Document.ofJson (.object fields)) =
        within (nesting (.object fields)) 126 user.attributes := by
    rintro fields rfl
    cases hread : user.attributes with
    | none =>
      rw [hread] at hwritten
      cases hwritten
    | some attributes =>
      rw [hread] at hwritten
      cases hwritten with
      | some hperm =>
        show (do return some (← map json 126 (Document.ofJson (.object fields)))) = _
        rw [attributes_ofFields hperm (h.attributes attributes hread)]
        unfold within
        split <;> rfl
  have hnone : written = none → user.attributes = none := by
    rintro rfl
    cases hread : user.attributes with
    | none => rfl
    | some attributes =>
      rw [hread] at hwritten
      cases hwritten
  obtain ⟨account, username, id, locked, attributes⟩ := user
  have haccount : int64 126 (Document.ofJson (Json.ofInt account)) = .ok account :=
    if_pos h.upper
  have husername : text 126 (Document.ofJson (.text username)) = .ok username := rfl
  have hid : text 126 (Document.ofJson (.text id.text)) = .ok id.text := rfl
  let rest : List (String × Json) :=
    (locked.map fun locked => ("locked", Json.bool locked)).toList ++
      (written.map fun attributes => ("attrs", Json.object attributes)).toList
  have hjson : toJson ⟨account, username, id, locked, written⟩ =
      .object (("accountID", Json.ofInt account) :: ("username", .text username) ::
        ("id", .text id.text) :: rest) := rfl
  unfold decoder
  rw [hjson, ofJson_record, Document.ofFields, Document.ofFields, Document.ofFields]
  rw [named_field haccount rfl rfl rfl, named_field husername rfl rfl rfl,
    named_field hid rfl rfl rfl]
  have hlocked (locked : Bool) : optional bool 126 (.bool locked) = .ok (some locked) := rfl
  -- what is not known has no field
  cases locked with
  | none =>
    cases written with
    | none =>
      obtain rfl : attributes = none := hnone rfl
      rfl
    | some fields =>
      exact (named_last (hattributes fields rfl) rfl rfl rfl rfl).trans (within_succ _)
  | some locked =>
    refine (named_field (hlocked locked) rfl rfl rfl).trans ?_
    cases written with
    | none =>
      obtain rfl : attributes = none := hnone rfl
      rfl
    | some fields =>
      exact (named_last (hattributes fields rfl) rfl rfl rfl rfl).trans (within_succ _)

/-- A user is read from the value that it is written as, unless its attributes nest too deep. -/
theorem ofJson_toJson {user : User} (h : user.Proper) :
    ofJson decoder user.toJson = within user.toJson.nesting maxDepth user := by
  have hsame : Option.Rel List.Perm user.attributes user.attributes := by
    cases user.attributes with
    | none => exact .none
    | some attributes => exact .some (List.Perm.refl attributes)
  exact ofJson_written h hsame

/-- Whatever becomes of its attributes, what is read of the text of a user is that user. -/
theorem decode_toJson_ok {user read : User} (hlocked : user.locked = none)
    (h : Decoder.decode decoder user.toJson.render = .ok read) :
    ∃ attributes, read = { user with attributes } := by
  obtain ⟨account, username, id, locked, attributes⟩ := user
  obtain rfl : locked = none := hlocked
  unfold decoder toJson at h
  rw [decode_record] at h
  have hnumber (n : Int)
      (hn : int64 126 (.number (rereadNumber (.whole account))) = .ok n) : n = account := by
    unfold int64 at hn
    split at hn
    · rename_i m hm
      split at hn
      · obtain rfl := Except.ok.inj hn
        exact eq_of_rereadNumber_whole (Document.number.inj hm)
      · cases hn
    · cases hn
  cases attributes with
  | none =>
    obtain ⟨n, hn, h⟩ := of_named_ok rfl rfl h
    obtain ⟨_, ⟨⟩, h⟩ := of_named_ok rfl rfl h
    obtain ⟨_, ⟨⟩, h⟩ := of_named_ok rfl rfl h
    obtain rfl := hnumber n hn
    exact ⟨none, (Except.ok.inj h).symm⟩
  | some a =>
    obtain ⟨n, hn, h⟩ := of_named_ok rfl rfl h
    obtain ⟨_, ⟨⟩, h⟩ := of_named_ok rfl rfl h
    obtain ⟨_, ⟨⟩, h⟩ := of_named_ok rfl rfl h
    obtain ⟨b, -, h⟩ := of_named_ok rfl rfl h
    obtain rfl := hnumber n hn
    exact ⟨b, (Except.ok.inj h).symm⟩

end User

/-! ## Groups -/

theorem Group.nesting_toJson (group : Group) : group.toJson.nesting = 1 := by
  unfold toJson
  cases group.comment <;> simp [nesting, nestingFields]

/-- A group is read from the value that it is written as. -/
theorem Group.ofJson_toJson (group : Group) :
    ofJson decoder group.toJson = within group.toJson.nesting maxDepth group := by
  rw [nesting_toJson]
  obtain ⟨id, name, comment⟩ := group
  have hid : text 126 (Document.ofJson (.text id.text)) = .ok id.text := rfl
  have hname : text 126 (Document.ofJson (.text name)) = .ok name := rfl
  let rest : List (String × Json) := (comment.map fun c => ("comment", Json.text c)).toList
  have hjson : toJson ⟨id, name, comment⟩ =
      .object (("id", .text id.text) :: ("name", .text name) :: rest) := rfl
  unfold decoder
  rw [hjson, ofJson_record, Document.ofFields, Document.ofFields, named_field hid rfl rfl rfl,
    named_field hname rfl rfl rfl]
  cases comment with
  | none => rfl
  | some c =>
    have hcomment : optional text 126 (Document.ofJson (.text c)) = .ok (some c) := rfl
    exact (named_field hcomment rfl rfl rfl).trans rfl

/-! ## Policies -/

namespace Condition

/-- The value of the condition is in order, if it has any. -/
def Proper : Condition → Prop
  | contains value => Ordered value
  | _ => True

/-- A condition is read from the value that it is written as, unless it nests too deep. -/
theorem decoder_toJson {c : Condition} (h : c.Proper) (depth : Nat) :
    decoder depth (Document.ofJson c.toJson) = within c.toJson.nesting depth c := by
  cases c with
  | contains value =>
    have hnesting : (contains value).toJson.nesting = value.nesting + 2 := by
      simp [toJson, parts, nesting, nestingFields]
    rw [hnesting]
    rcases depth with _ | _ | depth
    · rfl
    · rfl
    · have hread : decoder (depth + 2) (Document.ofJson (contains value).toJson) =
          (json depth (Document.ofJson value)).map contains := by
        show (((json depth (Document.ofJson value) >>= fun v => pure (contains v)) >>= fun c =>
          named _ depth ["value"] c []) >>= fun c => conclude c []) = _
        cases json depth (Document.ofJson value) <;> rfl
      rw [hread, json_ofJson value h, ← within_succ, ← within_succ]
      unfold within
      split <;> rfl
  | numeric comparison value =>
    rcases depth with _ | _ | depth
    · rfl
    · rfl
    · cases comparison <;> rfl
  | textEqual _ | textMatch _ | equalsSubject | boolean _ =>
    rcases depth with _ | _ | depth <;> rfl

end Condition

namespace Policy

/-- The conditions are in order, and so are their values. -/
structure Proper (policy : Policy) : Prop where
  conditions : policy.conditions.Sorted
  values : ∀ e ∈ policy.conditions, e.2.Proper

theorem nesting_texts (names : List String) : nesting (texts names) = 1 := by
  unfold texts nesting
  induction names with
  | nil => rfl
  | cons name names ih => simpa [nestingItems, nesting] using ih

theorem nesting_toJson (policy : Policy) :
    policy.toJson.nesting =
      max 1 (if policy.conditions.isEmpty then 0
        else nesting (.object (Assoc.mapValues Condition.toJson policy.conditions))) + 1 := by
  unfold toJson
  cases hempty : policy.conditions.isEmpty <;> cases policy.description <;>
    simp [nesting, nestingFields, nesting_texts, Assoc.mapValues]

/-- A policy is read from the value that it is written as, unless its conditions nest too deep. -/
theorem ofJson_toJson {policy : Policy} (h : policy.Proper) :
    ofJson decoder policy.toJson = within policy.toJson.nesting maxDepth policy := by
  rw [nesting_toJson]
  have hconditions := map_ofJson h.conditions
    fun e he => Condition.decoder_toJson (h.values e he)
  have hwithin (n : Nat) (p : Policy) : within n 126 p = within (max 1 n + 1) maxDepth p := by
    rw [show maxDepth = 126 + 1 from rfl, ← within_succ]
    have hiff : max 1 n ≤ 126 ↔ n ≤ 126 := by omega
    unfold within
    simp only [hiff]
  obtain ⟨id, description, subjects, resources, actions, effect, conditions⟩ := policy
  have hid : text 126 (Document.ofJson (.text id.text)) = .ok id.text := rfl
  have hdescription (d : String) :
      optional text 126 (Document.ofJson (.text d)) = .ok (some d) := rfl
  have hsubjects := list_texts 125 subjects
  have hresources := list_texts 125 resources
  have hactions := list_texts 125 actions
  have heffect : Decoder.word Effect.words 126 (Document.ofJson (.text effect.word)) =
      .ok effect := by cases effect <;> rfl
  let last : List (String × Json) :=
    if conditions.isEmpty then []
    else [("conditions", .object (Assoc.mapValues Condition.toJson conditions))]
  let rest : List (String × Json) :=
    ("subjects", texts subjects) :: ("resources", texts resources) ::
      ("actions", texts actions) :: ("effect", .text effect.word) :: last
  have hjson : toJson ⟨id, description, subjects, resources, actions, effect, conditions⟩ =
      .object (("id", .text id.text) ::
        ((description.map fun d => ("description", Json.text d)).toList ++ rest)) := by
    cases description <;> rfl
  unfold decoder
  rw [hjson, ofJson_record, Document.ofFields, named_field hid rfl rfl rfl]
  -- what is not given has no field
  cases description with
  | none =>
    refine (named_field hsubjects rfl rfl rfl).trans ((named_field hresources rfl rfl rfl).trans
      ((named_field hactions rfl rfl rfl).trans ((named_field heffect rfl rfl rfl).trans ?_)))
    cases conditions with
    | nil => rfl
    | cons c cs => exact (named_last (hconditions 126) rfl rfl rfl rfl).trans (hwithin _ _)
  | some d =>
    refine (named_field (hdescription d) rfl rfl rfl).trans
      ((named_field hsubjects rfl rfl rfl).trans ((named_field hresources rfl rfl rfl).trans
        ((named_field hactions rfl rfl rfl).trans ((named_field heffect rfl rfl rfl).trans ?_))))
    cases conditions with
    | nil => rfl
    | cons c cs => exact (named_last (hconditions 126) rfl rfl rfl rfl).trans (hwithin _ _)

/-- Whatever becomes of its conditions, what is read of the text of a policy has its name. -/
theorem id_of_decode_toJson {policy read : Policy}
    (h : Decoder.decode decoder policy.toJson.render = .ok read) : read.id = policy.id := by
  unfold decoder toJson at h
  rw [decode_record] at h
  obtain ⟨_, ⟨⟩, h⟩ := of_named_ok rfl rfl h
  refine (named_kept Policy.id (fun field hfield hgiven document a b hread => ?_) h).trans rfl
  simp only [List.mem_cons, List.not_mem_nil, or_false] at hfield
  -- the name has been given, and no other field changes it
  rcases hfield with rfl | rfl | rfl | rfl | rfl | rfl | rfl
  · cases hgiven
  all_goals
    obtain ⟨_, -, hread⟩ := bind_ok_iff.1 hread
    rw [← Except.ok.inj hread]

end Policy

/-! ## Records of any kind -/

namespace Record

/-- The numbers of the record have their size, and its maps are in order, as those of every record
are. -/
def Proper : {k : Kind} → Record k → Prop
  | .user, user => User.Proper user
  | .group, _ => True
  | .policy, policy => Policy.Proper policy

/-- A record is read from its text as it has been written, unless it nests too deep. -/
theorem decode_render {k : Kind} {record : Record k} (hproper : record.Proper)
    (hnumbers : Legible record.toJson) :
    Decoder.decode (decoder k) record.toJson.render =
      within record.toJson.nesting maxDepth record := by
  rw [Decoder.decode_render (decoder k) hnumbers]
  cases k with
  | user => exact User.ofJson_toJson hproper
  | group => exact Group.ofJson_toJson record
  | policy => exact Policy.ofJson_toJson hproper

/-- A record that its text gives back: its numbers are read as they are written, and it does not
nest deeper than a reader goes. -/
structure Storable {k : Kind} (record : Record k) : Prop where
  proper : record.Proper
  numbers : Legible record.toJson
  nesting : record.toJson.nesting ≤ maxDepth

theorem Storable.decode {k : Kind} {record : Record k} (h : record.Storable) :
    Decoder.decode (decoder k) record.toJson.render = .ok record :=
  (decode_render h.proper h.numbers).trans (if_pos h.nesting)

end Record

end AccessControl
