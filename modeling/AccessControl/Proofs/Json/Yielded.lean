/-
What readers yield. Main statements: every value that is read from a text is ordered, has whole
numbers of the range and opens no more containers than the limit (`Decoder.yielded_json`), and what
every field of a record keeps is true of every record that is read (`Decoder.record_keeps`).
-/
import AccessControl.Proofs.Json.Numbers

namespace AccessControl.Json

/-- A value as readers yield it: it is ordered, its whole numbers lie in the range, and it opens no
more than so many containers. -/
structure Yielded (depth : Nat) (value : Json) : Prop where
  ordered : Ordered value
  numbers : Numbers Number.Sized value
  nesting : value.nesting ≤ depth

theorem yielded_object_iff {depth : Nat} {fields : List (String × Json)} :
    Yielded (depth + 1) (.object fields) ↔
      Assoc.Sorted fields ∧ ∀ e ∈ fields, Yielded depth e.2 := by
  constructor
  · intro h
    have hordered := orderedFields_iff.1 h.ordered.2
    have hnumbers := numbersFields_iff.1 h.numbers
    have hnesting := nestingFields_le_iff.1 (Nat.le_of_succ_le_succ h.nesting)
    exact ⟨h.ordered.1, fun e he => ⟨hordered e he, hnumbers e he, hnesting e he⟩⟩
  · rintro ⟨hsorted, hvalues⟩
    refine ⟨⟨hsorted, ?_⟩, ?_, Nat.succ_le_succ ?_⟩
    · exact orderedFields_iff.2 fun e he => (hvalues e he).ordered
    · exact numbersFields_iff.2 fun e he => (hvalues e he).numbers
    · exact nestingFields_le_iff.2 fun e he => (hvalues e he).nesting

namespace Decoder

variable {α : Type}

/-! ## Free-form values -/

theorem yielded_json {document : Document} (hsized : document.Sized) {depth : Nat} {value : Json}
    (h : json depth document = .ok value) : Yielded depth value :=
  have ⟨hordered, hnesting⟩ := json_ok document depth value h
  ⟨hordered, json_sized document depth value hsized h, hnesting⟩

/-- A number that is read as one of 64 bits with a sign has them. -/
theorem int64_ok {document : Document} (hsized : document.Sized) {depth : Nat} {n : Int}
    (h : int64 depth document = .ok n) : -(Nat.pow 2 63 : Int) ≤ n ∧ n < Nat.pow 2 63 := by
  unfold int64 at h
  split at h
  · split at h
    · rename_i hupper
      obtain rfl := Except.ok.inj h
      have hrange : Number.isWhole _ = true := hsized
      unfold Number.isWhole at hrange
      simp only [Bool.and_eq_true, decide_eq_true_eq] at hrange
      exact ⟨hrange.1, hupper⟩
    · cases h
  · cases h

/-! ## Maps -/

theorem bindings_keeps {value : Decoder α} {P : α → Prop} {depth : Nat}
    (hvalue : ∀ (document : Document) (a : α), document.Sized →
      value depth document = .ok a → P a)
    {fields : List (Key × Document)} (hsized : Document.SizedFields fields)
    {entries : List (String × α)} (h : bindings value depth fields = .ok entries) :
    ∀ e ∈ entries, P e.2 := by
  induction fields generalizing entries with
  | nil =>
    obtain rfl := Except.ok.inj h
    exact List.forall_mem_nil _
  | cons entry fields ih =>
    obtain ⟨key, document⟩ := entry
    cases key with
    | other | broken => cases h
    | text key =>
      obtain ⟨first, hfirst, h⟩ := bind_ok_iff.1 h
      obtain ⟨others, hothers, h⟩ := bind_ok_iff.1 h
      obtain rfl := Except.ok.inj h
      exact List.forall_mem_cons.2 ⟨hvalue document first hsized.1 hfirst, ih hsized.2 hothers⟩

/-- A map that is read is sorted, and its values are as they are read. -/
theorem map_keeps {value : Decoder α} {P : α → Prop} {depth : Nat}
    (hvalue : ∀ (document : Document) (a : α), document.Sized →
      value depth document = .ok a → P a)
    {document : Document} (hsized : document.Sized) {m : Assoc α}
    (h : map value (depth + 1) document = .ok m) : m.Sorted ∧ ∀ e ∈ m, P e.2 := by
  unfold map at h
  split at h
  · obtain ⟨left, hleft, h⟩ := bind_ok_iff.1 h
    obtain rfl := Except.ok.inj hleft
    obtain ⟨entries, hentries, h⟩ := bind_ok_iff.1 h
    obtain rfl := Except.ok.inj h
    have hkept := bindings_keeps hvalue hsized hentries
    exact ⟨Assoc.sorted_ofList entries, fun e he => hkept e (Assoc.mem_ofList he)⟩
  · cases h

theorem optional_keeps {value : Decoder α} {depth : Nat} {document : Document} {o : Option α}
    (h : optional value depth document = .ok o) {a : α} (ha : o = some a) :
    value depth document = .ok a := by
  unfold optional at h
  split at h
  · rw [ha] at h
    cases h
  · obtain ⟨b, hb, h⟩ := bind_ok_iff.1 h
    rw [ha] at h
    obtain rfl := Option.some.inj (Except.ok.inj h)
    exact hb

/-! ## Records -/

variable {fields : List (RecordField α)} {P : α → Prop} {depth : Nat}

/-- Every field leaves the records as it should when it is read from a tree with numbers of the
range. -/
def Keep (P : α → Prop) (depth : Nat) (fields : List (RecordField α)) : Prop :=
  ∀ field ∈ fields, ∀ (document : Document) (a b : α), document.Sized →
    field.read depth document a = .ok b → P a → P b

theorem keep_nil : Keep P depth ([] : List (RecordField α)) := List.forall_mem_nil _

/-- A field that sets what it is read as. -/
theorem keep_cons {β : Type} {names : List String} {presence : Presence} {value : Decoder β}
    {set : β → α → α} (hset : ∀ (document : Document) (b : β) (a : α), document.Sized →
      value depth document = .ok b → P a → P (set b a)) (hfields : Keep P depth fields) :
    Keep P depth (⟨names, presence, fun depth document record => do
      return set (← value depth document) record⟩ :: fields) := by
  refine List.forall_mem_cons.2 ⟨fun document a b hsized h ha => ?_, hfields⟩
  obtain ⟨read, hread, h⟩ := bind_ok_iff.1 h
  obtain rfl := Except.ok.inj h
  exact hset document read a hsized hread ha

theorem named_keeps (hfields : Keep P depth fields) {given : List String} {start result : α}
    (hstart : P start) {entries : List (Key × Document)} (hsized : Document.SizedFields entries)
    (h : named fields depth given start entries = .ok result) : P result := by
  induction entries generalizing given start with
  | nil =>
    rw [named] at h
    split at h
    · exact Except.ok.inj h ▸ hstart
    · cases h
  | cons entry entries ih =>
    obtain ⟨key, document⟩ := entry
    cases key with
    | other | broken => cases h
    | text key =>
      rw [named] at h
      split at h
      · split at h
        · exact ih hstart hsized.2 h
        · cases h
      · rename_i field hfind
        split at h
        · cases h
        · obtain ⟨next, hnext, h⟩ := bind_ok_iff.1 h
          refine ih ?_ hsized.2 h
          exact hfields field (List.mem_of_find?_eq_some hfind) document start next hsized.1
            hnext hstart

theorem positional_keeps (hfields : Keep P depth fields) {start result : α} (hstart : P start)
    {items : List Document} (hsized : Document.SizedItems items)
    (h : positional fields depth start items = .ok result) : P result := by
  induction fields generalizing start items with
  | nil =>
    cases items with
    | nil => exact Except.ok.inj h ▸ hstart
    | cons item items => cases h
  | cons field fields ih =>
    obtain ⟨hfield, hfields⟩ := List.forall_mem_cons.1 hfields
    cases items with
    | nil =>
      rw [positional] at h
      split at h
      · exact ih hfields hstart hsized h
      · cases h
    | cons item items =>
      obtain ⟨next, hnext, h⟩ := bind_ok_iff.1 h
      exact ih hfields (hfield item start next hsized.1 hnext hstart) hsized.2 h

/-- A record of fields by name is read from the fields of an object. -/
theorem namedRecord_ok {start result : α} {document : Document}
    (h : namedRecord fields start depth document = .ok result) :
    ∃ inner entries, depth = inner + 1 ∧ document = .object entries ∧
      named fields inner [] start entries = .ok result := by
  unfold namedRecord at h
  split at h
  · obtain ⟨inner, hinner, h⟩ := bind_ok_iff.1 h
    exact ⟨inner, _, enter_ok hinner, rfl, h⟩
  · obtain ⟨_, _, h⟩ := bind_ok_iff.1 h
    cases h
  · cases h

/-- What is true of the record to start from, and what every field keeps, is true of every record
that is read. -/
theorem record_keeps (hfields : Keep P depth fields) {start result : α} (hstart : P start)
    {document : Document} (hsized : document.Sized)
    (h : record fields start (depth + 1) document = .ok result) : P result := by
  unfold record at h
  split at h
  · exact named_keeps hfields hstart hsized h
  · exact positional_keeps hfields hstart hsized h
  · cases h

/-! ## Whole texts -/

/-- What is read of a text is read of a tree with numbers of the range. -/
theorem of_decode_ok {value : Decoder α} {s : String} {a : α} (h : decode value s = .ok a) :
    ∃ document : Document, document.Sized ∧ value maxDepth document = .ok a := by
  obtain ⟨result, hresult, hrest⟩ := bind_ok_iff.1 h
  split at hrest
  · cases hrest
  · obtain rfl := Except.ok.inj hrest
    exact ⟨_, Document.sized_read _, hresult⟩

end Decoder

end AccessControl.Json
