/-
A text written from a value is read as the tree of that value, with the numbers that the texts of
its numbers are read as (`read_render`); so a reader finds the value itself if its numbers are
legible (`decode_render`), and a list of texts comes back as it was written (`decode_texts`).
-/
import AccessControl.Json.Decoder
import AccessControl.Proofs.Json.Numeral

namespace AccessControl.Json

/-! ## The tokens of a value -/

namespace Token

mutual

/-- The tokens of the text of a value; its numbers are those that their texts are read as. -/
def ofJson : Json → List Token
  | .null => [.null]
  | .bool b => [.bool b]
  | .number n => [.number (rereadNumber n)]
  | .text s => [.text (some s)]
  | .array items => .openArray :: (ofItems items ++ [.closeArray])
  | .object fields => .openObject :: (ofFields fields ++ [.closeObject])

def ofItems : List Json → List Token
  | [] => []
  | [item] => ofJson item
  | item :: rest => ofJson item ++ .comma :: ofItems rest

def ofFields : List (String × Json) → List Token
  | [] => []
  | [(key, value)] => .text (some key) :: .colon :: ofJson value
  | (key, value) :: rest =>
    .text (some key) :: .colon :: (ofJson value ++ .comma :: ofFields rest)

end

end Token

open Token

theorem scanFrom_mark {c : Char} {token : Token} (rest : Source) (hc : isBlank c = false)
    (ht : token ≠ .broken) (hs : ∀ rest, startingWith c rest = (token, 0)) :
    scanFrom 0 (some c :: rest) = token :: scanFrom 0 rest :=
  scanFrom_token c [] rest hc ht (hs _)

theorem follows_mark {c : Char} (h : c ∈ [',', ']', '\x7d']) (rest : Source) :
    Follows (some c :: rest) := .inr ⟨c, rest, rfl, h⟩

mutual

/-- The text of a value scans to the tokens of the value. -/
theorem scan_render : ∀ (j : Json) rest, Follows rest →
    scanFrom 0 (sourceOf j.render ++ rest) = ofJson j ++ scanFrom 0 rest
  | .null, rest, _ => scanFrom_token 'n' (sourceOf "ull") rest (by decide) (by simp) rfl
  | .bool true, rest, _ => scanFrom_token 't' (sourceOf "rue") rest (by decide) (by simp) rfl
  | .bool false, rest, _ => scanFrom_token 'f' (sourceOf "alse") rest (by decide) (by simp) rfl
  | .number n, _, hr => scanFrom_render n hr
  | .text s, rest, _ => scanFrom_renderText s rest
  | .array items, rest, _ => by
    have hs : sourceOf (Json.array items).render ++ rest =
        some '[' :: (sourceOf (renderItems items) ++ some ']' :: rest) := by
      simp [render, sourceOf]
    rw [hs, scanFrom_mark _ (by decide) (by simp) fun _ => rfl, scan_renderItems items,
      scanFrom_mark _ (by decide) (by simp) fun _ => rfl]
    simp [ofJson]
  | .object fields, rest, _ => by
    have hs : sourceOf (Json.object fields).render ++ rest =
        some '\x7b' :: (sourceOf (renderFields fields) ++ some '\x7d' :: rest) := by
      simp [render, sourceOf]
    rw [hs, scanFrom_mark _ (by decide) (by simp) fun _ => rfl, scan_renderFields fields,
      scanFrom_mark _ (by decide) (by simp) fun _ => rfl]
    simp [ofJson]

theorem scan_renderItems : ∀ (items : List Json) rest,
    scanFrom 0 (sourceOf (renderItems items) ++ some ']' :: rest) =
      ofItems items ++ scanFrom 0 (some ']' :: rest)
  | [], _ => rfl
  | [item], rest => scan_render item _ (follows_mark (by decide) rest)
  | item :: next :: items, rest => by
    have hs : sourceOf (renderItems (item :: next :: items)) ++ some ']' :: rest =
        sourceOf item.render ++ some ',' :: (sourceOf (renderItems (next :: items)) ++
          some ']' :: rest) := by
      simp [renderItems, sourceOf]
    rw [hs, scan_render item _ (follows_mark (by decide) _),
      scanFrom_mark _ (by decide) (by simp) fun _ => rfl, scan_renderItems (next :: items)]
    simp [ofItems]

theorem scan_renderFields : ∀ (fields : List (String × Json)) rest,
    scanFrom 0 (sourceOf (renderFields fields) ++ some '\x7d' :: rest) =
      ofFields fields ++ scanFrom 0 (some '\x7d' :: rest)
  | [], _ => rfl
  | [(key, value)], rest => by
    have hs : sourceOf (renderFields [(key, value)]) ++ some '\x7d' :: rest =
        sourceOf (renderText key) ++
          some ':' :: (sourceOf value.render ++ some '\x7d' :: rest) := by
      simp [renderFields, sourceOf]
    rw [hs, scanFrom_renderText, scanFrom_mark _ (by decide) (by simp) fun _ => rfl,
      scan_render value _ (follows_mark (by decide) _)]
    simp [ofFields]
  | (key, value) :: next :: fields, rest => by
    have hs : sourceOf (renderFields ((key, value) :: next :: fields)) ++ some '\x7d' :: rest =
        sourceOf (renderText key) ++ some ':' :: (sourceOf value.render ++ some ',' ::
          (sourceOf (renderFields (next :: fields)) ++ some '\x7d' :: rest)) := by
      simp [renderFields, sourceOf]
    rw [hs, scanFrom_renderText, scanFrom_mark _ (by decide) (by simp) fun _ => rfl,
      scan_render value _ (follows_mark (by decide) _),
      scanFrom_mark _ (by decide) (by simp) fun _ => rfl, scan_renderFields (next :: fields)]
    simp [ofFields]

end
namespace Document

/-! ## Trees from tokens -/

/-- What reading makes of the tokens that are left after a step. -/
def resume : Step → List Token → Document × List Token
  | .go frames expected, rest => readFrom frames expected rest
  | .done document, rest => (document, rest)

theorem readFrom_cons (frames : List Frame) (expected : Expected) (token : Token)
    (rest : List Token) :
    readFrom frames expected (token :: rest) = resume (step frames expected token) rest := by
  rw [readFrom]
  cases step frames expected token <;> rfl

/-- Where a value may stand: any, or the first of an array. -/
inductive Expected.IsValue : Expected → Prop
  | value : IsValue .value
  | firstItem : IsValue .firstItem

/-- Where a key may stand: any, or the first of an object. -/
inductive Expected.IsKey : Expected → Prop
  | key : IsKey .key
  | firstKey : IsKey .firstKey

theorem step_value {expected : Expected} (h : expected.IsValue) (frames : List Frame)
    {token : Token} (ht : token ≠ .closeArray) :
    step frames expected token = startValue frames token := by
  cases h with
  | value => rfl
  | firstItem =>
    cases token with
    | closeArray => exact absurd rfl ht
    | _ => rfl

theorem readFrom_value {expected : Expected} (h : expected.IsValue) (frames : List Frame)
    {token : Token} (ht : token ≠ .closeArray) (rest : List Token) :
    readFrom frames expected (token :: rest) = resume (startValue frames token) rest := by
  rw [readFrom_cons, step_value h frames ht]

theorem step_key {expected : Expected} (h : expected.IsKey) (fields : List (Key × Document))
    (key : Key) (outer : List Frame) (s : String) :
    step (.object fields key :: outer) expected (.text (some s)) =
      .go (.object fields (.text s) :: outer) .colon := by
  cases h <;> rfl

/-- After a key and its colon the value of the field is read. -/
theorem readFrom_key {expected : Expected} (h : expected.IsKey) (before : List (Key × Document))
    (last : Key) (outer : List Frame) (key : String) (rest : List Token) :
    readFrom (.object before last :: outer) expected (.text (some key) :: .colon :: rest) =
      readFrom (.object before (.text key) :: outer) .value rest := by
  rw [readFrom_cons, step_key h]
  show readFrom (.object before (.text key) :: outer) .colon (.colon :: rest) = _
  rw [readFrom_cons]
  rfl

mutual

/-- The tree of the text of a value; its numbers are those that their texts are read as. -/
def written : Json → Document
  | .null => null
  | .bool b => bool b
  | .number n => number (rereadNumber n)
  | .text s => text (some s)
  | .array items => array (writtenItems items)
  | .object fields => object (writtenFields fields)

def writtenItems : List Json → List Document
  | [] => []
  | item :: rest => written item :: writtenItems rest

def writtenFields : List (String × Json) → List (Key × Document)
  | [] => []
  | (key, value) :: rest => (.text key, written value) :: writtenFields rest

end

mutual

/-- A value of legible numbers has the tree that its text has. -/
theorem written_eq_ofJson : ∀ {j : Json}, Legible j → written j = ofJson j
  | .null, _ | .bool _, _ | .text _, _ => rfl
  | .number _, h => congrArg number (rereadNumber_of_legible h)
  | .array _, h => congrArg array (writtenItems_eq_ofItems h)
  | .object _, h => congrArg object (writtenFields_eq_ofFields h)

theorem writtenItems_eq_ofItems : ∀ {items : List Json}, LegibleItems items →
    writtenItems items = ofItems items
  | [], _ => rfl
  | _ :: _, h => congrArg₂ List.cons (written_eq_ofJson h.1) (writtenItems_eq_ofItems h.2)

theorem writtenFields_eq_ofFields : ∀ {fields : List (String × Json)}, LegibleFields fields →
    writtenFields fields = ofFields fields
  | [], _ => rfl
  | (key, _) :: _, h =>
    congrArg₂ (fun value rest => (Key.text key, value) :: rest) (written_eq_ofJson h.1)
      (writtenFields_eq_ofFields h.2)

end

mutual

/-- The tokens of a value make its tree, wherever a value may stand. -/
theorem readFrom_ofJson : ∀ (j : Json) (frames : List Frame) (expected : Expected),
    expected.IsValue → ∀ rest : List Token,
    readFrom frames expected (Token.ofJson j ++ rest) = resume (finish (written j) frames) rest
  | .null, frames, expected, h, rest => by
    rw [Token.ofJson, List.singleton_append, readFrom_value h frames (by simp)]
    rfl
  | .bool b, frames, expected, h, rest => by
    rw [Token.ofJson, List.singleton_append, readFrom_value h frames (by simp)]
    rfl
  | .number n, frames, expected, h, rest => by
    rw [Token.ofJson, List.singleton_append, readFrom_value h frames (by simp)]
    rfl
  | .text s, frames, expected, h, rest => by
    rw [Token.ofJson, List.singleton_append, readFrom_value h frames (by simp)]
    rfl
  | .array [], frames, expected, h, rest => by
    simp only [Token.ofJson, Token.ofItems, List.nil_append, List.cons_append]
    rw [readFrom_value h frames (by simp)]
    show readFrom (.array [] :: frames) .firstItem (.closeArray :: rest) = _
    rw [readFrom_cons]
    rfl
  | .array (item :: items), frames, expected, h, rest => by
    simp only [Token.ofJson, List.cons_append, List.append_assoc, List.nil_append]
    rw [readFrom_value h frames (by simp)]
    exact readFrom_ofItems (item :: items) (by simp) [] frames .firstItem .firstItem rest
  | .object [], frames, expected, h, rest => by
    simp only [Token.ofJson, Token.ofFields, List.nil_append, List.cons_append]
    rw [readFrom_value h frames (by simp)]
    show readFrom (.object [] .broken :: frames) .firstKey (.closeObject :: rest) = _
    rw [readFrom_cons]
    rfl
  | .object (field :: fields), frames, expected, h, rest => by
    simp only [Token.ofJson, List.cons_append, List.append_assoc, List.nil_append]
    rw [readFrom_value h frames (by simp)]
    exact readFrom_ofFields (field :: fields) (by simp) [] .broken frames .firstKey .firstKey rest

/-- The items of an array are added to those that are there, and the array ends. -/
theorem readFrom_ofItems : ∀ (items : List Json), items ≠ [] → ∀ (before : List Document)
    (outer : List Frame) (expected : Expected), expected.IsValue → ∀ rest : List Token,
    readFrom (.array before :: outer) expected (Token.ofItems items ++ .closeArray :: rest) =
      resume (finish (.array (before.reverse ++ writtenItems items)) outer) rest
  | [], hne, _, _, _, _, _ => absurd rfl hne
  | [item], _, before, outer, expected, h, rest => by
    rw [Token.ofItems, readFrom_ofJson item _ _ h]
    show readFrom (.array (written item :: before) :: outer) .separator _ = _
    rw [readFrom_cons]
    simp [step, separate, Frame.close, writtenItems]
  | item :: next :: items, _, before, outer, expected, h, rest => by
    rw [Token.ofItems, List.append_assoc, readFrom_ofJson item _ _ h, List.cons_append]
    · -- the comma leads from one item to the next
      show readFrom (.array (written item :: before) :: outer) .separator _ = _
      rw [readFrom_cons]
      show readFrom (.array (written item :: before) :: outer) .value _ = _
      rw [readFrom_ofItems (next :: items) (by simp) _ outer .value .value rest]
      simp [writtenItems]
    · simp

/-- The fields of an object are added to those that are there, and the object ends. -/
theorem readFrom_ofFields : ∀ (fields : List (String × Json)), fields ≠ [] →
    ∀ (before : List (Key × Document)) (last : Key) (outer : List Frame) (expected : Expected),
    expected.IsKey → ∀ rest : List Token,
    readFrom (.object before last :: outer) expected
        (Token.ofFields fields ++ .closeObject :: rest) =
      resume (finish (.object (before.reverse ++ writtenFields fields)) outer) rest
  | [], hne, _, _, _, _, _, _ => absurd rfl hne
  | [(key, value)], _, before, last, outer, expected, h, rest => by
    rw [Token.ofFields, List.cons_append, List.cons_append, readFrom_key h,
      readFrom_ofJson value _ _ .value]
    show readFrom (.object ((.text key, written value) :: before) (.text key) :: outer)
      .separator (.closeObject :: rest) = _
    rw [readFrom_cons]
    simp [step, separate, Frame.close, writtenFields]
  | (key, value) :: next :: fields, _, before, last, outer, expected, h, rest => by
    rw [Token.ofFields]
    · simp only [List.cons_append, List.append_assoc]
      rw [readFrom_key h, readFrom_ofJson value _ _ .value]
      show readFrom (.object ((.text key, written value) :: before) (.text key) :: outer)
        .separator (.comma :: _) = _
      rw [readFrom_cons]
      show readFrom (.object ((.text key, written value) :: before) (.text key) :: outer) .key _ = _
      rw [readFrom_ofFields (next :: fields) (by simp) _ _ outer .key .key rest]
      simp [writtenFields]
    · simp

end

/-- The text of a value is the text of its tree, with nothing after it. -/
theorem read_render (j : Json) : read (sourceOf j.render) = (written j, false) := by
  have hs : Token.scan (sourceOf j.render) = Token.ofJson j ++ [] := by
    have := scan_render j [] (.inl rfl)
    rwa [List.append_nil] at this
  unfold read
  rw [hs, readFrom_ofJson j [] .value .value []]
  rfl

end Document

namespace Decoder

variable {α : Type}

/-- Reading the text of a value is reading its tree. -/
theorem decode_written (value : Decoder α) (j : Json) :
    decode value j.render = value maxDepth (.written j) := by
  show decodeSource value (sourceOf j.render) = _
  unfold decodeSource
  rw [Document.read_render]
  show (value maxDepth (.written j) >>= fun result => .ok result) = _
  cases value maxDepth (.written j) <;> rfl

/-- Reading the text of a value of legible numbers is reading the value. -/
theorem decode_render (value : Decoder α) {j : Json} (h : Legible j) :
    decode value j.render = ofJson value j := by
  rw [decode_written, Document.written_eq_ofJson h]
  rfl

/-! ## Lists of texts -/

theorem legible_texts (names : List String) : LegibleItems (names.map .text) := by
  induction names with
  | nil => trivial
  | cons name names ih => exact ⟨trivial, ih⟩

theorem items_texts (depth : Nat) (names : List String) :
    items text depth (Document.ofItems (names.map .text)) = .ok names := by
  induction names with
  | nil => rfl
  | cons name names ih =>
    rw [List.map_cons, Document.ofItems, items, ih]
    rfl

/-- A list of texts comes back as it was written. -/
theorem decode_texts (names : List String) :
    decode (list text) (Json.array (names.map .text)).render = .ok names := by
  rw [decode_render (list text) (j := .array (names.map .text)) (legible_texts names)]
  exact items_texts 126 names

end Decoder

end AccessControl.Json
