/-
The numbers of values. Main statements: a value is legible if its whole numbers lie in the range and
its binary fractions are read as they are printed (`legible_of_exact`), and all whole numbers that a
text is read with lie in the range (`Document.sized_read`, `Decoder.json_sized`).
-/
import AccessControl.Proofs.Json.Nesting

namespace AccessControl

/-- A whole number lies in the range. -/
def Number.Sized : Number → Prop
  | whole n => isWhole n = true
  | real _ => True

/-- Printing the number and reading it back is exact. -/
def Double.Exact (d : Double) : Prop := Json.parse? d.render = some (.number (.real d))

def Number.Exact : Number → Prop
  | whole _ => True
  | real d => d.Exact

namespace Json

/-! ## Numbers in values -/

mutual

/-- All numbers in the value have the property. -/
def Numbers (P : Number → Prop) : Json → Prop
  | .number n => P n
  | .array items => NumbersItems P items
  | .object fields => NumbersFields P fields
  | _ => True

def NumbersItems (P : Number → Prop) : List Json → Prop
  | [] => True
  | item :: rest => Numbers P item ∧ NumbersItems P rest

def NumbersFields (P : Number → Prop) : List (String × Json) → Prop
  | [] => True
  | (_, value) :: rest => Numbers P value ∧ NumbersFields P rest

end

theorem numbersFields_iff {P : Number → Prop} {fields : List (String × Json)} :
    NumbersFields P fields ↔ ∀ e ∈ fields, Numbers P e.2 := by
  induction fields with
  | nil => simp [NumbersFields]
  | cons e rest ih => simp [NumbersFields, ih]

theorem numbersItems_texts (P : Number → Prop) (names : List String) :
    NumbersItems P (names.map .text) := by
  induction names with
  | nil => trivial
  | cons name names ih => exact ⟨trivial, ih⟩

theorem exact_iff {d : Double} : d.Exact ↔ rereadNumber (.real d) = some (.real d) := by
  have hread : parse? (Json.number (.real d)).render =
      (Decoder.json Decoder.maxDepth (.number (rereadNumber (.real d)))).toOption :=
    congrArg Except.toOption (Decoder.decode_written Decoder.json (.number (.real d)))
  refine ⟨fun h => ?_, fun h => hread.trans (by rw [h]; rfl)⟩
  have hsame := hread.symm.trans h
  cases hagain : rereadNumber (.real d) with
  | none =>
    rw [hagain] at hsame
    cases hsame
  | some n =>
    rw [hagain] at hsame
    exact congrArg some (Json.number.inj (Option.some.inj hsame))

theorem legibleNumber_of_exact {n : Number} (hsized : n.Sized) (hexact : n.Exact) :
    LegibleNumber n := by
  cases n with
  | whole n => exact legibleNumber_whole hsized
  | real d => exact legibleNumber_iff.2 (by rw [scan_number, exact_iff.1 hexact])

mutual

/-- Numbers of their size that are read as they are printed are legible. -/
theorem legible_of_exact : ∀ {j : Json}, Numbers Number.Sized j → Numbers Number.Exact j →
    Legible j
  | .null, _, _ | .bool _, _, _ | .text _, _, _ => trivial
  | .number _, hsized, hexact => legibleNumber_of_exact hsized hexact
  | .array _, hsized, hexact => legibleItems_of_exact hsized hexact
  | .object _, hsized, hexact => legibleFields_of_exact hsized hexact

theorem legibleItems_of_exact : ∀ {items : List Json}, NumbersItems Number.Sized items →
    NumbersItems Number.Exact items → LegibleItems items
  | [], _, _ => trivial
  | _ :: _, hsized, hexact =>
    ⟨legible_of_exact hsized.1 hexact.1, legibleItems_of_exact hsized.2 hexact.2⟩

theorem legibleFields_of_exact : ∀ {fields : List (String × Json)},
    NumbersFields Number.Sized fields → NumbersFields Number.Exact fields → LegibleFields fields
  | [], _, _ => trivial
  | _ :: _, hsized, hexact =>
    ⟨legible_of_exact hsized.1 hexact.1, legibleFields_of_exact hsized.2 hexact.2⟩

end

/-! ## Numbers in tokens -/

namespace Token

def Sized : Token → Prop
  | .number (some n) => n.Sized
  | _ => True

theorem Numeral.value_sized {n : Numeral} : (Token.number n.value).Sized := by
  unfold Numeral.value
  dsimp only
  generalize (if n.negative then -(digitsValue n.digits : Int) else digitsValue n.digits) = whole
  split
  · rename_i hwhole
    simp only [Bool.and_eq_true] at hwhole
    exact hwhole.1.2
  · cases n.real? <;> trivial

theorem sized_startingWith (c : Char) (rest : Source) : (startingWith c rest).1.Sized := by
  unfold startingWith
  split
  case h_11 =>
    split
    · exact Numeral.value_sized
    · trivial
  all_goals first | trivial | (split <;> trivial)

theorem sized_scanFrom (skip : Nat) (source : Source) :
    ∀ token ∈ scanFrom skip source, token.Sized := by
  induction source generalizing skip with
  | nil =>
    intro token h
    cases skip <;> cases h
  | cons c source ih =>
    cases skip with
    | succ skip => exact ih skip
    | zero =>
      cases c with
      | none =>
        intro token h
        obtain rfl := List.mem_singleton.1 h
        trivial
      | some c =>
        rw [scanFrom.eq_4]
        split
        · exact ih 0
        · have hfirst := sized_startingWith c source
          split
          · intro token h
            obtain rfl := List.mem_singleton.1 h
            trivial
          · rename_i first used _ hstart
            rw [hstart] at hfirst
            intro token h
            rcases List.mem_cons.1 h with rfl | h
            · exact hfirst
            · exact ih used token h

end Token

/-! ## Numbers in trees -/

namespace Document

mutual

/-- All whole numbers in the tree lie in the range. -/
def Sized : Document → Prop
  | .number (some n) => n.Sized
  | .array items => SizedItems items
  | .object fields => SizedFields fields
  | _ => True

def SizedItems : List Document → Prop
  | [] => True
  | item :: rest => Sized item ∧ SizedItems rest

def SizedFields : List (Key × Document) → Prop
  | [] => True
  | (_, value) :: rest => Sized value ∧ SizedFields rest

end

theorem sizedItems_iff {items : List Document} : SizedItems items ↔ ∀ d ∈ items, d.Sized := by
  induction items with
  | nil => simp [SizedItems]
  | cons d rest ih => simp [SizedItems, ih]

theorem sizedFields_iff {fields : List (Key × Document)} :
    SizedFields fields ↔ ∀ e ∈ fields, e.2.Sized := by
  induction fields with
  | nil => simp [SizedFields]
  | cons e rest ih => simp [SizedFields, ih]

/-- The tree that an open container makes when it ends has numbers of their size. -/
def Frame.Sized (frame : Frame) : Prop := frame.close.Sized

theorem Frame.sized_array_iff {items : List Document} :
    (Frame.array items).Sized ↔ ∀ d ∈ items, d.Sized := by
  show SizedItems items.reverse ↔ _
  simp only [sizedItems_iff, List.mem_reverse]

theorem Frame.sized_object_iff {fields : List (Key × Document)} {key : Key} :
    (Frame.object fields key).Sized ↔ ∀ e ∈ fields, e.2.Sized := by
  show SizedFields fields.reverse ↔ _
  simp only [sizedFields_iff, List.mem_reverse]

theorem Frame.Sized.add {frame : Frame} (h : frame.Sized) {value : Document}
    (hvalue : value.Sized) : (frame.add value).Sized := by
  cases frame with
  | array items =>
    refine sized_array_iff.2 fun d hd => ?_
    rcases List.mem_cons.1 hd with rfl | hd
    · exact hvalue
    · exact sized_array_iff.1 h d hd
  | object fields key =>
    refine sized_object_iff.2 fun e he => ?_
    rcases List.mem_cons.1 he with rfl | he
    · exact hvalue
    · exact sized_object_iff.1 h e he

variable {frames : List Frame}

theorem sized_abandon (h : ∀ frame ∈ frames, frame.Sized) {value : Document}
    (hvalue : value.Sized) : (abandon value frames).Sized := by
  induction frames generalizing value with
  | nil => exact hvalue
  | cons frame outer ih =>
    obtain ⟨hframe, houter⟩ := List.forall_mem_cons.1 h
    exact ih houter (hframe.add hvalue)

/-- What a step leads to has numbers of their size. -/
def Step.Sized : Step → Prop
  | .go frames _ => ∀ frame ∈ frames, frame.Sized
  | .done document => document.Sized

theorem sized_finish (h : ∀ frame ∈ frames, frame.Sized) {value : Document}
    (hvalue : value.Sized) : (finish value frames).Sized := by
  cases frames with
  | nil => exact hvalue
  | cons frame outer =>
    obtain ⟨hframe, houter⟩ := List.forall_mem_cons.1 h
    exact List.forall_mem_cons.2 ⟨hframe.add hvalue, houter⟩

theorem sized_fail (h : ∀ frame ∈ frames, frame.Sized) : (fail frames).Sized :=
  sized_abandon h trivial

theorem sized_startValue (h : ∀ frame ∈ frames, frame.Sized) {token : Token}
    (htoken : token.Sized) : (startValue frames token).Sized := by
  cases token with
  | openArray => exact List.forall_mem_cons.2 ⟨Frame.sized_array_iff.2 nofun, h⟩
  | openObject => exact List.forall_mem_cons.2 ⟨Frame.sized_object_iff.2 nofun, h⟩
  | null | bool _ | text _ => exact sized_finish h trivial
  | number n =>
    cases n with
    | none => exact sized_finish h trivial
    | some n => exact sized_finish h htoken
  | closeArray | closeObject | comma | colon | broken => exact sized_fail h

theorem Frame.Sized.withKey {fields : List (Key × Document)} {key : Key}
    (h : (Frame.object fields key).Sized) (next : Key) : (Frame.object fields next).Sized :=
  sized_object_iff.2 (sized_object_iff.1 h)

theorem sized_startKey (h : ∀ frame ∈ frames, frame.Sized) (token : Token) :
    (startKey frames token).Sized := by
  unfold startKey
  split
  · obtain ⟨hframe, houter⟩ := List.forall_mem_cons.1 h
    split
    · exact List.forall_mem_cons.2 ⟨hframe.withKey _, houter⟩
    · exact sized_fail (List.forall_mem_cons.2 ⟨hframe.withKey _, houter⟩)
  · exact sized_fail h

theorem sized_separate (h : ∀ frame ∈ frames, frame.Sized) (token : Token) :
    (separate frames token).Sized := by
  unfold separate
  split
  case h_6 => exact sized_fail h
  all_goals obtain ⟨hframe, houter⟩ := List.forall_mem_cons.1 h
  case h_5 => exact sized_fail (List.forall_mem_cons.2 ⟨hframe.withKey _, houter⟩)
  case h_3 | h_4 => exact sized_finish houter hframe
  case h_1 => exact h
  case h_2 => exact List.forall_mem_cons.2 ⟨hframe.withKey _, houter⟩

theorem sized_step (h : ∀ frame ∈ frames, frame.Sized) (expected : Expected) {token : Token}
    (htoken : token.Sized) : (step frames expected token).Sized := by
  have hempty {value : Document} (hvalue : value.Sized) : (finish value frames.tail).Sized :=
    sized_finish (fun frame hframe => h frame (List.mem_of_mem_tail hframe)) hvalue
  unfold step
  split
  case h_1 | h_3 => exact sized_startValue h htoken
  case h_2 | h_6 => exact hempty trivial
  case h_4 => exact sized_separate h token
  case h_5 | h_7 => exact sized_startKey h token
  case h_8 => exact h
  case h_9 => exact sized_fail h

theorem sized_cutOff (h : ∀ frame ∈ frames, frame.Sized) (expected : Expected) :
    (cutOff frames expected).Sized := by
  unfold cutOff
  split
  case h_3 => exact sized_abandon h trivial
  all_goals
    obtain ⟨hframe, houter⟩ := List.forall_mem_cons.1 h
    exact sized_abandon (List.forall_mem_cons.2 ⟨hframe.withKey _, houter⟩) trivial

theorem sized_readFrom {tokens : List Token} (htokens : ∀ token ∈ tokens, token.Sized)
    (h : ∀ frame ∈ frames, frame.Sized) (expected : Expected) :
    (readFrom frames expected tokens).1.Sized := by
  induction tokens generalizing frames expected with
  | nil => exact sized_cutOff h expected
  | cons token tokens ih =>
    obtain ⟨htoken, htokens⟩ := List.forall_mem_cons.1 htokens
    have hstep := sized_step h expected htoken
    rw [readFrom_cons]
    cases hnext : step frames expected token with
    | go frames expected =>
      rw [hnext] at hstep
      exact ih htokens hstep expected
    | done document =>
      rw [hnext] at hstep
      exact hstep

/-- Whole numbers of a text that do not lie in the range are read as binary fractions. -/
theorem sized_read (source : Source) : (read source).1.Sized :=
  sized_readFrom (Token.sized_scanFrom 0 source) (List.forall_mem_nil _) .value

end Document

/-! ## Numbers that have been read -/

namespace Decoder

mutual

theorem json_sized : ∀ (document : Document) (depth : Nat) (j : Json), document.Sized →
    json depth document = .ok j → Numbers Number.Sized j
  | .null, _, _, _, h | .bool _, _, _, _, h | .text (some _), _, _, _, h => by
    obtain rfl := Except.ok.inj h
    trivial
  | .number (some n), _, _, hsized, h => by
    obtain rfl := Except.ok.inj h
    exact hsized
  | .array items, depth, j, hsized, h => by
    obtain ⟨left, -, h⟩ := bind_ok_iff.1 h
    obtain ⟨values, hvalues, h⟩ := bind_ok_iff.1 h
    obtain rfl := Except.ok.inj h
    exact jsonItems_sized items left values hsized hvalues
  | .object fields, depth, j, hsized, h => by
    obtain ⟨left, -, h⟩ := bind_ok_iff.1 h
    obtain ⟨values, hvalues, h⟩ := bind_ok_iff.1 h
    obtain rfl := Except.ok.inj h
    have hfields := numbersFields_iff.1 (jsonFields_sized fields left values hsized hvalues)
    exact numbersFields_iff.2 fun e he => hfields e (Assoc.mem_ofList he)
  | .number none, _, _, _, h | .text none, _, _, _, h | .broken, _, _, _, h => by cases h

theorem jsonItems_sized : ∀ (items : List Document) (depth : Nat) (values : List Json),
    Document.SizedItems items → jsonItems depth items = .ok values →
      NumbersItems Number.Sized values
  | [], _, _, _, h => by
    obtain rfl := Except.ok.inj h
    trivial
  | item :: rest, depth, values, hsized, h => by
    obtain ⟨first, hfirst, h⟩ := bind_ok_iff.1 h
    obtain ⟨others, hothers, h⟩ := bind_ok_iff.1 h
    obtain rfl := Except.ok.inj h
    exact ⟨json_sized item depth first hsized.1 hfirst,
      jsonItems_sized rest depth others hsized.2 hothers⟩

theorem jsonFields_sized : ∀ (fields : List (Key × Document)) (depth : Nat)
    (values : List (String × Json)), Document.SizedFields fields →
      jsonFields depth fields = .ok values → NumbersFields Number.Sized values
  | [], _, _, _, h => by
    obtain rfl := Except.ok.inj h
    trivial
  | (.text key, value) :: rest, depth, values, hsized, h => by
    obtain ⟨first, hfirst, h⟩ := bind_ok_iff.1 h
    obtain ⟨others, hothers, h⟩ := bind_ok_iff.1 h
    obtain rfl := Except.ok.inj h
    exact ⟨json_sized value depth first hsized.1 hfirst,
      jsonFields_sized rest depth others hsized.2 hothers⟩
  | (.other, _) :: _, _, _, _, h | (.broken, _) :: _, _, _, _, h => by cases h

end

end Decoder

end Json

end AccessControl
