/-
Conditions of policies: predicates on one attribute of a request.
-/
import AccessControl.Json.Decoder

namespace AccessControl

/-- How a number is compared with the number of a condition. -/
inductive Comparison
  | equal
  | less
  | lessOrEqual
  | greater
  | greaterOrEqual
deriving DecidableEq, Repr

namespace Comparison

def words : List (String × Comparison) :=
  [("eq", equal), ("lt", less), ("lte", lessOrEqual), ("gt", greater), ("gte", greaterOrEqual)]

def word : Comparison → String
  | equal => "eq"
  | less => "lt"
  | lessOrEqual => "lte"
  | greater => "gt"
  | greaterOrEqual => "gte"

def holds (c : Comparison) (a b : Double) : Bool :=
  match c with
  | equal => a.same b
  | less => a.lt b
  | lessOrEqual => a.le b
  | greater => b.lt a
  | greaterOrEqual => b.le a

end Comparison

inductive Condition
  /-- The attribute is this text. -/
  | textEqual (equals : String)
  /-- The attribute is a text that the expression matches as a whole. -/
  | textMatch (matching : String)
  /-- The attribute is the name of the subject. -/
  | equalsSubject
  | boolean (value : Bool)
  | numeric (comparison : Comparison) (value : Double)
  /-- The attribute is an array with this item. -/
  | contains (value : Json)
deriving Repr

namespace Condition

/-- The types of conditions. -/
inductive Form
  | textEqual
  | textMatch
  | equalsSubject
  | boolean
  | numeric
  | contains
deriving DecidableEq, Repr

def Form.words : List (String × Form) :=
  [("StringEqualCondition", textEqual), ("StringMatchCondition", textMatch),
    ("EqualsSubjectCondition", equalsSubject), ("BooleanCondition", boolean),
    ("NumericCondition", numeric), ("ContainsCondition", contains)]

/-- The word for the type and the options. -/
def parts : Condition → String × List (String × Json)
  | textEqual equals => ("StringEqualCondition", [("equals", .text equals)])
  | textMatch matching => ("StringMatchCondition", [("matches", .text matching)])
  | equalsSubject => ("EqualsSubjectCondition", [])
  | boolean value => ("BooleanCondition", [("value", .bool value)])
  | numeric comparison value =>
    ("NumericCondition", [("operator", .text comparison.word), ("value", .number (.real value))])
  | contains value => ("ContainsCondition", [("value", value)])

def toJson (c : Condition) : Json :=
  .object [("type", .text c.parts.1), ("options", .object c.parts.2)]

open Json Json.Decoder

/-- The options of a type of condition, which have to be an object. -/
def optionsDecoder (comparison : Json.Decoder Comparison) : Form → Json.Decoder Condition
  | .textEqual => namedRecord [.needed "equals" text fun s _ => textEqual s] (textEqual "")
  | .textMatch => namedRecord [.needed "matches" text fun s _ => textMatch s] (textMatch "")
  | .equalsSubject => namedRecord [] equalsSubject
  | .boolean => namedRecord [.needed "value" bool fun b _ => boolean b] (boolean false)
  | .numeric => fun depth document => do
    let (comparison, value) ← namedRecord
      [.needed "operator" comparison fun c e => (c, e.2),
        .needed "value" double fun d e => (e.1, d)] (Comparison.equal, Double.zero) depth document
    return numeric comparison value
  | .contains => namedRecord [.needed "value" json fun v _ => contains v] (contains .null)

/-- The options in a text. -/
def options (form : Form) : Json.Decoder Condition :=
  optionsDecoder (Decoder.word Comparison.words) form

/-- The options in a tree that has been read as a value before. -/
def settledOptions (form : Form) : Json.Decoder Condition := fun depth document =>
  match optionsDecoder (settledWord Comparison.words) form depth document with
  | .ok c => .ok c
  | .error _ => .error .mismatched

/-- Passes over the fields that do not matter; finds the next one that does. -/
def nextField : List (Key × Document) →
    Except Fault (Option (Bool × Document) × List (Key × Document))
  | [] => .ok (none, [])
  | (.text key, value) :: rest =>
    if key = "type" then .ok (some (true, value), rest)
    else if key = "options" then .ok (some (false, value), rest)
    else if value.complete then nextField rest
    else .error .malformed
  | _ :: _ => .error .malformed

/-- A condition of which both fields have been read; neither may come again. -/
def conclude (c : Condition) (rest : List (Key × Document)) : Except Fault Condition := do
  match (← nextField rest).1 with
  | none => .ok c
  | some _ => .error .mismatched

/-- A condition as an object with its type and its options in either order, or as an array of the
two. Options that come before the type are read as any value first; if they turn out to be those of
another type they are a mismatch. In an array the type is a string. -/
def decoder : Json.Decoder Condition
  | depth, .object fields => do
    let depth ← enter depth
    match ← nextField fields with
    | (none, _) => .error .mismatched
    | (some (true, type), rest) =>
      let form ← Decoder.word Form.words depth type
      match ← nextField rest with
      | (some (false, document), rest) => conclude (← options form depth document) rest
      | _ => .error .mismatched
    | (some (false, document), rest) =>
      let _ ← json depth document
      match ← nextField rest with
      | (some (true, type), rest) =>
        let form ← Decoder.word Form.words depth type
        conclude (← settledOptions form depth document) rest
      | _ => .error .mismatched
  | depth, .array items => do
    let depth ← enter depth
    match items with
    | [] => .error .mismatched
    | type :: rest =>
      let form ← plainWord Form.words depth type
      match rest with
      | [] => .error .mismatched
      | document :: rest =>
        let c ← options form depth document
        if rest.isEmpty then .ok c else .error .malformed
  | _, document => .error (wrongType document)

end Condition

end AccessControl
