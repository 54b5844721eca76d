/-
JSON texts as trees. Every text has a tree: where it breaks off the tree has a broken place, and all
containers that were open end there. A reader that never comes to the broken place does not notice.
-/
import AccessControl.Json.Token

namespace AccessControl.Json

/-- What stands in the place of a key. -/
inductive Key
  | text (s : String)
  /-- Another value, well formed or the start of a container. -/
  | other
  /-- A string that stands for nothing, or what is no value. -/
  | broken
deriving DecidableEq, Repr

/-- The tree of a text, in the order in which it is written. -/
inductive Document
  | null
  | bool (b : Bool)
  | number (n : Option Number)
  | text (s : Option String)
  | array (items : List Document)
  | object (fields : List (Key × Document))
  /-- The text is malformed from here on. -/
  | broken
deriving Repr

namespace Document

/-- A container that is open: what it holds so far, the last first. -/
inductive Frame
  | array (items : List Document)
  | object (fields : List (Key × Document)) (key : Key)

/-- What may come next. -/
inductive Expected
  | value
  /-- A value, or the end of an array that has none. -/
  | firstItem
  /-- A comma or the end of the container. -/
  | separator
  | key
  /-- A key, or the end of an object that has none. -/
  | firstKey
  | colon

/-- The container with the value put in its place. -/
def Frame.add (value : Document) : Frame → Frame
  | array items => array (value :: items)
  | object fields key => object ((key, value) :: fields) key

/-- The container when it ends. -/
def Frame.close : Frame → Document
  | array items => .array items.reverse
  | object fields _ => .object fields.reverse

/-- The open containers all end; the value is the last thing in the innermost. -/
def abandon (value : Document) : List Frame → Document
  | [] => value
  | frame :: outer => abandon (frame.add value).close outer

/-- What a token leads to: more of the containers, or a tree. -/
inductive Step
  | go (frames : List Frame) (expected : Expected)
  | done (document : Document)

/-- After a complete value its container goes on; without a container the tree is complete. -/
def finish (value : Document) : List Frame → Step
  | [] => .done value
  | frame :: outer => .go (frame.add value :: outer) .separator

def fail (frames : List Frame) : Step := .done (abandon broken frames)

def startValue (frames : List Frame) : Token → Step
  | .openArray => .go (.array [] :: frames) .firstItem
  | .openObject => .go (.object [] .broken :: frames) .firstKey
  | .null => finish .null frames
  | .bool b => finish (.bool b) frames
  | .number n => finish (.number n) frames
  | .text s => finish (.text s) frames
  | _ => fail frames

/-- The key that a token is. -/
def keyOf : Token → Key
  | .text (some s) => .text s
  | .null | .bool _ | .number (some _) | .openArray | .openObject => .other
  | _ => .broken

/-- A key: only after a string the field goes on. -/
def startKey : List Frame → Token → Step
  | .object fields _ :: outer, token =>
    match token with
    | .text _ => .go (.object fields (keyOf token) :: outer) .colon
    | _ => fail (.object fields (keyOf token) :: outer)
  | frames, _ => fail frames

def separate : List Frame → Token → Step
  | .array items :: outer, .comma => .go (.array items :: outer) .value
  | .object fields key :: outer, .comma => .go (.object fields key :: outer) .key
  | .array items :: outer, .closeArray => finish (Frame.array items).close outer
  | .object fields key :: outer, .closeObject => finish (Frame.object fields key).close outer
  | .object fields _ :: outer, _ => fail (.object fields .broken :: outer)
  | frames, _ => fail frames

def step (frames : List Frame) : Expected → Token → Step
  | .value, token => startValue frames token
  | .firstItem, .closeArray => finish (.array []) frames.tail
  | .firstItem, token => startValue frames token
  | .separator, token => separate frames token
  | .key, token => startKey frames token
  | .firstKey, .closeObject => finish (.object []) frames.tail
  | .firstKey, token => startKey frames token
  | .colon, .colon => .go frames .value
  | .colon, _ => fail frames

/-- The containers end because the tokens do. A key that is still to come is broken. -/
def cutOff : List Frame → Expected → Document
  | .object fields _ :: outer, .separator => abandon broken (.object fields .broken :: outer)
  | .object fields _ :: outer, .key => abandon broken (.object fields .broken :: outer)
  | frames, _ => abandon broken frames

/-- The tree of the first value among the tokens, and the tokens after it. -/
def readFrom : List Frame → Expected → List Token → Document × List Token
  | frames, expected, [] => (cutOff frames expected, [])
  | frames, expected, token :: rest =>
    match step frames expected token with
    | .go frames expected => readFrom frames expected rest
    | .done document => (document, rest)

/-- The tree of the first value of a text, and whether the text goes on after it. -/
def read (source : Source) : Document × Bool :=
  let (document, rest) := readFrom [] .value (Token.scan source)
  (document, !rest.isEmpty)

/-! ## Values as trees -/

mutual

/-- The tree of a value. -/
def ofJson : Json → Document
  | .null => null
  | .bool b => bool b
  | .number n => number (some n)
  | .text s => text (some s)
  | .array items => array (ofItems items)
  | .object fields => object (ofFields fields)

def ofItems : List Json → List Document
  | [] => []
  | item :: rest => ofJson item :: ofItems rest

def ofFields : List (String × Json) → List (Key × Document)
  | [] => []
  | (key, value) :: rest => (.text key, ofJson value) :: ofFields rest

end

/-! ## Trees that are passed over -/

mutual

/-- A text that is well formed to its end, whatever its strings and numbers stand for. -/
def complete : Document → Bool
  | broken => false
  | array items => completeItems items
  | object fields => completeFields fields
  | _ => true

def completeItems : List Document → Bool
  | [] => true
  | item :: rest => complete item && completeItems rest

def completeFields : List (Key × Document) → Bool
  | [] => true
  | (_, value) :: rest => complete value && completeFields rest

end

end Document

end AccessControl.Json
