/-
Reading the trees of JSON texts as values of a type. A reader stops at the first fault on its way
through the text: the text is malformed there, or what stands there is not what the type asks for.
-/
import AccessControl.Json.Document

namespace AccessControl.Json

/-- Why a text is not read. -/
inductive Fault
  /-- It is no JSON text as far as it had to be read. -/
  | malformed
  /-- It is one, but not of this type. -/
  | mismatched
deriving DecidableEq, Repr

/-- A reader: how many containers may still be opened inside each other, and the tree. -/
abbrev Decoder (α : Type) := Nat → Document → Except Fault α

namespace Decoder

/-- How many containers may be open at once. -/
def maxDepth : Nat := 127

/-- The fault of a tree of the wrong type: to tell what it is, it has to be well formed. -/
def wrongType : Document → Fault
  | .broken | .number none | .text none => .malformed
  | _ => .mismatched

/-- The depth that is left inside a container. -/
def enter : Nat → Except Fault Nat
  | 0 => .error .malformed
  | depth + 1 => .ok depth

/-! ## Free-form values -/

mutual

/-- The value of a tree. Of the fields of an object with the same key the last one counts. -/
def json (depth : Nat) : Document → Except Fault Json
  | .null => .ok .null
  | .bool b => .ok (.bool b)
  | .number (some n) => .ok (.number n)
  | .text (some s) => .ok (.text s)
  | .array items => do return .array (← jsonItems (← enter depth) items)
  | .object fields => do return .object (Assoc.ofList (← jsonFields (← enter depth) fields))
  | _ => .error .malformed

def jsonItems (depth : Nat) : List Document → Except Fault (List Json)
  | [] => .ok []
  | item :: rest => do return (← json depth item) :: (← jsonItems depth rest)

def jsonFields (depth : Nat) : List (Key × Document) → Except Fault (List (String × Json))
  | [] => .ok []
  | (.text key, value) :: rest => do return (key, ← json depth value) :: (← jsonFields depth rest)
  | _ :: _ => .error .malformed

end

/-! ## Simple types -/

def text : Decoder String
  | _, .text (some s) => .ok s
  | _, document => .error (wrongType document)

def bool : Decoder Bool
  | _, .bool b => .ok b
  | _, document => .error (wrongType document)

/-- Whole numbers of 64 bits with a sign. -/
def int64 : Decoder Int
  | _, .number (some (.whole n)) => if n < Nat.pow 2 63 then .ok n else .error .mismatched
  | _, document => .error (wrongType document)

/-- Any number, as the nearest binary fraction. -/
def double : Decoder Double
  | _, .number (some n) => .ok n.toDouble
  | _, document => .error (wrongType document)

/-! ## Words -/

/-- What a word of a type stands for. -/
def lookUp {α : Type} (words : List (String × α)) (s : String) : Except Fault α :=
  match words.find? fun e => e.1 == s with
  | some e => .ok e.2
  | none => .error .mismatched

/-- One of the words of a type, as a string. -/
def plainWord {α : Type} (words : List (String × α)) : Decoder α
  | _, .text (some s) => lookUp words s
  | _, document => .error (wrongType document)

/-- One of the words of a type: a string, or an object with the word as its only key and null as
its value. Nothing else can start a word. -/
def word {α : Type} (words : List (String × α)) : Decoder α
  | _, .text (some s) => lookUp words s
  | depth, .object fields => do
    let _ ← enter depth
    match fields with
    | (.text s, value) :: rest =>
      let a ← lookUp words s
      match value with
      | .null => if rest.isEmpty then .ok a else .error .malformed
      | value => .error (wrongType value)
    | (.other, _) :: _ => .error .mismatched
    | _ => .error .malformed
  | _, _ => .error .malformed

/-- A word in a tree that has been read as a value before; there an object without fields may stand
in the place of null. -/
def settledWord {α : Type} (words : List (String × α)) : Decoder α
  | _, .text (some s) => lookUp words s
  | _, .object [(.text s, .null)] => lookUp words s
  | _, .object [(.text s, .object [])] => lookUp words s
  | _, _ => .error .mismatched

/-! ## Composed types -/

/-- Nothing for null. -/
def optional {α : Type} (value : Decoder α) : Decoder (Option α)
  | _, .null => .ok none
  | depth, document => do return some (← value depth document)

def items {α : Type} (item : Decoder α) (depth : Nat) : List Document → Except Fault (List α)
  | [] => .ok []
  | d :: rest => do return (← item depth d) :: (← items item depth rest)

def list {α : Type} (item : Decoder α) : Decoder (List α)
  | depth, .array ds => do items item (← enter depth) ds
  | _, document => .error (wrongType document)

def bindings {α : Type} (value : Decoder α) (depth : Nat) :
    List (Key × Document) → Except Fault (List (String × α))
  | [] => .ok []
  | (.text key, d) :: rest => do return (key, ← value depth d) :: (← bindings value depth rest)
  | _ :: _ => .error .malformed

/-- An object with any keys; of those with the same key the last one counts. -/
def map {α : Type} (value : Decoder α) : Decoder (Assoc α)
  | depth, .object fields => do return Assoc.ofList (← bindings value (← enter depth) fields)
  | _, document => .error (wrongType document)

/-! ## Records -/

/-- When a field of a record may be missing. -/
inductive Presence
  | required
  /-- It may be missing among fields with names, but it keeps its place among those without. -/
  | placed
  | free
deriving DecidableEq, Repr

/-- A field of a record: its names, whether it may be missing, and how its tree changes a record in
which it has not been set. -/
structure RecordField (α : Type) where
  names : List String
  presence : Presence
  read : Nat → Document → α → Except Fault α

namespace RecordField

def needed {α β : Type} (name : String) (value : Decoder β) (set : β → α → α) : RecordField α :=
  ⟨[name], .required, fun depth document record => do return set (← value depth document) record⟩

def placed {α β : Type} (name : String) (value : Decoder β) (set : β → α → α) : RecordField α :=
  { needed name value set with presence := .placed }

def defaulted {α β : Type} (name : String) (value : Decoder β) (set : β → α → α) : RecordField α :=
  { needed name value set with presence := .free }

/-- The field under one more name. -/
def orNamed {α : Type} (field : RecordField α) (name : String) : RecordField α :=
  { field with names := field.names ++ [name] }

end RecordField

/-- The record of the fields of an object in the order of the text, when those of `given` have been
read. A field given twice and a field that has to be there and is not are mismatches; fields of
other names are passed over. -/
def named {α : Type} (fields : List (RecordField α)) (depth : Nat) (given : List String)
    (record : α) : List (Key × Document) → Except Fault α
  | [] =>
    if fields.all fun f => f.presence != .required || f.names.any given.contains then .ok record
    else .error .mismatched
  | (.text key, value) :: rest =>
    match fields.find? fun f => f.names.contains key with
    | none => if value.complete then named fields depth given record rest else .error .malformed
    | some f =>
      if f.names.any given.contains then .error .mismatched
      else do named fields depth (key :: given) (← f.read depth value record) rest
  | _ :: _ => .error .malformed

/-- The record of the items of an array, one for each field. Free fields at the end may be left out;
items at the end that belong to no field are malformed. -/
def positional {α : Type} : List (RecordField α) → Nat → α → List Document → Except Fault α
  | [], _, record, [] => .ok record
  | [], _, _, _ :: _ => .error .malformed
  | f :: fields, depth, record, [] =>
    if f.presence = .free then positional fields depth record [] else .error .mismatched
  | f :: fields, depth, record, item :: rest => do
    positional fields depth (← f.read depth item record) rest

/-- A record from its fields by name or by position; fields that are not there are as in `start`. -/
def record {α : Type} (fields : List (RecordField α)) (start : α) : Decoder α
  | depth, .object fs => do named fields (← enter depth) [] start fs
  | depth, .array ds => do positional fields (← enter depth) start ds
  | _, document => .error (wrongType document)

/-- A record from its fields by name only. -/
def namedRecord {α : Type} (fields : List (RecordField α)) (start : α) : Decoder α
  | depth, .object fs => do named fields (← enter depth) [] start fs
  | depth, .array _ => do
    let _ ← enter depth
    .error .mismatched
  | _, document => .error (wrongType document)

/-! ## Whole texts -/

variable {α : Type}

/-- Reads a text that holds nothing else. -/
def decodeSource (value : Decoder α) (source : Source) : Except Fault α := do
  let (document, more) := Document.read source
  let result ← value maxDepth document
  if more then .error .malformed else .ok result

def decode (value : Decoder α) (s : String) : Except Fault α :=
  decodeSource value (s.toList.map some)

/-- Reads the bytes of a text. -/
def decodeBytes (value : Decoder α) (bytes : List UInt8) : Except Fault α :=
  decodeSource value (Text.Utf8.characters bytes)

/-- Reads the first value of a text, whatever follows it. -/
def decodeFirst (value : Decoder α) (s : String) : Except Fault α :=
  value maxDepth (Document.read (s.toList.map some)).1

/-- Reads a value as one of another type. -/
def ofJson (value : Decoder α) (j : Json) : Except Fault α := value maxDepth (.ofJson j)

end Decoder

/-- The value of a text. -/
def parse? (s : String) : Option Json := (Decoder.decode Decoder.json s).toOption

end AccessControl.Json
