/-
The keys that an issuer publishes. A token says with which of them it was signed; one that does not
say so goes with the first.
-/
import AccessControl.Digest.Signature
import AccessControl.Json.Decoder
import AccessControl.Text.Base64

namespace AccessControl.Token

/-- What a key is made of, with numbers and points as texts. -/
inductive Material
  | rsa (modulus exponent : String)
  | curve (x y : String)
  | octets (value : String)
  | pair (x : String)
deriving DecidableEq, Repr

/-- A key as it is published. -/
structure Published where
  id : Option String
  material : Material
deriving DecidableEq, Repr

/-- A key with its numbers read. -/
inductive Key
  | rsa (key : Digest.PublicKey)
  /-- A key of a family that no accepted signature is made with. -/
  | other
deriving DecidableEq, Repr

open Json.Decoder

/-- The ways to sign or to wrap a key that a published key can be for. -/
def purposes : List String :=
  ["HS256", "HS384", "HS512", "ES256", "ES384", "RS256", "RS384", "RS512", "PS256", "PS384",
    "PS512", "EdDSA", "RSA1_5", "RSA-OAEP", "RSA-OAEP-256"]

/-- Words that are only checked. -/
def checked (words : List String) : List (String × Unit) := words.map fun w => (w, ())

/-- What a published key says about itself besides its material. -/
def commonFields : List (RecordField (Option String)) :=
  let passed {α : Type} (name : String) (value : Json.Decoder α) : RecordField (Option String) :=
    .defaulted name (optional value) fun _ id => id
  [passed "use" text, passed "key_ops" (list text), passed "alg" (settledWord (checked purposes)),
    .defaulted "kid" (optional text) fun id _ => id,
    passed "x5u" text, passed "x5c" (list text), passed "x5t" text, passed "x5t#S256" text]

/-- A field that has to hold one of some words. -/
def oneOf {α : Type} (name : String) (words : List String) : RecordField α :=
  .needed name (word (checked words)) fun _ record => record

def curves : List String := ["P-256", "P-384", "P-521", "Ed25519"]

/-- A record of words that have to be there and of texts, which `make` gets in their order. -/
def texts (words : List (RecordField (List String))) (names : List String)
    (make : List String → Material) : Json.Decoder Material := fun depth document => do
  let fields := words ++ names.zipIdx.map fun e =>
    .needed e.1 text fun v vs => vs.set e.2 v
  return make (← namedRecord fields (names.map fun _ => "") depth document)

/-- The kinds of material; the first one that fits counts. -/
def materials : List (Json.Decoder Material) :=
  [texts [oneOf "kty" ["EC"], oneOf "crv" curves] ["x", "y"] fun vs =>
      .curve (vs.getD 0 "") (vs.getD 1 ""),
    texts [oneOf "kty" ["RSA"]] ["n", "e"] fun vs => .rsa (vs.getD 0 "") (vs.getD 1 ""),
    texts [oneOf "kty" ["oct"]] ["k"] fun vs => .octets (vs.getD 0 ""),
    texts [oneOf "kty" ["OKP"], oneOf "crv" curves] ["x"] fun vs => .pair (vs.getD 0 "")]

/-- A published key; it is read as any value first. -/
def Published.decoder : Json.Decoder Published := fun depth document => do
  let _ ← json depth document
  let id ← namedRecord commonFields none depth document
  match materials.findSome? fun m => (m depth document).toOption with
  | some material => return ⟨id, material⟩
  | none => .error .mismatched

/-- A set of keys in the order in which they are published. -/
def keySet : Json.Decoder (List Published) :=
  namedRecord [.needed "keys" (list Published.decoder) fun keys _ => keys] []

/-- The numbers of a key, if they can be read. -/
def Published.key? (published : Published) : Option Key :=
  let bytes := Text.Base64.decodeForAddresses?
  match published.material with
  | .rsa modulus exponent => return .rsa ⟨← bytes modulus, ← bytes exponent⟩
  | .curve x y => do
    let _ ← bytes x
    let _ ← bytes y
    return .other
  | .octets value => (bytes value).map fun _ => .other
  | .pair x => (bytes x).map fun _ => .other

/-- The key of a set that a name selects; without a name it is the first. -/
def select (keys : List Published) (id : Option String) : Option Published :=
  match id with
  | none => keys.head?
  | some id => keys.find? fun k => k.id == some id

end AccessControl.Token
