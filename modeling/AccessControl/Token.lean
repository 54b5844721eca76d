/-
Signed tokens: three parts between dots, a header, claims and a signature. A token is accepted when
it is signed with a key of its issuer, has not expired, and does not speak of another issuer or
another audience.
-/
import AccessControl.Failure
import AccessControl.Text.Segment
import AccessControl.Token.Key

namespace AccessControl.Token

open Json.Decoder

/-! ## Parts -/

structure Parts where
  header : String
  claims : String
  signature : String
deriving DecidableEq, Repr

/-- The parts of a token; dots beyond the last two belong to the header. -/
def parts? (token : String) : Option Parts :=
  match (Text.segments '.' token).reverse with
  | signature :: claims :: above =>
    if above.isEmpty then none else some ⟨".".intercalate above.reverse, claims, signature⟩
  | _ => none

/-- What the signature is a signature of. -/
def Parts.signed (p : Parts) : List UInt8 := s!"{p.header}.{p.claims}".toUTF8.toList

/-- What the JSON that a part stands for is read as. -/
def read? {α : Type} (value : Json.Decoder α) (part : String) : Option α := do
  (decodeBytes value (← Text.Base64.decodeForAddresses? part)).toOption

/-! ## Headers -/

/-- The ways to sign that a header can name. -/
def algorithms : List String :=
  ["HS256", "HS384", "HS512", "ES256", "ES384", "RS256", "RS384", "RS512", "PS256", "PS384",
    "PS512", "EdDSA"]

/-- The way to sign that is accepted. -/
def accepted : String := "RS256"

structure Header where
  algorithm : String
  key : Option String
deriving DecidableEq, Repr

def Header.decoder : Json.Decoder Header :=
  let passed {α : Type} (name : String) (value : Json.Decoder α) : RecordField Header :=
    .placed name (optional value) fun _ header => header
  record
    [passed "typ" text,
      .needed "alg" (word (algorithms.map fun a => (a, a))) fun algorithm h => { h with algorithm },
      passed "cty" text, passed "jku" text, passed "jwk" Published.decoder,
      .placed "kid" (optional text) fun key h => { h with key },
      passed "x5u" text, passed "x5c" (list text), passed "x5t" text, passed "x5t#S256" text]
    ⟨"", none⟩

/-- The header of a token. -/
def header? (token : String) : Option Header := do
  read? Header.decoder (← parts? token).header

/-! ## Claims -/

structure Claims where
  subject : String
  expiry : Option Json
  issuer : Option Json
  audience : Option Json
deriving Repr

def Claims.decoder : Json.Decoder Claims :=
  let passed (name : String) : RecordField Claims := .defaulted name json fun _ claims => claims
  namedRecord
    [.needed "sub" text fun subject claims => { claims with subject },
      .defaulted "exp" json fun e claims => { claims with expiry := some e },
      .defaulted "iss" json fun i claims => { claims with issuer := some i },
      .defaulted "aud" json fun a claims => { claims with audience := some a }, passed "nbf"]
    ⟨"", none, none, none⟩

/-- The second to which a number is nearest; it may not be negative. -/
def secondsOf : Number → Option Nat
  | .whole n => if n < 0 then none else some n.toNat
  | .real d =>
    let unit := Nat.pow 2 1074
    let seconds := (2 * d.units + unit) / (2 * unit)
    if (d.negative && d.units != 0) || Nat.pow 2 64 ≤ seconds then none else some seconds

/-- When a token expires. -/
def Claims.expirySeconds (claims : Claims) : Option Nat :=
  match claims.expiry with
  | some (.number n) => secondsOf n
  | _ => none

/-- The names in a claim that is a text or a list of texts. A claim of another shape says nothing.
-/
def names? (claim : Option Json) : Option (List String) :=
  match claim with
  | some (.text name) => some [name]
  | some (.array items) => items.mapM Json.asText?
  | _ => none

/-- A claim may be left out; one that is there shares a name with those that are expected. -/
def allows (expected : List String) (claim : Option Json) : Bool :=
  match names? claim with
  | some names => names.any expected.contains
  | none => true

/-! ## Acceptance -/

/-- What a token has to fit. -/
structure Expected where
  issuer : String
  /-- Empty if any audience will do. -/
  audiences : List String
deriving DecidableEq, Repr

/-- Why a token is not accepted. -/
inductive Fault
  /-- A part of it is malformed. -/
  | malformed
  | wrongKey
  | wrongSignature
  | noExpiry
  | expired
  | wrongIssuer
  | wrongAudience
deriving DecidableEq, Repr

def Fault.word : Fault → String
  | malformed => Failure.details
  | wrongKey => "InvalidAlgorithm"
  | wrongSignature => "InvalidSignature"
  | noExpiry => "Missing required claim: exp"
  | expired => "ExpiredSignature"
  | wrongIssuer => "InvalidIssuer"
  | wrongAudience => "InvalidAudience"

def Fault.failure (fault : Fault) : Failure := .unauthenticated s!"invalid token: {fault.word}"

/-- For so many seconds a token is accepted after it has expired. -/
def leeway : Nat := 60

/-- Whether the key made the signature of a token. -/
def checkSignature (p : Parts) (key : Key) : Except Fault Unit :=
  match key with
  | .other => .error .wrongKey
  | .rsa key =>
    match Text.Base64.decodeForAddresses? p.signature with
    | none => .error .malformed
    | some signature =>
      if key.verifies p.signed signature then .ok () else .error .wrongSignature

/-- The claims of a token. -/
def claims (p : Parts) : Except Fault Claims :=
  match read? Claims.decoder p.claims with
  | some claims => .ok claims
  | none => .error .malformed

/-- Whether claims fit what is expected at a moment. -/
def checkClaims (expected : Expected) (now : Nat) (claims : Claims) : Except Fault Unit := do
  let some expiry := claims.expirySeconds | .error .noExpiry
  if expiry < now - leeway then .error .expired
  unless allows [expected.issuer] claims.issuer do .error .wrongIssuer
  unless expected.audiences.isEmpty || allows expected.audiences claims.audience do
    .error .wrongAudience

/-- The subject of a token that is accepted. -/
def verify (expected : Expected) (now : Nat) (token : String) (key : Key) :
    Except Fault String := do
  let some p := parts? token | .error .malformed
  checkSignature p key
  let claims ← claims p
  checkClaims expected now claims
  return claims.subject

end AccessControl.Token
