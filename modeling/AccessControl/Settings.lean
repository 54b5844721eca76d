/-
The settings of the service, from variables. A blank variable counts as one that is not set.
-/
import AccessControl.Assoc
import AccessControl.Settings.LogFormat
import AccessControl.Settings.SocketAddress
import AccessControl.Text.Blank

namespace AccessControl

/-- Where records are kept: only as long as the service runs, or in a file. -/
inductive StorageSetting
  | memory
  | file (path : String)
deriving DecidableEq, Repr

/-- How to reach the authentication server, and the tokens to accept. -/
structure AuthnSettings where
  server : String
  username : String
  password : String
  issuer : String
  audiences : List String
deriving DecidableEq, Repr

structure Settings where
  listen : Settings.SocketAddress
  storage : StorageSetting
  logFormat : Settings.LogFormat
  /-- Without a server, accounts are kept by the service itself. -/
  authn : Option AuthnSettings
  disableAuthorization : Bool
deriving DecidableEq, Repr

namespace Settings

/-- What is wrong with the variables. -/
inductive Fault
  | listen
  | logFormat (reason : String)
  | disableAuthorization (value : String)
  /-- A variable that the authentication server needs is not set. -/
  | required (key : String)
  | noAudience
  | notAbsolute (server : String)
  | noHost (server : String)
deriving DecidableEq, Repr

/-- The texts of a fault, from what it concerns to what caused it. -/
def Fault.chain : Fault → List String
  | listen => ["IAM_LISTEN must be a socket address", "invalid socket address syntax"]
  | logFormat reason => ["IAM_LOG_FORMAT", reason]
  | disableAuthorization value =>
    ["IAM_DISABLE_AUTHORIZATION", s!"expected a boolean, got {Text.quoted value}"]
  | required key => [s!"{key} is required when AUTHN_SERVER is set"]
  | noAudience => ["AUTHN_AUDIENCE names no audience"]
  | notAbsolute server => [s!"AUTHN_SERVER {Text.quoted server} is not an absolute URL"]
  | noHost server => [s!"AUTHN_SERVER {Text.quoted server} has no host"]

def defaultListen : String := "0.0.0.0:8080"

/-- The path that means no file at all. -/
def memoryPath : String := ":memory:"

/-- The value of a variable that is set and not blank. -/
def value? (lookup : String → Option String) (key : String) : Option String :=
  (lookup key).filter fun v => !Text.isBlankText v

def flag (raw : String) : Except Fault Bool :=
  let word := Text.lower (Text.trim raw)
  if ["1", "true", "yes", "on"].contains word then .ok true
  else if ["0", "false", "no", "off"].contains word then .ok false
  else .error (.disableAuthorization word)

/-- The pieces between commas, without blanks at their ends and without the empty ones. -/
def audiences (list : String) : List String :=
  ((Text.segments ',' list).map Text.trim).filter fun a => !a.isEmpty

/-- What a server's address has before its path. -/
def origin (server : String) : Except Fault String :=
  match Text.cutAt? "://" server with
  | none => .error (.notAbsolute server)
  | some (scheme, rest) =>
    let host := (Text.cut '/' rest).1
    if host.isEmpty then .error (.noHost server) else .ok s!"{scheme}://{host}"

def need (lookup : String → Option String) (key : String) : Except Fault String :=
  match value? lookup key with
  | some v => .ok v
  | none => .error (.required key)

/-- The settings for a server: the audiences are looked at first, then the issuer, which is the
server's origin if none is set, then the name and the password to use there. -/
def authnOf (lookup : String → Option String) (server : String) : Except Fault AuthnSettings := do
  let audiences := audiences (← need lookup "AUTHN_AUDIENCE")
  if audiences.isEmpty then .error .noAudience
  let issuer ← match value? lookup "AUTHN_ISSUER" with
    | some issuer => .ok issuer
    | none => origin server
  let username ← need lookup "AUTHN_USER"
  let password ← need lookup "AUTHN_PASSWORD"
  return { server, username, password, issuer, audiences }

/-- The settings that the variables make; of several faults the first in the order of the fields. -/
def ofLookup (lookup : String → Option String) : Except Fault Settings := do
  let some listen := SocketAddress.ofText? ((value? lookup "IAM_LISTEN").getD defaultListen)
    | .error .listen
  let storage := match value? lookup "IAM_DATABASE" with
    | none => .memory
    | some path => if path = memoryPath then .memory else .file path
  let logFormat ← match value? lookup "IAM_LOG_FORMAT" with
    | none => .ok .json
    | some raw => (LogFormat.ofText raw).mapError .logFormat
  let disableAuthorization ← match value? lookup "IAM_DISABLE_AUTHORIZATION" with
    | none => .ok false
    | some raw => flag raw
  let authn ← match value? lookup "AUTHN_SERVER" with
    | none => .ok none
    | some server => (authnOf lookup server).map some
  return { listen, storage, logFormat, authn, disableAuthorization }

end Settings

end AccessControl
