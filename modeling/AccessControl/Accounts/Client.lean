/-
An account store on an authentication server. Accounts are managed through the private interface of
the server; tokens are verified here, with the keys that their issuer publishes. The keys are asked
for when a token names one that is not known, but not again within some time.
-/
import AccessControl.Accounts
import AccessControl.Http
import AccessControl.Settings
import AccessControl.Token

namespace AccessControl.Accounts

open Http (Dialogue)

/-- The keys that an issuer published and the second in which it was asked. -/
structure Keys where
  published : List Token.Published
  fetchedAt : Nat
deriving DecidableEq, Repr

structure Client where
  settings : AuthnSettings
  /-- For so many seconds the issuer is not asked again. -/
  refresh : Nat
  keys : Option Keys
deriving DecidableEq, Repr

namespace Client

def defaultRefresh : Nat := 30

def ofSettings (settings : AuthnSettings) (refresh : Nat) : Client := ⟨settings, refresh, none⟩

/-! ## Replies -/

/-- An exchange that broke off, or that could not be begun. -/
def brokenOff : Failure := .internal s!"authn request failed: {Failure.details}"

/-- What a reply says about one field of a request. -/
structure Complaint where
  field : String
  text : String
deriving DecidableEq, Repr

open Json.Decoder in
def Complaint.decoder : Json.Decoder Complaint :=
  record
    [.defaulted "field" Json.Decoder.text fun field c => { c with field },
      .defaulted "message" Json.Decoder.text fun text c => { c with text }]
    ⟨"", ""⟩

/-- What the body of a reply complains about; a body that cannot be read complains about nothing. -/
def complaints (body : String) : List Complaint :=
  let decoder : Json.Decoder (List Complaint) :=
    Json.Decoder.record
      [.defaulted "errors" (Json.Decoder.list Complaint.decoder) fun errors _ => errors] []
  match Json.Decoder.decode decoder body with
  | .ok errors => errors
  | .error _ => []

/-- What a reply without success means. -/
def failureOf (reply : Http.Reply) : Failure :=
  let complaints := complaints reply.body
  let detail := ", ".intercalate (complaints.map fun c => s!"{c.field} {c.text}")
  match reply.status with
  | 404 => .notFound "account"
  | 422 =>
    if complaints.any fun c => c.text == "TAKEN" then .conflict "account"
    else .invalidArgument detail
  | 400 => .invalidArgument detail
  | status => .internal s!"authn responded {Http.Status.render status}: {detail}"

/-- Sends a request, if there is one; the reply has to be one of success. -/
def send (request : Option Http.Request) : Dialogue (Answer Http.Reply) :=
  match request with
  | none => .done (.error brokenOff)
  | some request => do
    match ← Http.exchange request with
    | none => return .error brokenOff
    | some reply =>
      return if Http.Status.isSuccess reply.status then .ok reply else .error (failureOf reply)

/-- What a reply holds as its result. -/
def resultOf {α : Type} (decoder : Json.Decoder α) (start : α) (reply : Http.Reply) : Answer α :=
  match Json.Decoder.decode
      (Json.Decoder.record [.needed "result" decoder fun value _ => value] start) reply.body with
  | .ok value => .ok value
  | .error _ => .error (.internal s!"authn response: {Failure.details}")

/-! ## Accounts -/

/-- A request to the private interface. -/
def request? (client : Client) (method : Http.Method) (path : String) : Option Http.Request := do
  let url ← Http.Url.ofText? (Text.dropEnd '/' client.settings.server ++ path)
  return { Http.Request.bare method url with
    authorization := some (Http.Request.basic client.settings.username client.settings.password) }

/-- The path of an account. -/
def path (id : Int) (rest : String) : String := s!"/accounts/{id}{rest}"

/-- Asks the server to do something with an account. -/
def order (client : Client) (method : Http.Method) (path : String) : Dialogue (Answer Unit) := do
  return (← send (client.request? method path)).map fun _ => ()

def create (client : Client) (username password : String) (locked : Bool) :
    Dialogue (Answer Int) := do
  let body := Text.Percent.form
    [("username", username), ("password", password), ("locked", if locked then "true" else "false")]
  let request := (client.request? .post "/accounts/import").map fun r =>
    { r with contentType := some "application/x-www-form-urlencoded", body }
  let decoder := Json.Decoder.record [.needed "id" Json.Decoder.int64 fun id _ => id] 0
  return (← send request).bind (resultOf decoder 0)

def account (client : Client) (id : Int) : Dialogue (Answer Account) := do
  return (← send (client.request? .get (path id ""))).bind
    (resultOf Account.decoder ⟨0, "", false, false⟩)

/-! ## Tokens -/

def unknownKey : Failure := .unauthenticated "token signed with unknown key"

/-- The key that a name selects from published keys, if there is one of that name. -/
def selected (keys : List Token.Published) (id : Option String) : Answer (Option Token.Key) :=
  match Token.select keys id with
  | none => .ok none
  | some published =>
    match published.key? with
    | some key => .ok (some key)
    | none => .error (.internal s!"authn key: {Failure.details}")

/-- Asks the issuer for its keys. -/
def fetch (client : Client) : Dialogue (Answer (List Token.Published)) := do
  let url := Http.Url.ofText? (Text.dropEnd '/' client.settings.issuer ++ "/jwks")
  match ← send (url.map (Http.Request.bare .get)) with
  | .error failure => return .error failure
  | .ok reply =>
    match Json.Decoder.decode Token.keySet reply.body with
    | .ok keys => return .ok keys
    | .error _ => return .error (.internal s!"authn key set: {Failure.details}")

/-- Whether the issuer has been asked a short time ago. -/
def isFresh (client : Client) (now : Nat) : Bool :=
  match client.keys with
  | some keys => now - keys.fetchedAt < client.refresh
  | none => false

/-- The key of a name: one that is known, or else one from the keys that the issuer publishes now.
Keys from which the one that is needed cannot be read are not kept. -/
def key (client : Client) (now : Nat) (id : Option String) :
    Dialogue (Answer Token.Key × Client) := do
  match selected ((client.keys.map Keys.published).getD []) id with
  | .error failure => return (.error failure, client)
  | .ok (some key) => return (.ok key, client)
  | .ok none =>
    if client.isFresh now then return (.error unknownKey, client)
    match ← client.fetch with
    | .error failure => return (.error failure, client)
    | .ok published =>
      match selected published id with
      | .error failure => return (.error failure, client)
      | .ok key =>
        let client := { client with keys := some ⟨published, now⟩ }
        return match key with
          | some key => (.ok key, client)
          | none => (.error unknownKey, client)

def expected (client : Client) : Token.Expected :=
  ⟨client.settings.issuer, client.settings.audiences⟩

/-- The subject of a token, if it is accepted. -/
def subject (client : Client) (now : Nat) (token : String) : Dialogue (Answer String × Client) :=
  match Token.header? token with
  | none =>
    return (.error (.unauthenticated s!"malformed token: {Failure.details}"), client)
  | some header =>
    if header.algorithm != Token.accepted then
      return (.error (.unauthenticated "unsupported token algorithm"), client)
    else do
      match ← client.key now header.key with
      | (.error failure, client) => return (.error failure, client)
      | (.ok key, client) =>
        return ((Token.verify client.expected now token key).mapError Token.Fault.failure, client)

/-! ## The store -/

/-- Answers a call, and tells what the client knows after it. -/
def answer (client : Client) (now : Nat) : (call : Call) → Dialogue (Answer call.Reply × Client)
  | .create username password locked =>
    return (← client.create username password locked, client)
  | .account id => return (← client.account id, client)
  | .lock id => return (← client.order .patch (path id "/lock"), client)
  | .unlock id => return (← client.order .patch (path id "/unlock"), client)
  | .archive id => return (← client.order .delete (path id ""), client)
  | .subject token => client.subject now token

end Client

end AccessControl.Accounts
