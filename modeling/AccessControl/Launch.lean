/-
How a realm is launched from its settings.
-/
import AccessControl.Api
import AccessControl.Realm
import AccessControl.Settings

namespace AccessControl.Launch

/-- Why a realm cannot be launched. -/
inductive Fault
  | settings (fault : Settings.Fault)
  /-- The file of the storage cannot be opened. -/
  | storage (path : String)
deriving DecidableEq, Repr

def unopened : Failure := .internal "kv open: unable to open database file"

/-- The texts of a fault, from what it concerns to what caused it. -/
def Fault.chain : Fault → List String
  | settings fault => fault.chain
  | storage path => [s!"opening database {path}", unopened.message]

/-- The storage of a setting, where `opens` tells whether a file can be opened; it is new. -/
def storageOf (opens : String → Bool) : StorageSetting → Except Fault Storage.Backend
  | .memory => .ok (.memory .empty)
  | .file path => if opens path then .ok (.table .empty) else .error (.storage path)

/-- The account store of the settings and the issuer of its tokens. -/
def accountsOf (servers : Http.Servers) (settings : Settings) : Accounts.Store × String :=
  match settings.authn with
  | some authn =>
    (.remote (.ofSettings authn Accounts.Client.defaultRefresh) servers [], authn.issuer)
  | none => (.register .empty, Api.localIssuer)

/-- The realm of some variables with its interface. -/
def launch (lookup : String → Option String) (opens : String → Bool) (servers : Http.Servers)
    (now : Nat) : Except Fault (Realm × Api) := do
  let settings ← match Settings.ofLookup lookup with
    | .ok settings => pure settings
    | .error fault => throw (.settings fault)
  let storage ← storageOf opens settings.storage
  let (accounts, issuer) := accountsOf servers settings
  return (.start storage accounts now, ⟨issuer, !settings.disableAuthorization⟩)

end AccessControl.Launch
