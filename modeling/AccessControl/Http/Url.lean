/-
Addresses on the web: reading, writing, and following a reference from one to another.
-/
import AccessControl.Text.Numeral
import AccessControl.Text.Percent

namespace AccessControl.Http

structure Url where
  /-- Whether the connection is encrypted. -/
  secure : Bool
  /-- A name and a password to show. -/
  credentials : Option (String × String)
  /-- In small letters. -/
  host : String
  /-- Unless it is the usual one. -/
  port : Option Nat
  /-- The segments after the first slash, with their escapes. -/
  path : List String
  query : Option String
deriving DecidableEq, Repr

namespace Url

/-! ## Escapes -/

def upperHex (n : Nat) : Char := (Nat.digitChar n).toUpper

/-- Writes each byte of a text that is not `plain` as an escape. -/
def escape (plain : Char → Bool) (s : String) : String :=
  String.ofList <| (Text.Percent.bytes s).flatMap fun b =>
    let c := Char.ofNat b.toNat
    if 0x20 < b.toNat && b.toNat < 0x7F && plain c then [c]
    else ['%', upperHex (b.toNat / 16), upperHex (b.toNat % 16)]

def escapeSegment (s : String) : String :=
  escape (fun c => !("\"#<>?`".toList.contains c || c == '\x7b' || c == '\x7d')) s

def escapeQuery (s : String) : String := escape (fun c => !"\"#<>'".toList.contains c) s

/-! ## Paths -/

def isSlash (c : Char) : Bool := c == '/' || c == '\\'

/-- A dot, also one that is escaped. -/
def undot (segment : String) : String :=
  ".".intercalate (((Text.lower segment).splitOn "%2e"))

/-- Adds a segment to a path whose last one stands before a slash: a dot names the place itself, two
dots the place above. The segments are in reverse. -/
def descend (above : List String) (segment : String) (last : Bool) : List String :=
  if undot segment == "." then (if last then "" :: above else above)
  else if undot segment == ".." then (if last then "" :: above.drop 1 else above.drop 1)
  else escapeSegment segment :: above

def walk (above : List String) : List String → List String
  | [] => above
  | [segment] => descend above segment true
  | segment :: rest => walk (descend above segment false) rest

/-- The segments that lead from the segments above to the place of a path. -/
def resolve (above : List String) (path : String) : List String :=
  let segments := Text.segments '/' (path.map fun c => if isSlash c then '/' else c)
  (walk above.reverse segments).reverse

/-! ## Reading -/

/-- The parts of a reference before a query and the query; what follows a hash is not sent. -/
def splitQuery (s : String) : String × Option String := Text.cut '?' (Text.cut '#' s).1

/-- The host and the port of an authority. -/
def hostPort? (secure : Bool) (s : String) : Option (String × Option Nat) := do
  let usual := if secure then 443 else 80
  let bracketed := s.startsWith "["
  let (host, port) := match (Text.segments ':' s) with
    | [host] => (host, "")
    | parts =>
      if bracketed && s.endsWith "]" then (s, "")
      else (":".intercalate parts.dropLast, parts.getLastD "")
  let ok (c : Char) : Bool :=
    0x20 < c.toNat && c.toNat < 0x7F && !"\"#%/<>?@\\^`|".toList.contains c && c != '\x7b' &&
      c != '\x7d' && (bracketed || !":[]".toList.contains c)
  if host.isEmpty || !host.toList.all ok then none
  let number ← if port.isEmpty then some usual else Text.digits? port.toList
  if 65535 < number then none
  return (Text.lower host, if number == usual then none else some number)

/-- An authority with what follows it. -/
def ofAuthority? (secure : Bool) (s : String) : Option Url := do
  let cs := s.toList
  let ends (c : Char) : Bool := isSlash c || c == '?' || c == '#'
  let authority := String.ofList (cs.takeWhile (!ends ·))
  let rest := String.ofList (cs.dropWhile (!ends ·))
  let parts := Text.segments '@' authority
  let (host, port) ← hostPort? secure (parts.getLastD "")
  let user := "@".intercalate parts.dropLast
  let credentials := if user.isEmpty then none else
    let (name, password) := Text.cut ':' user
    let plain (s : String) : String := (Text.Percent.decode? s).getD s
    some (plain name, plain (password.getD ""))
  let (path, query) := splitQuery rest
  return ⟨secure, credentials, host, port,
    resolve [] (String.ofList (path.toList.drop 1)), query.map escapeQuery⟩

/-- A reference without blanks at its ends and without line breaks and tabs. -/
def clean (s : String) : String :=
  let outside (c : Char) : Bool := c.toNat ≤ 0x20
  let cs := (((s.toList.dropWhile outside).reverse).dropWhile outside).reverse
  String.ofList (cs.filter fun c => c != '\t' && c != '\n' && c != '\r')

/-- The scheme of a reference and what follows it. -/
def scheme? (s : String) : Option (String × String) :=
  match Text.cut ':' s with
  | (scheme, some rest) =>
    match scheme.toList with
    | c :: cs =>
      if c.isAlpha && cs.all fun c => c.isAlphanum || "+-.".toList.contains c then
        some (Text.lower scheme, rest)
      else none
    | [] => none
  | _ => none

def ofScheme? (scheme rest : String) : Option Url :=
  let authority := String.ofList (rest.toList.dropWhile isSlash)
  match scheme with
  | "http" => ofAuthority? false authority
  | "https" => ofAuthority? true authority
  | _ => none

/-- An address that says all of where it is. -/
def ofText? (s : String) : Option Url := do
  let (scheme, rest) ← scheme? (clean s)
  ofScheme? scheme rest

/-- The address that a reference leads to from another. -/
def join? (base : Url) (reference : String) : Option Url :=
  let reference := clean reference
  match scheme? reference with
  | some (scheme, rest) => ofScheme? scheme rest
  | none =>
    let (path, query) := splitQuery reference
    let query := query.map escapeQuery
    match path.toList with
    | [] => some { base with query := if query.isSome then query else base.query }
    | a :: rest =>
      if isSlash a then
        match rest with
        | b :: _ =>
          if isSlash b then ofScheme? (if base.secure then "https" else "http") reference
          else some { base with path := resolve [] (String.ofList rest), query }
        | [] => some { base with path := [""], query }
      else some { base with path := resolve base.path.dropLast path, query }

/-- The address with one more field in its query. -/
def withField (url : Url) (name value : String) : Url :=
  let field := Text.Percent.form [(name, value)]
  match url.query with
  | none => { url with query := some field }
  | some query => { url with query := some (if query.isEmpty then field else s!"{query}&{field}") }

/-! ## Writing -/

def render (url : Url) : String :=
  let scheme := if url.secure then "https" else "http"
  let port := (url.port.map fun n => s!":{n}").getD ""
  let query := (url.query.map fun q => s!"?{q}").getD ""
  let path := "/".intercalate url.path
  s!"{scheme}://{url.host}{port}/{path}{query}"

/-- Two addresses lead to the same server. -/
def sameServer (a b : Url) : Bool := a.secure == b.secure && a.host == b.host && a.port == b.port

end Url

end AccessControl.Http
