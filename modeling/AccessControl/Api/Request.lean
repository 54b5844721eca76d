/-
Requests to the interface, as they arrive.
-/
import AccessControl.Text.Segment

namespace AccessControl.Api

inductive Method
  | get
  /-- Asks for what `get` answers without its body. -/
  | head
  | post
  | put
  | patch
  | delete
  | other
deriving DecidableEq, Repr

namespace Method

def ofWord (word : String) : Method :=
  match word with
  | "GET" => get
  | "HEAD" => head
  | "POST" => post
  | "PUT" => put
  | "PATCH" => patch
  | "DELETE" => delete
  | _ => other

end Method

structure Request where
  method : Method
  /-- The segments of the path, with their escapes. -/
  path : List String
  query : String
  authorization : Option String
  contentType : Option String
  body : String
deriving Repr

namespace Request

/-- What a header says; one with anything but visible characters, spaces and tabs says nothing. -/
def header (text : Option String) : Option String :=
  text.filter fun s => s.toList.all fun c => c == '\t' || (0x20 ≤ c.toNat && c.toNat < 0x7F)

/-- The segments of the path of an address and its query; what follows a hash is not sent. -/
def target (address : String) : List String × String :=
  let (path, query) := Text.cut '?' (Text.cut '#' address).1
  ((Text.segments '/' path).drop 1, query.getD "")

end Request

end AccessControl.Api
