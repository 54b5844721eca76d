/-
Addresses to listen on: four octets or eight groups of 16 bits, and a port.
-/
import AccessControl.Json.Token

namespace AccessControl.Settings

/-- An address with a port; one of eight groups may name a scope, where zero means none. -/
inductive SocketAddress
  | v4 (octets : List Nat) (port : Nat)
  | v6 (groups : List Nat) (scope : Nat) (port : Nat)
deriving DecidableEq, Repr

namespace SocketAddress

/-! ## Reading -/

def digit? (radix : Nat) (c : Char) : Option Nat := (Json.Token.hexDigit? c).filter (· < radix)

/-- The number that the digits at the start of a text write, and the text after all of them. There
have to be some, not more than `most`, and the number has to be below `bound`; a zero in front of
other digits may be refused. -/
def number? (radix : Nat) (most : Option Nat) (zeros : Bool) (bound : Nat) (cs : List Char) :
    Option (Nat × List Char) :=
  let ds := cs.takeWhile fun c => (digit? radix c).isSome
  let n := (ds.filterMap (digit? radix)).foldl (fun n d => n * radix + d) 0
  if ds.isEmpty || most.any (· < ds.length) || bound ≤ n ||
      (!zeros && ds.head? == some '0' && 1 < ds.length) then none
  else some (n, cs.drop ds.length)

def sign? (c : Char) : List Char → Option (List Char)
  | d :: rest => if c = d then some rest else none
  | [] => none

/-- Four decimal octets with points between them. -/
def octets? (cs : List Char) : Option (List Nat × List Char) := do
  let octet := number? 10 (some 3) false 256
  let (a, cs) ← octet cs
  let (b, cs) ← octet (← sign? '.' cs)
  let (c, cs) ← octet (← sign? '.' cs)
  let (d, cs) ← octet (← sign? '.' cs)
  return ([a, b, c, d], cs)

/-- The text after a colon, which only the first group does without. -/
def afterColon? (first : Bool) (cs : List Char) : Option (List Char) :=
  if first then some cs else sign? ':' cs

/-- At most so many groups with colons between them, the last two perhaps as four octets: the
groups, whether there were octets, and the text after them. -/
def groups (first : Bool) : Nat → List Char → List Nat × Bool × List Char
  | 0, cs => ([], false, cs)
  | most + 1, cs =>
    let octets := if most = 0 then none else (afterColon? first cs).bind octets?
    match octets with
    | some ([a, b, c, d], rest) => ([a * 256 + b, c * 256 + d], true, rest)
    | _ =>
      match (afterColon? first cs).bind (number? 16 (some 4) true 65536) with
      | some (group, rest) =>
        let (more, octets, rest) := groups false most rest
        (group :: more, octets, rest)
      | none => ([], false, cs)

/-- Eight groups, or fewer with one double colon for at least one group of zeros, before which no
octets may stand. -/
def ip6? (cs : List Char) : Option (List Nat × List Char) :=
  let (head, octets, rest) := groups true 8 cs
  if head.length = 8 then some (head, rest)
  else if octets then none
  else do
    let rest ← sign? ':' (← sign? ':' rest)
    let (tail, _, rest) := groups true (7 - head.length) rest
    return (head ++ List.replicate (8 - head.length - tail.length) 0 ++ tail, rest)

def port? (cs : List Char) : Option (Nat × List Char) := do
  number? 10 none true 65536 (← sign? ':' cs)

def v4? (cs : List Char) : Option SocketAddress := do
  let (octets, rest) ← octets? cs
  let (port, rest) ← port? rest
  if rest.isEmpty then return v4 octets port else none

/-- The scope after a percent sign, if there is one. -/
def scope (cs : List Char) : Nat × List Char :=
  match (sign? '%' cs).bind (number? 10 none true (Nat.pow 2 32)) with
  | some r => r
  | none => (0, cs)

def v6? (cs : List Char) : Option SocketAddress := do
  let (groups, rest) ← ip6? (← sign? '[' cs)
  let (scope, rest) := scope rest
  let (port, rest) ← port? (← sign? ']' rest)
  if rest.isEmpty then return v6 groups scope port else none

def ofText? (s : String) : Option SocketAddress := (v4? s.toList).orElse fun _ => v6? s.toList

/-! ## Writing -/

def renderOctets (octets : List Nat) : String := ".".intercalate (octets.map toString)

def renderGroups (groups : List Nat) : String :=
  ":".intercalate (groups.map fun g => String.ofList (Nat.toDigits 16 g))

/-- How many zeros the groups start with. -/
def leadingZeros (groups : List Nat) : Nat := (groups.takeWhile (· == 0)).length

/-- The place and the length of the longest run of zeros, the first of those of that length. -/
def longestZeros : List Nat → Nat × Nat
  | [] => (0, 0)
  | g :: rest =>
    let here := leadingZeros (g :: rest)
    let (place, length) := longestZeros rest
    if length ≤ here then (0, here) else (place + 1, length)

/-- Groups without zeros in front; the longest run of at least two groups of zeros is left out. An
address that stands for one of four octets shows the octets. -/
def renderIp6 (groups : List Nat) : String :=
  match groups with
  | [0, 0, 0, 0, 0, 0xFFFF, a, b] =>
    "::ffff:" ++ renderOctets [a / 256, a % 256, b / 256, b % 256]
  | groups =>
    let (place, length) := longestZeros groups
    if 1 < length then
      renderGroups (groups.take place) ++ "::" ++ renderGroups (groups.drop (place + length))
    else renderGroups groups

def render : SocketAddress → String
  | v4 octets port => s!"{renderOctets octets}:{port}"
  | v6 groups scope port =>
    let scope := if scope = 0 then "" else s!"%{scope}"
    s!"[{renderIp6 groups}{scope}]:{port}"

end SocketAddress

end AccessControl.Settings
