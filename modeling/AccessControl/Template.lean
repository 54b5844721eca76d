/-
Templates of policies. A template is literal text with expressions in angle brackets; inside an
expression angle brackets come in pairs. It is matched as one expression from start to end.
-/
import AccessControl.Failure
import AccessControl.Regex
import AccessControl.Text.Quoted

namespace AccessControl.Template

/-- What is wrong with a template. -/
inductive Fault
  /-- An opening bracket without its closing one. -/
  | unbalanced (template : String)
  /-- The expression it makes is malformed or too large. -/
  | expression (template : String)
deriving DecidableEq, Repr

def Fault.message : Fault → String
  | unbalanced template => s!"unbalanced pattern delimiters in {Text.quoted template}"
  | expression template => s!"pattern {Text.quoted template}: {Failure.details}"

def Fault.failure (fault : Fault) : Failure := .invalidArgument fault.message

/-! ## Pieces -/

/-- A piece of a template: text as it is, or an expression. -/
inductive Piece
  | literal (text : List Char)
  | expression (text : List Char)
deriving DecidableEq, Repr

/-- The pieces of a template of which `piece` has been read in reverse, `depth` brackets deep.
Outside of expressions a closing bracket is text. -/
def piecesFrom : Nat → List Char → List Char → Option (List Piece)
  | 0, piece, [] => some [.literal piece.reverse]
  | _ + 1, _, [] => none
  | 0, piece, c :: rest =>
    if c = '<' then (piecesFrom 1 [] rest).map (.literal piece.reverse :: ·)
    else piecesFrom 0 (c :: piece) rest
  | depth + 1, piece, c :: rest =>
    if c = '<' then piecesFrom (depth + 2) (c :: piece) rest
    else if c ≠ '>' then piecesFrom (depth + 1) (c :: piece) rest
    else if depth = 0 then (piecesFrom 0 [] rest).map (.expression piece.reverse :: ·)
    else piecesFrom depth (c :: piece) rest

/-- Literals and expressions in turn, starting and ending with a literal, unless the brackets of the
template are unbalanced. -/
def pieces? (template : String) : Option (List Piece) := piecesFrom 0 [] template.toList

/-- The text of the expression for a piece: literals are escaped, expressions are grouped. -/
def Piece.source : Piece → String
  | literal text => Regex.escape (String.ofList text)
  | expression text => "(?:" ++ String.ofList text ++ ")"

/-- The text of the expression for all pieces. -/
def source (pieces : List Piece) : String := "^" ++ String.join (pieces.map Piece.source) ++ "$"

/-- The expression of a template. -/
def compile (template : String) : Except Fault Regex :=
  match pieces? template with
  | none => .error (.unbalanced template)
  | some pieces =>
    match Regex.ofText? (source pieces) with
    | some r => .ok r
    | none => .error (.expression template)

/-- A template without an opening bracket is text that has to be equal. -/
def isLiteral (template : String) : Bool := !template.toList.contains '<'

end AccessControl.Template
