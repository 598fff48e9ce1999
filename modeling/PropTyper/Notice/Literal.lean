import PropTyper.Json.Basic
import PropTyper.Text.Quoted

/-! # Values in reports

The details of a failure are shown on one line, lists in brackets, fixed sequences in parentheses
and records in braces.
-/

namespace PropTyper

inductive Literal where
  | none
  | bool (value : Bool)
  | int (value : Int)
  | float (value : Double)
  | text (value : LooseText)
  | list (items : List Literal)
  | tuple (items : List Literal)
  | record (members : List (LooseText × Literal))
deriving Repr, Inhabited

namespace Literal

def textOf (name text : String) : LooseText × Literal :=
  (name, .text text)

mutual

def ofJson : Json → Literal
  | .null => none
  | .bool b => bool b
  | .int n => int n
  | .float x => float x
  | .str s => text s
  | .list items => list (ofItems items)
  | .object members => record (ofMembers members)

def ofItems : List Json → List Literal
  | [] => []
  | item :: rest => ofJson item :: ofItems rest

def ofMembers : Json.Members → List (LooseText × Literal)
  | [] => []
  | (name, v) :: rest => (name, ofJson v) :: ofMembers rest

end

/-- The text of a number with a fraction. -/
def floatText (x : Double) : String :=
  if x.isNaN then "nan"
  else if x.isInfinite then if x.isNegative then "-inf" else "inf"
  else x.render

mutual

def render : Literal → String
  | none => "None"
  | bool true => "True"
  | bool false => "False"
  | int n => toString n
  | float x => floatText x
  | text s => Text.shown s
  | list items => "[" ++ ", ".intercalate (renderAll items) ++ "]"
  | tuple [only] => "(" ++ render only ++ ",)"
  | tuple items => "(" ++ ", ".intercalate (renderAll items) ++ ")"
  | record members => "\x7b" ++ ", ".intercalate (renderMembers members) ++ "\x7d"

def renderAll : List Literal → List String
  | [] => []
  | item :: rest => render item :: renderAll rest

def renderMembers : List (LooseText × Literal) → List String
  | [] => []
  | (name, v) :: rest => (Text.shown name ++ ": " ++ render v) :: renderMembers rest

end

end Literal

/-- A message with details for whoever looks into it. -/
structure Notice where
  message : String
  details : List (LooseText × Literal) := []
deriving Repr, Inhabited

/-- The message, and the details if there are any. -/
def Notice.text (n : Notice) : String :=
  if n.details.isEmpty then n.message
  else n.message ++ " (details: " ++ (Literal.record n.details).render ++ ")"

end PropTyper
