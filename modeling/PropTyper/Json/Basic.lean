import PropTyper.Number.Double
import PropTyper.Text.Loose

/-! # JSON values -/

namespace PropTyper

/-- A value of a JSON text. Whole numbers and fractions are different things, and the members of an
object have an order. -/
inductive Json where
  | null
  | bool (value : Bool)
  | int (value : Int)
  | float (value : Double)
  | str (value : LooseText)
  | list (items : List Json)
  | object (members : List (LooseText × Json))
deriving Repr, Inhabited

namespace Json

abbrev Members := List (LooseText × Json)

/-- Sets a member: a name that is there keeps its place and gets the new value. -/
def setMember {κ α : Type} [DecidableEq κ] (name : κ) (value : α) :
    List (κ × α) → List (κ × α)
  | [] => [(name, value)]
  | (n, v) :: rest => if n = name then (n, value) :: rest else (n, v) :: setMember name value rest

/-- The members with each name once: the place of the first, the value of the last. -/
def distinctMembers {κ α : Type} [DecidableEq κ] (members : List (κ × α)) : List (κ × α) :=
  members.foldl (fun all m => setMember m.1 m.2 all) []

def maxDigits : Nat := 4300

mutual

/-- Every value in a value, itself included, is as it is asked for. -/
def all (asked : Json → Bool) : Json → Bool
  | list items => asked (list items) && allItems asked items
  | object members => asked (object members) && allMembers asked members
  | v => asked v

def allItems (asked : Json → Bool) : List Json → Bool
  | [] => true
  | item :: rest => all asked item && allItems asked rest

def allMembers (asked : Json → Bool) : List (LooseText × Json) → Bool
  | [] => true
  | (_, v) :: rest => all asked v && allMembers asked rest

end

mutual

def hasHalf : Json → Bool
  | str s => s.hasHalf
  | list items => itemsHaveHalf items
  | object members => membersHaveHalf members
  | _ => false

def itemsHaveHalf : List Json → Bool
  | [] => false
  | item :: rest => hasHalf item || itemsHaveHalf rest

def membersHaveHalf : List (LooseText × Json) → Bool
  | [] => false
  | (name, v) :: rest => name.hasHalf || hasHalf v || membersHaveHalf rest

end

end Json

end PropTyper
