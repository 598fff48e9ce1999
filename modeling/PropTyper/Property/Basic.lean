import PropTyper.Property.Kind
import PropTyper.Span

/-! # Component properties

A property as a declaration states it or as the uses of a component show it. Its members are
either named (`shape`, `exact`) or the arguments of its validator, whose names are empty.
-/

namespace PropTyper

structure Property where
  name : String
  /-- The local identifier that holds the property, when there is one. -/
  binding : Option String := none
  kind : PropKind := .any
  required : Bool := false
  children : List Property := []
  /-- The argument of the validator as it was written, where it is no list of members. -/
  literal : Option String := none
  /-- The expression that stands in for a missing value, as it was written. -/
  defaultText : Option String := none
  /-- The block or function that introduces `binding`. -/
  scope : Option Scope := none
deriving Repr, Inhabited

/-- A text that is there and not empty. -/
def Filled (text : Option String) : Bool :=
  match text with
  | some s => s != ""
  | none => false

/-- The first text if it is filled, else the second as it is. -/
def firstFilled (first second : Option String) : Option String :=
  if Filled first then first else second

namespace Property

theorem sizeOf_child_lt {p c : Property} (h : c ∈ p.children) : sizeOf c < sizeOf p := by
  have hlt := List.sizeOf_lt_of_mem h
  cases p
  simp at *
  omega

/-- Ascending by name; properties of one name keep their order. -/
def sortByName (properties : List Property) : List Property :=
  properties.mergeSort fun a b => !decide (b.name < a.name)

/-- Members that the kind cannot carry are dropped, and named members are sorted. -/
def normalize (p : Property) : Property :=
  let members := p.children.map normalize
  { p with
    children :=
      if p.kind.hasNamedMembers then sortByName members
      else if p.kind.hasPositionalMembers then members
      else [] }
termination_by sizeOf p
decreasing_by exact sizeOf_child_lt ‹_›

/-- A property, then everything below each of its members in turn. -/
def preorder (p : Property) : List Property :=
  p :: p.children.flatMap preorder
termination_by sizeOf p
decreasing_by exact sizeOf_child_lt ‹_›

/-- How many levels of members a property has, itself included. -/
def height (p : Property) : Nat :=
  1 + (p.children.map height).foldl max 0
termination_by sizeOf p
decreasing_by exact sizeOf_child_lt ‹_›

/-- The list as it is reported: each property normalized, ascending by name. -/
def finalize (properties : List Property) : List Property :=
  sortByName (properties.map normalize)

end Property

end PropTyper
