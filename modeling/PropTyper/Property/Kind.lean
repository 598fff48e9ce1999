/-! # Validator kinds

The kinds a property can be declared with. A kind is written in a declaration under its `name`;
`ofName?` reads it back.
-/

namespace PropTyper

inductive PropKind where
  | any | bool | number | string | func | object | array | node | element | elementType | symbol
  | shape | exact | oneOf | oneOfType | arrayOf | objectOf | instanceOf | custom
deriving DecidableEq, Repr, Inhabited

namespace PropKind

def name : PropKind → String
  | any => "any"
  | bool => "bool"
  | number => "number"
  | string => "string"
  | func => "func"
  | object => "object"
  | array => "array"
  | node => "node"
  | element => "element"
  | elementType => "elementType"
  | symbol => "symbol"
  | shape => "shape"
  | exact => "exact"
  | oneOf => "oneOf"
  | oneOfType => "oneOfType"
  | arrayOf => "arrayOf"
  | objectOf => "objectOf"
  | instanceOf => "instanceOf"
  | custom => "custom"

def all : List PropKind :=
  [any, bool, number, string, func, object, array, node, element, elementType, symbol,
    shape, exact, oneOf, oneOfType, arrayOf, objectOf, instanceOf, custom]

def ofName? (text : String) : Option PropKind :=
  all.find? fun kind => kind.name == text

theorem mem_all (kind : PropKind) : kind ∈ all := by
  cases kind <;> decide

theorem name_injective {a b : PropKind} (h : a.name = b.name) : a = b := by
  revert h
  cases a <;> cases b <;> decide

theorem ofName?_name (kind : PropKind) : ofName? kind.name = some kind := by
  cases kind <;> decide

/-- The members of a property of this kind have names of their own. -/
def hasNamedMembers : PropKind → Bool
  | shape | exact => true
  | _ => false

/-- The members of a property of this kind are the arguments of its validator. -/
def hasPositionalMembers : PropKind → Bool
  | oneOfType | arrayOf | objectOf => true
  | _ => false

def isContainer (kind : PropKind) : Bool :=
  kind.hasNamedMembers || kind.hasPositionalMembers

/-- Kinds that the uses of a binding may still refine. -/
def isImprecise : PropKind → Bool
  | any | shape => true
  | _ => false

end PropKind

end PropTyper
