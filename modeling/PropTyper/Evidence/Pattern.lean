import PropTyper.Property.Basic
import PropTyper.Tree.Basic

/-! # Properties taken apart by a pattern

A destructuring pattern such as `{ size = 1, user: { name } }` names properties, binds them to
local identifiers and gives some of them default values. What a default shows about the kind of a
property is read off the form of its expression alone.
-/

namespace PropTyper

namespace Tree

/-- The kind of the values that an expression of this form has; parentheses are looked through. -/
def valueKind (t : Tree) : PropKind :=
  match t.kind with
  | .parenthesizedExpression =>
    match _h : t.namedChildren with
    | inner :: _ => valueKind inner
    | [] => .any
  | .number => .number
  | .string | .templateString => .string
  | .trueLiteral | .falseLiteral => .bool
  | .array => .array
  | .object => .object
  | .functionExpression | .functionKeyword | .arrowFunction => .func
  | .jsxElement | .jsxSelfClosingElement | .jsxFragment => .element
  | .unaryExpression =>
    match t.child? .operator with
    | none => .any
    | some operator =>
      if operator.kind = .other "!" then .bool
      else if (operator.kind = .other "-" || operator.kind = .other "+") &&
          (t.childOf? .argument .number).isSome then .number
      else .any
  | _ => .any
termination_by sizeOf t
decreasing_by
  exact sizeOf_child_lt (mem_children_of_mem_namedChildren (_h ▸ List.mem_cons_self))

/-- A text without its first and its last character. -/
def unquoted (text : String) : String :=
  String.ofList (text.toList.drop 1).dropLast

/-- The name that a key stands for, unless it has to be computed. -/
def keyName? (key : Tree) : Option String :=
  if key.kind = .string then
    let name := unquoted key.text
    if name = "" then none else some name
  else if key.kind.isPlainKey then some key.text
  else none

/-- The `key: value` pairs of an object literal; pairs without a plain name are left out. -/
def entries (object : Tree) : List (String × Tree) :=
  object.namedChildren.filterMap fun entry =>
    if entry.kind = .pair then
      match (entry.child? .key).bind (·.keyName?), entry.child? .value with
      | some name, some value => if name = "" then none else some (name, value)
      | _, _ => none
    else none

theorem sizeOf_entry_lt {object : Tree} {e : String × Tree} (h : e ∈ object.entries) :
    sizeOf e.2 < sizeOf object := by
  obtain ⟨entry, hentry, heq⟩ := List.mem_filterMap.1 h
  have hlt := sizeOf_child_lt (mem_children_of_mem_namedChildren hentry)
  split at heq
  · split at heq
    · next value _ hvalue =>
      split at heq
      · cases heq
      · cases heq
        exact Nat.lt_trans (sizeOf_child_lt (mem_children_of_child? hvalue)) hlt
    · cases heq
  · cases heq

end Tree

namespace Property

/-- A property with a default value. The expression is kept only where its form shows a kind: any
other may depend on names that mean nothing elsewhere. -/
def withDefault (name : String) (value : Tree) (binding : Option String := none)
    (scope : Option Scope := none) : Property :=
  let kind := value.valueKind
  { name, binding, scope, kind, defaultText := if kind = .any then none else some value.text }

mutual

/-- One property for each key of a pattern. `scope` is the block in which its names can be seen. -/
def ofPattern (scope : Option Scope) (pattern : Tree) : List Property :=
  pattern.namedChildren.attach.filterMap fun ⟨entry, _⟩ => ofPatternItem? scope entry
termination_by (sizeOf pattern, 0)
decreasing_by
  exact Prod.Lex.left _ _ (Tree.sizeOf_child_lt (Tree.mem_children_of_mem_namedChildren ‹_›))

/-- The property that one entry of a pattern names; the rest of an object and computed keys name
none. -/
def ofPatternItem? (scope : Option Scope) (entry : Tree) : Option Property :=
  match entry.kind with
  | .shorthandPropertyIdentifierPattern =>
    some { name := entry.text, binding := some entry.text, scope }
  | .objectAssignmentPattern =>
    match entry.childOf? .left .shorthandPropertyIdentifierPattern, entry.child? .right with
    | some left, some right => some (withDefault left.text right (some left.text) scope)
    | _, _ => none
  | .pairPattern =>
    match (entry.child? .key).bind (·.keyName?), _h : entry.child? .value with
    | some name, some value => ofPatternValue? scope name value
    | _, _ => none
  | _ => none
termination_by (sizeOf entry, 0)
decreasing_by
  exact Prod.Lex.left _ _ (Tree.sizeOf_child_lt (Tree.mem_children_of_child? _h))

/-- The property `name` whose value is taken on as `value`. -/
def ofPatternValue? (scope : Option Scope) (name : String) (value : Tree) : Option Property :=
  match value.kind with
  | .identifier => some { name, binding := some value.text, scope }
  | .objectPattern => some { name, kind := .shape, children := ofPattern scope value }
  | .assignmentPattern =>
    match _h : value.child? .left, value.child? .right with
    | some left, some right =>
      match left.kind with
      | .identifier => some (withDefault name right (some left.text) scope)
      | .objectPattern =>
        some
          { name, kind := .shape, children := ofPattern scope left
            defaultText := if right.valueKind = .object then some right.text else none }
      | _ => none
    | _, _ => none
  | _ => none
termination_by (sizeOf value, 1)
decreasing_by
  · exact Prod.Lex.right _ Nat.zero_lt_one
  · exact Prod.Lex.left _ _ (Tree.sizeOf_child_lt (Tree.mem_children_of_child? _h))

end

/-- One property for each `key: value` pair of an object of default values. -/
def ofDefaults (object : Option Tree) : List Property :=
  match object with
  | none => []
  | some t => if t.kind = .object then t.entries.map fun e => withDefault e.1 e.2 else []

end Property

end PropTyper
