import PropTyper.Evidence.Access
import PropTyper.Property.Merge
import PropTyper.Tree.Walk

/-! # Properties that a component reads

A function component gets its properties as its first parameter: under a name, or taken apart by a
pattern. A class component finds them in `this.props`, and its constructor is read like a function.
-/

namespace PropTyper

namespace Property

/-- Where a class keeps its properties. -/
def classIdentity : String := "this.props"

def addAccess (identity : String) (n : Node) (found : List Property) : List Property :=
  if Text.withoutBlanks (n.tree.childText .object) = identity then found ++ (ofAccess? n).toList
  else found

/-- Adds what a declaration takes out of `identity` by a pattern. -/
def addDestructuring (identity : String) (n : Node) (found : List Property) : List Property :=
  match n.child? .name, n.child? .value with
  | some target, some value =>
    if target.kind = .objectPattern && value.tree.compactText = identity then
      found ++ ofPattern target.scope? target.tree
    else found
  | _, _ => found

/-- Everything that is read from `identity` below a node, in the order in which it is met. -/
def readFrom (n : Node) (identity : String) : List Property :=
  n.traverse
    (fun
      | .memberExpression => some (addAccess identity)
      | .variableDeclarator => some (addDestructuring identity)
      | _ => none)
    []

def ofFunction (n : Node) : List Property :=
  match n.firstParameter? with
  | none => []
  | some parameter =>
    match parameter.kind with
    | .identifier => mergeLists .peer [] (readFrom n parameter.text)
    | .objectPattern => mergeLists .peer (ofPattern parameter.scope? parameter.tree) []
    | _ => []

def constructor? (n : Node) : Option Node :=
  match n.child? .body with
  | none => none
  | some body =>
    body.namedChildren.find? fun m =>
      m.kind = .methodDefinition && m.tree.childText .name = "constructor"

def ofClass (n : Node) : List Property :=
  let first :=
    match constructor? n with
    | some method => ofFunction method
    | none => []
  mergeLists .peer first (readFrom n classIdentity)

/-- What a component reads, each name once and in the order in which it is met. -/
def ofUsage (component : Node) : List Property :=
  if component.kind.isClass then ofClass component else ofFunction component

end Property

end PropTyper
