import PropTyper.Declaration.Render
import PropTyper.Evidence.Pattern
import PropTyper.Text.Case
import PropTyper.Text.Occurs
import PropTyper.Tree.Walk

/-! # Finding components and what belongs to them -/

namespace PropTyper.Node

/-- Classes and functions, in all their forms. -/
def isCandidate (kind : Kind) : Bool :=
  kind.isClass || kind.isFunction

/-- The name under which a class or function is defined: its own, or that of the variable it is the
value of. -/
def declaredName? (n : Node) : Option String :=
  if !n.tree.named then none
  else
    match n.kind with
    | .classDeclaration | .functionDeclaration => (n.tree.child? .name).map (·.text)
    | .classExpression | .functionExpression | .functionKeyword | .arrowFunction =>
      match n.parent? with
      | none => none
      | some parent =>
        if parent.kind = .variableDeclarator then
          match parent.tree.child? .value, parent.tree.childOf? .name .identifier with
          | some value, some name =>
            if value.span.start = n.span.start then some name.text else none
          | _, _ => none
        else none
    | _ => none

def component? (root : Node) (name : String) : Option Node :=
  (root.select isCandidate).find? fun n => n.declaredName? = some name

def containsJsx (n : Node) : Bool :=
  !(n.select Kind.isJsx).isEmpty

/-- The class that a class is derived from is some kind of component. -/
def extendsComponent (n : Node) : Bool :=
  match n.tree.children.find? fun c => c.kind = .classHeritage with
  | some heritage => Text.occursIn "Component".toList heritage.text.toList
  | none => false

/-- A class derived from a component, or a function that makes markup. -/
def looksLikeComponent (n : Node) : Bool :=
  if n.kind.isClass then n.extendsComponent else n.containsJsx

def startsUpper (name : String) : Bool :=
  match name.toList with
  | c :: _ => Text.isUpper c
  | [] => false

def addComponentName (names : List String) (n : Node) : List String :=
  match n.declaredName? with
  | none => names
  | some name =>
    if startsUpper name && !names.contains name && n.looksLikeComponent then names ++ [name]
    else names

def componentNames (root : Node) : List String :=
  (root.select isCandidate).foldl addComponentName []

/-- An assignment `name.label = { … }`. -/
def isDeclarationAssignment (name label : String) (n : Node) : Bool :=
  n.kind = .assignmentExpression &&
    match n.tree.childOf? .left .memberExpression, n.tree.childOf? .right .object with
    | some left, some _ =>
      match left.childOf? .object .identifier, left.childOf? .property .propertyIdentifier with
      | some target, some property => target.text = name && property.text = label
      | _, _ => false
    | _, _ => false

/-- The class in whose body a node stands directly. -/
def enclosingClass? (n : Node) : Option Node :=
  match n.parent? with
  | none => none
  | some body =>
    if body.kind = .classBody then body.parent?.filter fun owner => owner.kind.isClass else none

/-- A static field `label = { … }` of the class `name`. -/
def isDeclarationField (name label : String) (n : Node) : Bool :=
  n.kind.isClassField && n.tree.isStatic &&
    match n.tree.fieldName?, n.tree.childOf? .value .object, n.enclosingClass? with
    | some key, some _, some owner => key.text = label && owner.declaredName? = some name
    | _, _, _ => false

def isDeclarationKind (kind : Kind) : Bool :=
  kind = .assignmentExpression || kind.isClassField

/-- The declaration that a component already has under a label. A static field comes before an
assignment. -/
def declaration? (root : Node) (name label : String) : Option Node :=
  let nodes := root.select isDeclarationKind
  (nodes.find? (isDeclarationField name label)).or (nodes.find? (isDeclarationAssignment name label))

/-- The object literal that a declaration assigns. -/
def declaredObject? (n : Node) : Option Node :=
  if n.kind = .assignmentExpression then n.child? .right
  else if n.kind.isClassField then n.child? .value
  else none

/-- What stands between the quotes of a string. -/
def stringValue? (t : Tree) : Option String :=
  if t.kind = .string then some (Tree.unquoted t.text) else none

def isRequireCall (n : Node) : Bool :=
  match n.tree.childOf? .function .identifier with
  | some callee => callee.text = "require"
  | none => false

/-- A statement or call that brings in `moduleName`. -/
def bringsIn (moduleName : String) (n : Node) : Bool :=
  if n.kind = .importStatement then
    (n.tree.child? .source).bind stringValue? = some moduleName
  else
    n.isRequireCall &&
      match n.tree.child? .arguments with
      | none => false
      | some list =>
        match list.namedChildren with
        | [only] => stringValue? only = some moduleName
        | _ => false

def import? (root : Node) (moduleName : String) : Option Node :=
  (root.select fun kind => kind = .importStatement || kind = .callExpression).find?
    (bringsIn moduleName)

/-- The way in which a file brings in modules. -/
def moduleStyle (root : Node) : ModuleStyle :=
  if !(root.select (· = .importStatement)).isEmpty then .imports
  else if (root.select (· = .callExpression)).any isRequireCall then .requires
  else .imports

end PropTyper.Node
