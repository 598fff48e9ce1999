import PropTyper.Component.Locate
import PropTyper.Reading.Basic

/-! # Reading where components and declarations are

Definitions are compared by their names until one fits, so those after it are not read. Whether a
class is a component shows in what it is derived from, which is read only where its name asks for it.
-/

namespace PropTyper.Node

/-- The nodes of a list up to the first that is looked for, itself included. -/
def upTo (found : Node → Bool) : List Node → List Node
  | [] => []
  | n :: rest => if found n then [n] else n :: upTo found rest

def nameNodes (n : Node) : List Tree :=
  if !n.tree.named then []
  else
    match n.kind with
    | .classDeclaration | .functionDeclaration => (n.tree.child? .name).toList
    | .classExpression | .functionExpression | .functionKeyword | .arrowFunction =>
      match n.parent?.filter fun p => p.kind = .variableDeclarator with
      | none => []
      | some parent =>
        match parent.tree.child? .value, parent.tree.childOf? .name .identifier with
        | some value, some name => if value.span.start = n.span.start then [name] else []
        | _, _ => []
    | _ => []

def readComponent (root : Node) (name : String) : Reading (Option Node) :=
  let seen := upTo (fun n => n.declaredName? = some name) (root.select isCandidate)
  let component := root.component? name
  let located := component.toList.map fun n =>
    Act.note (.componentLocated name n.kind.name n.span.start)
  ⟨Act.reads (seen.flatMap nameNodes) ++ located, component⟩

/-- The node that shows what a class is derived from. -/
def heritageNodes (n : Node) : List Tree :=
  (n.tree.children.find? fun c => c.kind = .classHeritage).toList

def componentNameNodes (names : List String) (n : Node) : List Tree :=
  n.nameNodes ++
    match n.declaredName? with
    | none => []
    | some name =>
      if startsUpper name && !names.contains name && n.kind.isClass then n.heritageNodes else []

def readComponentNames (root : Node) : Reading (List String) :=
  (root.select isCandidate).foldl
    (fun r n =>
      ⟨r.acts ++ Act.reads (componentNameNodes r.value n), addComponentName r.value n⟩)
    (.known [])

/-- The nodes of an assignment that are compared with `name`. The label is read only after it. -/
def assignmentNodes (name : String) (n : Node) : List Tree :=
  match n.tree.childOf? .left .memberExpression, n.tree.childOf? .right .object with
  | some left, some _ =>
    match left.childOf? .object .identifier with
    | some target =>
      target ::
        if target.text = name then (left.childOf? .property .propertyIdentifier).toList else []
    | none => []
  | _, _ => []

/-- The nodes of a static field that are compared with `label`. The name of the class is read only
after it. -/
def fieldNodes (label : String) (n : Node) : List Tree :=
  if n.tree.isStatic then
    match n.tree.fieldName? with
    | some key =>
      key ::
        match n.tree.childOf? .value .object, n.enclosingClass? with
        | some _, some owner => if key.text = label then owner.nameNodes else []
        | _, _ => []
    | none => []
  else []

/-- The nodes that are read to find a declaration. Of fields and of assignments, none is read after
one that fits. -/
def declarationNodes (name label : String) (assigned fielded : Bool) : List Node → List Tree
  | [] => []
  | n :: rest =>
    if n.kind = .assignmentExpression then
      if assigned then declarationNodes name label assigned fielded rest
      else
        assignmentNodes name n ++
          declarationNodes name label (isDeclarationAssignment name label n) fielded rest
    else if fielded then declarationNodes name label assigned fielded rest
    else
      fieldNodes label n ++
        declarationNodes name label assigned (isDeclarationField name label n) rest

def readDeclaration (root : Node) (name label : String) : Reading (Option Node) :=
  let nodes := declarationNodes name label false false (root.select isDeclarationKind)
  let declaration := root.declaration? name label
  ⟨Act.reads nodes ++ [.note (.declarationLocated name label declaration.isSome)], declaration⟩

def stringNodes (t : Tree) : List Tree :=
  if t.kind = .string then [t] else []

def calleeNodes (n : Node) : List Tree :=
  (n.tree.childOf? .function .identifier).toList

/-- The nodes that show whether a statement or call brings in a module. -/
def bringsInNodes (n : Node) : List Tree :=
  if n.kind = .importStatement then (n.tree.child? .source).toList.flatMap stringNodes
  else
    n.calleeNodes ++
      if n.isRequireCall then
        match n.tree.child? .arguments with
        | none => []
        | some list =>
          match list.namedChildren with
          | [only] => stringNodes only
          | _ => []
      else []

def readImport (root : Node) (moduleName : String) : Reading (Option Node) :=
  let seen := upTo (bringsIn moduleName)
    (root.select fun kind => kind = .importStatement || kind = .callExpression)
  .ofNodes (seen.flatMap bringsInNodes) (root.import? moduleName)

def readModuleStyle (root : Node) : Reading ModuleStyle :=
  let seen :=
    if (root.select (· = .importStatement)).isEmpty then
      upTo isRequireCall (root.select (· = .callExpression))
    else []
  .ofNodes (seen.flatMap calleeNodes) root.moduleStyle

end PropTyper.Node
