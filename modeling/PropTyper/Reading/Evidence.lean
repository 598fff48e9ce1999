import PropTyper.Evidence.Declared
import PropTyper.Evidence.Usage
import PropTyper.Reading.Basic

/-! # Reading evidence

The texts that patterns, accesses, declarations and uses are read from, in the order in which they
are asked for.
-/

namespace PropTyper

namespace Tree

theorem sizeOf_child?_lt {t c : Tree} {field : Field} (h : t.child? field = some c) :
    sizeOf c < sizeOf t :=
  sizeOf_child_lt (mem_children_of_child? h)

theorem sizeOf_namedChild_lt {t c : Tree} (h : c ∈ t.namedChildren) : sizeOf c < sizeOf t :=
  sizeOf_child_lt (mem_children_of_mem_namedChildren h)

def readText (t : Tree) : Reading String :=
  .ofNodes [t] t.text

def readCompactText (t : Tree) : Reading String :=
  .ofNodes [t] t.compactText

def keyNodes (key : Tree) : List Tree :=
  if key.kind = .string || key.kind.isPlainKey then [key] else []

def readKeyName (key : Tree) : Reading (Option String) :=
  .ofNodes key.keyNodes key.keyName?

def pairKeyNodes (pair : Tree) : List Tree :=
  (pair.child? .key).toList.flatMap keyNodes

def memberNodes (t : Tree) : List Tree :=
  ((t.child? .property).filter fun p => p.kind.isMemberName).toList

def readMemberName (t : Tree) : Reading (Option String) :=
  .ofNodes t.memberNodes t.memberName?

def defaultNodes (value : Tree) : List Tree :=
  if value.valueKind = .any then [] else [value]

end Tree

namespace Property

def readWithDefault (name : String) (value : Tree) (binding : Option String)
    (scope : Option Scope) : Reading Property :=
  .ofNodes value.defaultNodes (withDefault name value binding scope)

/-! ## Patterns -/

mutual

def patternNodes (pattern : Tree) : List Tree :=
  pattern.namedChildren.attach.flatMap fun ⟨entry, _⟩ => patternEntryNodes entry
termination_by (sizeOf pattern, 0)
decreasing_by exact Prod.Lex.left _ _ (Tree.sizeOf_namedChild_lt ‹_›)

def patternEntryNodes (entry : Tree) : List Tree :=
  match entry.kind with
  | .shorthandPropertyIdentifierPattern => [entry]
  | .objectAssignmentPattern =>
    match entry.childOf? .left .shorthandPropertyIdentifierPattern, entry.child? .right with
    | some left, some right => left :: right.defaultNodes
    | _, _ => []
  | .pairPattern =>
    entry.pairKeyNodes ++
      match (entry.child? .key).bind (·.keyName?), _h : entry.child? .value with
      | some _, some value => patternValueNodes value
      | _, _ => []
  | _ => []
termination_by (sizeOf entry, 0)
decreasing_by exact Prod.Lex.left _ _ (Tree.sizeOf_child?_lt _h)

def patternValueNodes (value : Tree) : List Tree :=
  match value.kind with
  | .identifier => [value]
  | .objectPattern => patternNodes value
  | .assignmentPattern =>
    match _h : value.child? .left, value.child? .right with
    | some left, some right =>
      match left.kind with
      | .identifier => left :: right.defaultNodes
      | .objectPattern =>
        patternNodes left ++ if right.valueKind = .object then [right] else []
      | _ => []
    | _, _ => []
  | _ => []
termination_by (sizeOf value, 1)
decreasing_by
  · exact Prod.Lex.right _ Nat.zero_lt_one
  · exact Prod.Lex.left _ _ (Tree.sizeOf_child?_lt _h)

end

def readPattern (scope : Option Scope) (pattern : Tree) : Reading (List Property) :=
  .ofNodes (patternNodes pattern) (ofPattern scope pattern)

/-- What is done for the pairs of an object: each key comes before what its value, under the name of
the key, asks for. -/
def pairActs (object : Tree) (valueActs : String → Tree → List Act) : List Act :=
  (object.namedChildren.filter fun entry => entry.kind = .pair).flatMap fun entry =>
    Act.reads entry.pairKeyNodes ++
      match ((entry.child? .key).bind (·.keyName?)).filter (· ≠ ""), entry.child? .value with
      | some name, some value => valueActs name value
      | _, _ => []

def objectActs (object : Option Tree) (valueActs : String → Tree → List Act) : List Act :=
  (object.filter (·.kind = .object)).toList.flatMap fun t => pairActs t valueActs

def readDefaults (object : Option Tree) : Reading (List Property) :=
  ⟨objectActs object fun _ value => Act.reads value.defaultNodes, ofDefaults object⟩

/-! ## Accesses -/

def chainEndNodes (t : Tree) : List Step → List Tree
  | [] => []
  | step :: _ =>
    let parent := step.parent
    if parent.kind = .variableDeclarator && parent.fieldIs .value t then
      (parent.child? .name).toList.flatMap fun target =>
        if target.kind = .identifier then [target]
        else if target.kind = .objectPattern then patternNodes target
        else []
    else []

def chainNodes (t : Tree) : List Step → List Tree
  | [] => []
  | step :: rest =>
    if step.parent.kind = .memberExpression && step.parent.fieldIs .object t then
      match step.parent.memberName? with
      | some _ => step.parent.memberNodes ++ chainNodes step.parent rest
      | none => []
    else chainEndNodes t (step :: rest)

def accessNodes (n : Node) : List Tree :=
  n.tree.memberNodes ++ if n.tree.memberName?.isSome then chainNodes n.tree n.trail else []

def readAccess (n : Node) : Reading (Option Property) :=
  .ofNodes (accessNodes n) (ofAccess? n)

/-! ## Declarations -/

def calledNodes (call : Tree) : List Tree :=
  (call.child? .function).toList.flatMap fun callee =>
    match callee.kind with
    | .memberExpression => (callee.child? .property).toList
    | .identifier => [callee]
    | _ => []

/-- What is done for a validator. One that lies too deep is noted and not looked at. -/
def validatorActs (depth : Int) (name : String) (t : Tree) : List Act :=
  if maxDepth < depth then [.note (.typeTooDeep name depth)]
  else
    match t.kind with
    | .callExpression =>
      Act.reads (calledNodes t) ++
        match t.calledKind?, _h : t.firstArgument? with
        | some kind, some argument =>
          match argument.kind with
          | .object =>
            argument.namedChildren.attach.flatMap fun ⟨entry, _⟩ =>
              if entry.kind = .pair then
                Act.reads entry.pairKeyNodes ++
                  match ((entry.child? .key).bind (·.keyName?)).filter (· ≠ ""),
                    _hv : entry.child? .value with
                  | some member, some value => validatorActs (depth + 1) member value
                  | _, _ => []
              else []
          | .array =>
            if kind = .oneOf then [.read argument]
            else argument.namedChildren.attach.flatMap fun ⟨e, _⟩ => validatorActs (depth + 1) "" e
          | _ =>
            if kind = .instanceOf then [.read argument]
            else
              validatorActs (depth + 1) "" argument ++
                if (ofValidator? (depth + 1) "" argument).isNone then [.read argument] else []
        | _, _ => []
    | .memberExpression =>
      Act.reads (t.child? .property).toList ++
        if t.isRequiredMark then
          match _h : t.child? .object with
          | some target => validatorActs (depth + 1) name target
          | none => []
        else []
    | .identifier | .functionExpression | .functionKeyword | .arrowFunction => [.read t]
    | _ => []
termination_by sizeOf t
decreasing_by
  · exact Nat.lt_trans (Tree.sizeOf_child?_lt _hv)
      (Nat.lt_trans (Tree.sizeOf_namedChild_lt ‹_›) (Tree.sizeOf_firstArgument_lt _h))
  · exact Nat.lt_trans (Tree.sizeOf_namedChild_lt ‹_›) (Tree.sizeOf_firstArgument_lt _h)
  · exact Tree.sizeOf_firstArgument_lt _h
  · exact Tree.sizeOf_child?_lt _h

def readValidator (depth : Int) (name : String) (t : Tree) : Reading (Option Property) :=
  ⟨validatorActs depth name t, ofValidator? depth name t⟩

def readDeclaration (object : Option Tree) : Reading (List Property) :=
  ⟨objectActs object (validatorActs 1), ofDeclaration object⟩

/-! ## Usage -/

def identityNodes (identity : String) (n : Node) : List Tree :=
  match n.kind with
  | .memberExpression =>
    (n.tree.child? .object).toList ++
      if Text.withoutBlanks (n.tree.childText .object) = identity then accessNodes n else []
  | .variableDeclarator =>
    match n.tree.childOf? .name .objectPattern, n.tree.child? .value with
    | some target, some value =>
      value :: if value.compactText = identity then patternNodes target else []
    | _, _ => []
  | _ => []

def readFromNodes (n : Node) (identity : String) : List Tree :=
  n.preorder.flatMap (identityNodes identity)

def functionNodes (n : Node) : List Tree :=
  n.firstParameter?.toList.flatMap fun parameter =>
    match parameter.kind with
    | .identifier => parameter.tree :: readFromNodes n parameter.text
    | .objectPattern => patternNodes parameter.tree
    | _ => []

/-- The names of methods up to that of the constructor. -/
def constructorNodes : List Tree → List Tree
  | [] => []
  | method :: rest =>
    (method.child? .name).toList ++
      if method.childText .name = "constructor" then [] else constructorNodes rest

def classNodes (n : Node) : List Tree :=
  let methods := (n.tree.child? .body).toList.flatMap fun body =>
    body.namedChildren.filter fun m => m.kind = .methodDefinition
  constructorNodes methods ++ (constructor? n).toList.flatMap functionNodes ++
    readFromNodes n classIdentity

def usageNodes (component : Node) : List Tree :=
  if component.kind.isClass then classNodes component else functionNodes component

def readUsage (component : Node) : Reading (List Property) :=
  let used := ofUsage component
  ⟨Act.reads (usageNodes component) ++ [.note (.usageInferred (used.map (·.name)))], used⟩

end Property

end PropTyper
