import PropTyper.Component.Analysis
import PropTyper.Reading.Component
import PropTyper.Reading.Evidence

/-! # Reading a component

A component is located, then its declarations, then the three sources are read one after the other,
and last the blocks by which properties are completed.
-/

namespace PropTyper

namespace Completion

/-- The names that a block calls, reads from or takes apart. -/
def evidenceNodes (block : Node) : List Tree :=
  block.preorder.flatMap fun n =>
    match n.kind with
    | .callExpression => (n.tree.childOf? .function .identifier).toList
    | .memberExpression => (n.tree.childOf? .object .identifier).toList
    | .variableDeclarator =>
      if (n.tree.childOf? .name .objectPattern).isSome then
        (n.tree.childOf? .value .identifier).toList
      else []
    | _ => []

def membersNodes (block : Node) (binding : String) : List Tree :=
  let accesses := (block.select (· = .memberExpression)).filter (Node.isMemberOf binding)
  let patterns := (block.select (· = .variableDeclarator)).filterMap (Node.patternOf? binding)
  accesses.flatMap Property.accessNodes ++
    patterns.flatMap fun p => Property.patternNodes p.tree

def lookupNodes (component : Node) (key : Key) : List Tree :=
  let block := blockNode component key.block
  evidenceNodes block ++
    if block.calls key.binding then [] else membersNodes block key.binding

def read (component : Node) (properties : List Property) (except : List String) :
    Reading Completion :=
  let completion := complete component properties except
  let looked := (final component properties except).resolved.flatMap (lookupNodes component)
  ⟨Act.reads looked ++ (completion.resolved.map fun r => Act.note (.completionDone r)).toList,
    completion⟩

end Completion

/-- Reads everything about a component, whose declarations are known. -/
def Inference.read (component : Node) (propTypes defaultProps : Option Node) : Reading Inference :=
  let i := Inference.of component propTypes defaultProps
  let done : List Act :=
    if i.properties.isEmpty then []
    else
      [.note (.propertiesInferred i.declared.length i.used.length i.defaults.length
        i.properties.length)]
  ⟨(Property.readUsage component).acts ++
      (Property.readDefaults (Node.declaredTree? defaultProps)).acts ++
      (Property.readDeclaration (Node.declaredTree? propTypes)).acts ++
      (Completion.read component i.merged (i.declared.map (·.name))).acts ++ done, i⟩

namespace Analysis

def acts (root : Node) (name : String) (label : Option String) : List Act :=
  let component := root.readComponent name
  component.acts ++
    match component.value with
    | none => []
    | some node =>
      let propTypes := root.readDeclaration name (typesLabel label)
      let defaultProps := root.readDeclaration name Declaration.defaultPropsLabel
      propTypes.acts ++ defaultProps.acts ++
        (Inference.read node propTypes.value defaultProps.value).acts

def readLocated (root : Node) (name : String) (label : Option String) :
    Reading (Option Analysis) :=
  ⟨acts root name label, locate? root name label⟩

def read (d : Document) (name : String) (label : Option String) :
    Reading (Except InferenceFailure Analysis) :=
  ⟨acts d.node name label, Analysis.of d name label⟩

/-- As `read`, for a name that may have a half. No definition goes by such a name, but all are compared
with it. -/
def readLoose (d : Document) (name : LooseText) (label : Option String) :
    Reading (Except InferenceFailure Analysis) :=
  match name.toString? with
  | some name => read d name label
  | none =>
    .ofNodes ((d.node.select Node.isCandidate).flatMap Node.nameNodes) (.error (.notFound name d.path))

end Analysis

namespace Journal

/-- Faults of the file come up as soon as it is parsed. -/
def ofDocument (d : Document) : List Event :=
  let count := d.node.faults.length
  if count = 0 then [] else [.parseErrors d.path count]

/-- What the analysis of a component leaves in the journal, whether it succeeds or not. -/
def ofAnalysis (d : Document) (name : String) (label : Option String) : List Event :=
  ofDocument d ++ (Analysis.read d name label).events

end Journal

end PropTyper
