import PropTyper.Completion
import PropTyper.Component.Locate
import PropTyper.Evidence.Declared
import PropTyper.Text.Loose

/-! # What is known about a component

Three sources speak about the properties of a component: the declaration that it has, the uses in
its code, and its declared default values. They are merged, completed and put in order.
-/

namespace PropTyper

structure Document where
  path : String
  language : String
  text : String
  root : Tree
deriving Repr, Inhabited

def Document.node (d : Document) : Node :=
  ⟨d.root, []⟩

/-- Why nothing can be said about a component. -/
inductive InferenceFailure where
  | notNamed (file : String)
  | notFound (name : LooseText) (file : String)
  | noProperties (file : String) (name : Option String)
deriving DecidableEq, Repr, Inhabited

/-- All steps from the three sources to the final list. -/
structure Inference where
  used : List Property
  defaults : List Property
  declared : List Property
  merged : List Property
  completion : Completion
  properties : List Property
deriving Repr, Inhabited

/-- The object that a declaration gives, where there is a declaration. -/
def Node.declaredTree? (declaration : Option Node) : Option Tree :=
  (declaration.bind Node.declaredObject?).map (·.tree)

/-- Infers the properties of a component from its code and from its two declarations, where it has
them. -/
def Inference.of (component : Node) (propTypes defaultProps : Option Node) : Inference :=
  let used := Property.ofUsage component
  let defaults := Property.ofDefaults (Node.declaredTree? defaultProps)
  let declared := Property.ofDeclaration (Node.declaredTree? propTypes)
  let merged := Property.combine declared used defaults
  let completion := Completion.complete component merged (declared.map (·.name))
  { used, defaults, declared, merged, completion
    properties := Property.finalize completion.properties }

/-- The final list; that nothing is known about a component is a failure. -/
def Inference.result (i : Inference) (file : String) : Except InferenceFailure (List Property) :=
  if i.properties.isEmpty then .error (.noProperties file none) else .ok i.properties

structure Analysis where
  name : String
  component : Node
  propTypes : Option Node
  defaultProps : Option Node
  inference : Inference
deriving Repr, Inhabited

namespace Analysis

def properties (a : Analysis) : List Property :=
  a.inference.properties

/-- The label that declarations of types go by, unless another one is asked for. -/
def typesLabel (label : Option String) : String :=
  if Filled label then label.getD Declaration.propTypesLabel else Declaration.propTypesLabel

/-- Locates a component and what belongs to it, and infers its properties, of which there may be
none. -/
def locate? (root : Node) (name : String) (label : Option String) : Option Analysis :=
  (root.component? name).map fun component =>
    let propTypes := root.declaration? name (typesLabel label)
    let defaultProps := root.declaration? name Declaration.defaultPropsLabel
    { name, component, propTypes, defaultProps
      inference := Inference.of component propTypes defaultProps }

def of (d : Document) (name : String) (label : Option String) : Except InferenceFailure Analysis :=
  match locate? d.node name label with
  | none => .error (.notFound name d.path)
  | some a =>
    match a.inference.result d.path with
    | .error _ => .error (.noProperties d.path (some name))
    | .ok _ => .ok a

end Analysis

end PropTyper
