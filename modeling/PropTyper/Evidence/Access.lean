import PropTyper.Evidence.Pattern
import PropTyper.Text.Blank
import PropTyper.Tree.Node

/-! # Properties read by a member access

From an access such as `props.user.name` the chain is followed outwards. What stands around its end
tells more: a call makes the last name a function, a declaration binds it or takes it apart.
-/

namespace PropTyper

/-- The text of a node without white space, so that `this . props` counts as `this.props`. -/
def Tree.compactText (t : Tree) : String :=
  Text.withoutBlanks t.text

/-- The name that a member access asks for, unless it is computed. -/
def Tree.memberName? (t : Tree) : Option String :=
  ((t.child? .property).filter fun p => p.kind.isMemberName).map (·.text)

/-- The child in a role covers the same bytes with the same type. -/
def Tree.fieldIs (t : Tree) (field : Field) (child : Tree) : Bool :=
  match t.child? field with
  | some c => c.sameAs child
  | none => false

namespace Property

/-- The end of a chain of accesses: `name` is read at `t`, which is reached by `trail`. -/
def ofChainEnd (name : String) (t : Tree) : List Step → Property
  | [] => { name }
  | step :: rest =>
    let parent := step.parent
    if parent.kind = .callExpression && parent.fieldIs .function t then
      { name, kind := .func }
    else if parent.kind = .variableDeclarator && parent.fieldIs .value t then
      match parent.child? .name with
      | none => { name }
      | some target =>
        if target.kind = .identifier then
          { name, binding := some target.text, scope := Node.scope? ⟨parent, rest⟩ }
        else if target.kind = .objectPattern then
          { name, kind := .shape, children := ofPattern (Node.scope? ⟨parent, rest⟩) target }
        else { name }
    else { name }

/-- The chain from `name`, which is read at `t`, outwards along `trail`. -/
def ofChain (name : String) (t : Tree) : List Step → Property
  | [] => ofChainEnd name t []
  | step :: rest =>
    if step.parent.kind = .memberExpression && step.parent.fieldIs .object t then
      match step.parent.memberName? with
      | some member => { name, kind := .shape, children := [ofChain member step.parent rest] }
      | none => ofChainEnd name t (step :: rest)
    else ofChainEnd name t (step :: rest)

def ofAccess? (n : Node) : Option Property :=
  n.tree.memberName?.map fun name => ofChain name n.tree n.trail

end Property

end PropTyper
