import PropTyper.Tree.Basic

/-! # Positions in a tree

A `Node` is a subtree together with the way that leads down to it, so that it can be asked for its
parent, its neighbours and the blocks around it.
-/

namespace PropTyper

/-- One step down: into the child of `parent` at `index`. -/
structure Step where
  parent : Tree
  index : Nat
deriving Repr, Inhabited

structure Node where
  tree : Tree
  /-- The steps from the root, the last one first. -/
  trail : List Step := []
deriving Repr, Inhabited

namespace Node

def kind (n : Node) : Kind := n.tree.kind

def span (n : Node) : Span := n.tree.span

def text (n : Node) : String := n.tree.text

def parent? (n : Node) : Option Node :=
  match n.trail with
  | [] => none
  | step :: rest => some ⟨step.parent, rest⟩

def children (n : Node) : List Node :=
  n.tree.children.mapIdx fun i c => ⟨c, ⟨n.tree, i⟩ :: n.trail⟩

def namedChildren (n : Node) : List Node :=
  n.children.filter (·.tree.named)

def child? (n : Node) (field : Field) : Option Node :=
  n.children.find? fun c => c.tree.fields.contains field

/-- A parameter as its pattern and its default value. -/
def parameterParts (n : Node) : Option Node × Option Node :=
  match n.kind with
  | .requiredParameter | .optionalParameter => (n.child? .pattern, n.child? .value)
  | .assignmentPattern => (n.child? .left, n.child? .right)
  | _ => (some n, none)

/-- The pattern of a function's first parameter. -/
def firstParameter? (n : Node) : Option Node :=
  match n.child? .parameter with
  | some single => some single
  | none =>
    match n.child? .parameters with
    | none => none
    | some list =>
      match list.namedChildren.find? fun c => c.kind ≠ .comment with
      | some first => first.parameterParts.1
      | none => none

def nextSibling? (n : Node) : Option Node :=
  match n.trail with
  | [] => none
  | step :: rest =>
    step.parent.children[step.index + 1]?.map fun t => ⟨t, ⟨step.parent, step.index + 1⟩ :: rest⟩

/-- The nodes that a trail leads through, the innermost first. -/
def ofTrail : List Step → List Node
  | [] => []
  | step :: rest => ⟨step.parent, rest⟩ :: ofTrail rest

/-- The proper ancestors, the parent first. -/
def ancestors (n : Node) : List Node :=
  ofTrail n.trail

def root (n : Node) : Node :=
  n.ancestors.getLastD n

def sameAs (a b : Node) : Bool :=
  a.tree.sameAs b.tree

/-- The block or function in which a name declared at this node can be seen. -/
def enclosingScope? (n : Node) : Option Node :=
  n.ancestors.find? fun a => a.kind.isScope

def scope? (n : Node) : Option Scope :=
  n.enclosingScope?.map (·.span.toScope)

/-- The ancestor, or the node itself, that stands directly under the program. -/
def topLevel (n : Node) : Node :=
  climb n.tree n.trail
where
  climb (t : Tree) : List Step → Node
    | [] => ⟨t, []⟩
    | step :: rest =>
      if step.parent.kind = .program then ⟨t, step :: rest⟩ else climb step.parent rest

/-- The statements of a program, without comments and the line that names its interpreter. -/
def statements (n : Node) : List Node :=
  n.namedChildren.filter fun c => c.kind ≠ .comment && c.kind ≠ .other "hash_bang_line"

theorem map_tree_children (n : Node) : n.children.map (·.tree) = n.tree.children := by
  unfold children
  apply List.ext_getElem?
  intro i
  simp only [List.getElem?_map, List.getElem?_mapIdx, Option.map_map]
  cases n.tree.children[i]? <;> rfl

theorem tree_mem_of_mem_children {n c : Node} (h : c ∈ n.children) : c.tree ∈ n.tree.children := by
  rw [← map_tree_children]
  exact List.mem_map_of_mem h

theorem sizeOf_child_lt {n c : Node} (h : c ∈ n.children) : sizeOf c.tree < sizeOf n.tree :=
  Tree.sizeOf_child_lt (tree_mem_of_mem_children h)

end Node

end PropTyper
