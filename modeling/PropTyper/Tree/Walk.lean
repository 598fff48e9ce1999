import PropTyper.Number.Total
import PropTyper.Tree.Node

/-! # Walking a tree

`preorder` is the order that all searches go by. The walks themselves keep the nodes still to be
visited on a stack, the next one first, and so need no room that grows with the depth of the tree.
-/

namespace PropTyper

namespace Tree

def size (t : Tree) : Nat :=
  1 + total (t.children.map size)
termination_by sizeOf t
decreasing_by exact sizeOf_child_lt ‹_›

end Tree

namespace Node

/-- A node, then everything below each of its children in turn. -/
def preorder (n : Node) : List Node :=
  n :: n.children.attach.flatMap fun c => preorder c.1
termination_by sizeOf n.tree
decreasing_by exact sizeOf_child_lt c.2

theorem preorder_eq (n : Node) : n.preorder = n :: n.children.flatMap preorder := by
  rw [preorder]
  simp

/-- The number of nodes that a stack stands for. -/
def pending (stack : List Node) : Nat :=
  total (stack.map (·.tree.size))

theorem pending_append (a b : List Node) : pending (a ++ b) = pending a + pending b := by
  simp [pending]

theorem pending_children (n : Node) : pending n.children + 1 = n.tree.size := by
  have h : n.children.map (·.tree.size) = n.tree.children.map Tree.size := by
    rw [← map_tree_children, List.map_map]
    rfl
  rw [pending, h, Tree.size, Nat.add_comm]

theorem pending_filter_le (keep : Node → Bool) (stack : List Node) :
    pending (stack.filter keep) ≤ pending stack := by
  induction stack with
  | nil => simp [pending]
  | cons n rest ih =>
    simp only [pending, List.filter_cons, List.map_cons, total_cons] at *
    split
    · simp only [List.map_cons, total_cons]
      omega
    · omega

theorem pending_reverse (stack : List Node) : pending stack.reverse = pending stack := by
  simp [pending, List.map_reverse]

/-- Hands each node whose kind has a handler to that handler, together with what the handlers
before it have gathered. -/
def traverseFrom {α : Type} (handler : Kind → Option (Node → α → α)) :
    List Node → α → α
  | [], acc => acc
  | n :: rest, acc =>
    let acc :=
      match handler n.kind with
      | some visit => visit n acc
      | none => acc
    traverseFrom handler (n.children ++ rest) acc
termination_by stack => pending stack
decreasing_by
  rw [pending_append]
  have := pending_children n
  simp only [pending, List.map_cons, total_cons]
  simp only [pending] at this
  omega

def traverse {α : Type} (n : Node) (handler : Kind → Option (Node → α → α)) (acc : α) : α :=
  traverseFrom handler [n] acc

def selectFrom (wanted : Kind → Bool) : List Node → List Node
  | [] => []
  | n :: rest =>
    let later := selectFrom wanted (n.children ++ rest)
    if wanted n.kind then n :: later else later
termination_by stack => pending stack
decreasing_by
  rw [pending_append]
  have := pending_children n
  simp only [pending, List.map_cons, total_cons]
  simp only [pending] at this
  omega

/-- The nodes of the kinds asked for, in pre-order, the start included. -/
def select (n : Node) (wanted : Kind → Bool) : List Node :=
  selectFrom wanted [n]

/-- A place where the file is not in the language. -/
def isFault (n : Node) : Bool :=
  n.kind = .error || n.tree.missing

/-- Worth a look when faults are searched for. -/
def mayHoldFault (n : Node) : Bool :=
  n.tree.hasError || n.tree.missing

def faultsFrom : List Node → List Node
  | [] => []
  | n :: rest =>
    let later := faultsFrom ((n.children.filter mayHoldFault).reverse ++ rest)
    if n.isFault then n :: later else later
termination_by stack => pending stack
decreasing_by
  rw [pending_append, pending_reverse]
  have hle := pending_filter_le mayHoldFault n.children
  have := pending_children n
  simp only [pending, List.map_cons, total_cons] at *
  omega

/-- The faults below a node, itself included, those of the last child first. Subtrees without the
error mark are passed over. -/
def faults (n : Node) : List Node :=
  if n.tree.hasError then faultsFrom [n] else []

end Node

end PropTyper
