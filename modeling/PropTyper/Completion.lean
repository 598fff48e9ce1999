import PropTyper.Evidence.Usage

/-! # Completing properties by the uses of their bindings

A property that is held by a local name, and of which no more is known than `any` or `shape`, is
completed by what its block does with that name: a call makes it a function; members that are read,
and patterns that take it apart, become its members.

Each name is looked up once for each block. The first property that comes up under a name and block
gets the result. When a property gets new members its old ones leave the list, but those that still
wait for their turn keep it and may use up a name.
-/

namespace PropTyper

namespace Node

def isCallOf (binding : String) (n : Node) : Bool :=
  match n.tree.childOf? .function .identifier with
  | some callee => callee.text = binding
  | none => false

def calls (block : Node) (binding : String) : Bool :=
  (block.select (· = .callExpression)).any (isCallOf binding)

def isMemberOf (binding : String) (n : Node) : Bool :=
  match n.tree.childOf? .object .identifier with
  | some object => object.text = binding
  | none => false

/-- The pattern by which a declaration takes the name apart. -/
def patternOf? (binding : String) (n : Node) : Option Node :=
  match n.child? .name, n.tree.childOf? .value .identifier with
  | some target, some value =>
    if target.kind = .objectPattern && value.text = binding then some target else none
  | _, _ => none

/-- What the block reads from the name by accesses, then what it takes out by patterns. -/
def membersOf (block : Node) (binding : String) : List Property :=
  let accesses := (block.select (· = .memberExpression)).filter (isMemberOf binding)
  let patterns := (block.select (· = .variableDeclarator)).filterMap (patternOf? binding)
  accesses.filterMap Property.ofAccess? ++
    patterns.flatMap fun p => Property.ofPattern p.scope? p.tree

end Node

namespace Completion

/-- A name together with the block that introduces it; without one, the whole component. -/
structure Key where
  binding : String
  block : Option Scope
deriving DecidableEq, Repr, Inhabited

structure Waiting where
  property : Property
  /-- The way to it through the list: its number there, then the number of each member. Nothing if
  it is no longer in the list. -/
  place : Option (List Nat)
deriving Repr, Inhabited

structure State where
  properties : List Property
  waiting : List Waiting
  resolved : List Key
deriving Repr, Inhabited

def isOpen (p : Property) : Bool :=
  Filled p.binding && p.kind.isImprecise

mutual

/-- A property and everything below it, each with its place. -/
def placed (place : Option (List Nat)) : Property → List Waiting
  | ⟨name, binding, kind, required, children, literal, defaultText, scope⟩ =>
    ⟨⟨name, binding, kind, required, children, literal, defaultText, scope⟩, place⟩ ::
      placedFrom place 0 children

def placedFrom (place : Option (List Nat)) (i : Nat) : List Property → List Waiting
  | [] => []
  | p :: rest => placed (place.map (· ++ [i])) p ++ placedFrom place (i + 1) rest

end

def modifyAt (change : Property → Property) : List Nat → List Property → List Property
  | [], properties => properties
  | [i], properties => properties.modify i change
  | i :: rest, properties =>
    properties.modify i fun p => { p with children := modifyAt change rest p.children }

/-- Takes the place from what waits below one. -/
def detach (place : List Nat) (w : Waiting) : Waiting :=
  match w.place with
  | some below =>
    if place.isPrefixOf below && place.length < below.length then { w with place := none } else w
  | none => w

/-- The blocks of a component that a name can be introduced by. -/
def blocks (component : Node) : List Node :=
  component.select Kind.isScope

def blockOf (component : Node) (p : Property) : Option Scope :=
  p.scope.filter fun scope => (blocks component).any fun b => b.span.toScope = scope

def keyOf (component : Node) (p : Property) : Key :=
  ⟨p.binding.getD "", blockOf component p⟩

/-- The node of a block; of several over the same bytes, the innermost. -/
def blockNode (component : Node) : Option Scope → Node
  | none => component
  | some scope =>
    (((blocks component).filter fun b => b.span.toScope = scope).getLast?).getD component

/-- Puts a changed property in its place, if it has one; its old members leave the list. -/
def replace (s : State) (w : Waiting) (p : Property) : State :=
  match w.place with
  | none => s
  | some place =>
    { s with
      properties := modifyAt (fun _ => p) place s.properties
      waiting := s.waiting.map (detach place) }

/-- Completes one property by what its block does with its name. -/
def resolve (component : Node) (s : State) (w : Waiting) : State :=
  let key := keyOf component w.property
  let block := blockNode component key.block
  let s := { s with resolved := s.resolved ++ [key] }
  if block.calls key.binding then replace s w { w.property with kind := .func, children := [] }
  else
    let found := block.membersOf key.binding
    if found.isEmpty then s
    else
      let members := Property.mergeLists .peer w.property.children found
      let next := (placedFrom w.place 0 members).filter fun c =>
        isOpen c.property && !s.resolved.contains (keyOf component c.property)
      let s := replace s w { w.property with kind := .shape, children := members }
      { s with waiting := s.waiting ++ next }

/-- Goes through what waits, at most `budget` names. -/
def run (component : Node) (budget : Nat) (s : State) : State :=
  match s with
  | ⟨_, [], _⟩ => s
  | ⟨properties, w :: rest, resolved⟩ =>
    if resolved.contains (keyOf component w.property) then
      run component budget ⟨properties, rest, resolved⟩
    else
      match budget with
      | 0 => s
      | budget + 1 => run component budget (resolve component ⟨properties, rest, resolved⟩ w)
termination_by (budget, s.waiting.length)

/-- What waits at the start: the open properties, except below the names that are to be left
alone. -/
def initialWaiting (properties : List Property) (except : List String) : List Waiting :=
  (placedFrom (some []) 0 properties).filter fun w =>
    isOpen w.property &&
      match w.place with
      | some (i :: _) => (properties[i]?.map fun top => !except.contains top.name).getD false
      | _ => false

/-- The names that can come up: those of the properties, and the identifiers of the file. -/
def bindings (component : Node) (properties : List Property) : List String :=
  (properties.flatMap Property.preorder).filterMap (·.binding) ++
    (component.root.select fun kind =>
      kind = .identifier || kind = .shorthandPropertyIdentifierPattern).map (·.text)

/-- No more names can come up than there are pairs of a name and a block. -/
def budget (component : Node) (properties : List Property) : Nat :=
  (bindings component properties).length * ((blocks component).length + 1)

end Completion

structure Completion where
  properties : List Property
  /-- Nothing if no property was open. -/
  resolved : Option (List String)
deriving Repr, Inhabited

namespace Completion

/-- Where the work on a list ends. -/
def final (component : Node) (properties : List Property) (except : List String) : State :=
  run component (budget component properties) ⟨properties, initialWaiting properties except, []⟩

/-- Completes a list by the uses in a component, except for the names to be left alone. A list with
nothing to complete stays as it is. -/
def complete (component : Node) (properties : List Property) (except : List String) : Completion :=
  if (initialWaiting properties except).isEmpty then ⟨properties, none⟩
  else
    let s := final component properties except
    ⟨s.properties.map Property.normalize,
      some ((s.resolved.map (·.binding)).mergeSort fun a b => !decide (b < a))⟩

end Completion

end PropTyper
