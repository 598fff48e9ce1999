import PropTyper.Property.Basic

/-! # Merging properties

Two lists of properties are merged by name. `MergeMode` says whose kind wins where both have a
property; `combine` joins the three sources of evidence about one component.
-/

namespace PropTyper

inductive MergeMode where
  /-- The first list is binding: its kind and its required flag stay. -/
  | authoritative
  /-- The first list's kind stays unless it is `any`. -/
  | priority
  /-- Two observations of one rank: a definite kind beats `any`, and a call beats a member. -/
  | peer
deriving DecidableEq, Repr, Inhabited

namespace MergeMode

def kind (mode : MergeMode) (base other : PropKind) : PropKind :=
  match mode with
  | authoritative => base
  | priority => if base = .any then other else base
  | peer =>
    if base = .any then other
    else if base = .shape && other = .func then .func
    else base

/-- The mode for the named members of two properties merged under `mode`. -/
def forMembers : MergeMode → MergeMode
  | authoritative => authoritative
  | priority => peer
  | peer => peer

end MergeMode

namespace Property

/-- A list in which a name occurs once: `p` joins the property of its name, or comes last. -/
def insertWith (join : Property → Property → Property) (p : Property) :
    List Property → List Property
  | [] => [p]
  | q :: rest => if q.name = p.name then join q p :: rest else q :: insertWith join p rest

/-- The alternatives of both sides; of those with one kind and literal, the first. -/
def unionAlternatives (base other : List Property) : List Property :=
  other.foldl
    (fun all p => if all.any fun q => q.kind = p.kind && q.literal = p.literal then all else all ++ [p])
    base

/-- One level of `merge`: `members` merges the named members. -/
def mergeWith (members : MergeMode → List Property → List Property → List Property)
    (mode : MergeMode) (base other : Property) : Property :=
  let kind := mode.kind base.kind other.kind
  let binder := if Filled base.binding then base else other
  normalize
    { name := base.name
      binding := binder.binding
      scope := binder.scope
      kind
      required := if mode = .authoritative then base.required else base.required || other.required
      children :=
        if mode = .authoritative && Filled base.literal && base.children.isEmpty then []
        else if kind.hasNamedMembers then members mode.forMembers base.children other.children
        else if kind = .oneOfType then unionAlternatives base.children other.children
        else if base.children.isEmpty then other.children else base.children
      literal := firstFilled base.literal other.literal
      defaultText := firstFilled base.defaultText other.defaultText }

/-- One level of `mergeLists`: repeated names in `base` are peers, and those of `other` join under
`mode`, or with authority where the name is in `binding`. -/
def mergeListsWith (merge : MergeMode → Property → Property → Property) (mode : MergeMode)
    (binding : List String) (base other : List Property) : List Property :=
  let first := base.foldl (fun all p => insertWith (merge .peer) p all) []
  other.foldl
    (fun all p => insertWith (merge (if binding.contains p.name then .authoritative else mode)) p all)
    first

/-- Merging down to `depth` levels of members below the two properties. -/
def mergeTo : Nat → MergeMode → Property → Property → Property
  | 0 => mergeWith fun _ _ _ => []
  | depth + 1 => mergeWith fun mode => mergeListsWith (mergeTo depth) mode []

def heights (properties : List Property) : Nat :=
  (properties.map height).foldl max 0

/-- The two properties as one under the first one's name. -/
def merge (mode : MergeMode) (base other : Property) : Property :=
  mergeTo (max base.height other.height) mode base other

/-- The two lists as one, each name once and in the order in which it is first seen. -/
def mergeLists (mode : MergeMode) (base other : List Property)
    (binding : List String := []) : List Property :=
  mergeListsWith (mergeTo (max (heights base) (heights other))) mode binding base other

/-- What is declared binds, what is used comes before what defaults show. -/
def combine (declared used defaults : List Property) : List Property :=
  let names := declared.map (·.name)
  let stated := mergeLists .peer declared []
  let observed := mergeLists .priority stated used names
  mergeLists .priority observed defaults names

end Property

end PropTyper
