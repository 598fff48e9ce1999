import PropTyper.Declaration.Render
import PropTyper.Evidence.Pattern

/-! # Properties that a declaration states

A declaration that the author wrote is read back into properties. Nested validators are followed
through at most `maxDepth` levels; what lies deeper counts as `any`.
-/

namespace PropTyper

namespace Tree

/-- The kind that a call of a validator names. -/
def calledKind? (call : Tree) : Option PropKind :=
  match call.child? .function with
  | none => none
  | some callee =>
    match callee.kind with
    | .memberExpression => PropKind.ofName? (callee.childText .property)
    | .identifier => PropKind.ofName? callee.text
    | _ => none

def firstArgument? (call : Tree) : Option Tree :=
  match call.child? .arguments with
  | none => none
  | some list => list.withoutComments.head?

theorem sizeOf_firstArgument_lt {call a : Tree} (h : call.firstArgument? = some a) :
    sizeOf a < sizeOf call := by
  unfold firstArgument? at h
  split at h
  · cases h
  · next list hlist =>
    have hmem := (List.mem_filter.1 (List.mem_of_head? h)).1
    exact Nat.lt_trans (sizeOf_child_lt (mem_children_of_mem_namedChildren hmem))
      (sizeOf_child_lt (mem_children_of_child? hlist))

/-- The marked validator says that the property must be there. -/
def isRequiredMark (t : Tree) : Bool :=
  t.childText .property = Declaration.requiredMember

/-- The validators directly inside one that stands for the property `name`, each with the name that
it gets. -/
def subvalidators (name : String) (t : Tree) : List (String × Tree) :=
  match t.kind with
  | .callExpression =>
    match t.calledKind?, t.firstArgument? with
    | some kind, some argument =>
      match argument.kind with
      | .object => argument.entries
      | .array => if kind = .oneOf then [] else argument.namedChildren.map fun e => ("", e)
      | _ => if kind = .instanceOf then [] else [("", argument)]
    | _, _ => []
  | .memberExpression =>
    if t.isRequiredMark then (t.child? .object).toList.map fun o => (name, o) else []
  | _ => []

theorem sizeOf_subvalidator_lt {name : String} {t : Tree} {s : String × Tree}
    (h : s ∈ t.subvalidators name) : sizeOf s.2 < sizeOf t := by
  unfold subvalidators at h
  split at h
  · split at h
    · next argument _ harg =>
      have hlt := sizeOf_firstArgument_lt harg
      split at h
      · exact Nat.lt_trans (sizeOf_entry_lt h) hlt
      · split at h
        · cases h
        · obtain ⟨e, he, rfl⟩ := List.mem_map.1 h
          exact Nat.lt_trans (sizeOf_child_lt (mem_children_of_mem_namedChildren he)) hlt
      · split at h
        · cases h
        · obtain rfl := List.mem_singleton.1 h
          exact hlt
    · cases h
  · split at h
    · obtain ⟨o, ho, rfl⟩ := List.mem_map.1 h
      exact sizeOf_child_lt (mem_children_of_child? (Option.mem_toList.1 ho))
    · cases h
  · cases h

end Tree

namespace Property

/-- Validators nested deeper than this are not looked at. -/
def maxDepth : Int := 32

/-- The property that a validator states once those inside it are known; none if the expression is
no validator. -/
def ofParts? (name : String) (t : Tree) (parts : List Property) : Option Property :=
  match t.kind with
  | .callExpression =>
    match t.calledKind? with
    | none => none
    | some kind =>
      match t.firstArgument? with
      | none => some { name, kind }
      | some argument =>
        match argument.kind with
        | .object => some { name, kind, children := parts }
        | .array =>
          if kind = .oneOf then some { name, kind, literal := some argument.text }
          else some { name, kind, children := parts }
        | _ =>
          if parts.isEmpty then some { name, kind, literal := some argument.text }
          else some { name, kind, children := parts }
  | .memberExpression =>
    if t.isRequiredMark then parts.head?.map fun p => { p with required := true }
    else some { name, kind := (PropKind.ofName? (t.childText .property)).getD .any }
  | .identifier => (PropKind.ofName? t.text).map fun kind => { name, kind }
  | .functionExpression | .functionKeyword | .arrowFunction =>
    some { name, kind := .custom, literal := some t.text }
  | _ => none

/-- The property `name` as the validator `t`, at nesting level `depth`, states it. -/
def ofValidator? (depth : Int) (name : String) (t : Tree) : Option Property :=
  if maxDepth < depth then some { name }
  else
    ofParts? name t
      ((t.subvalidators name).attach.filterMap fun s => ofValidator? (depth + 1) s.1.1 s.1.2)
termination_by sizeOf t
decreasing_by exact Tree.sizeOf_subvalidator_lt s.2

def declaredEntries (object : Option Tree) : List (String × Tree) :=
  match object with
  | none => []
  | some t => if t.kind = .object then t.entries else []

/-- One property for each entry that is a validator. -/
def ofDeclaration (object : Option Tree) : List Property :=
  (declaredEntries object).filterMap fun e => ofValidator? 1 e.1 e.2

end Property

end PropTyper
