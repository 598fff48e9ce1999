import PropTyper.Tree.Basic

/-! # Flat trees

A parser hands its tree over as the list of its nodes in pre-order, each with the number of its
children.
-/

namespace PropTyper.Tree

structure Row where
  kind : Kind
  span : Span
  named : Bool
  missing : Bool
  hasError : Bool
  fields : List Field
  childCount : Nat
deriving Repr, Inhabited

/-- The text that a range of the encoded source spells, and what is wrong if it cuts a character. -/
def spelled (source : ByteArray) (span : Span) : String × Option Text.Utf8.Fault :=
  let bytes := source.extract span.start span.stop
  match String.fromUTF8? bytes with
  | some text => (text, none)
  | none =>
    match Text.Utf8.decode bytes.toList with
    | .ok text => (text, none)
    | .error fault => ("", some fault)

/-- Puts a node over the first trees of a list, as many as it has children. -/
def gather (source : ByteArray) (row : Row) (trees : List Tree) : List Tree :=
  let (text, flaw) := spelled source row.span
  { kind := row.kind
    span := row.span
    text
    flaw
    named := row.named
    missing := row.missing
    hasError := row.hasError
    fields := row.fields
    children := trees.take row.childCount } :: trees.drop row.childCount

/-- The tree that a flat list describes, if it describes a single one. -/
def ofRows? (source : ByteArray) (rows : List Row) : Option Tree :=
  match rows.foldr (gather source) [] with
  | [t] => some t
  | _ => none

end PropTyper.Tree
