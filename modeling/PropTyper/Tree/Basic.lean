import PropTyper.Span
import PropTyper.Text.Utf8
import PropTyper.Tree.Kind

/-! # Syntax trees

A tree as a parser leaves it. A node knows the bytes it covers and the text they spell, so that no
analysis has to go back to the file.
-/

namespace PropTyper

structure Tree where
  kind : Kind
  span : Span
  /-- Nothing if the bytes cut a character. -/
  text : String
  /-- What is wrong with the bytes if they spell no text. -/
  flaw : Option Text.Utf8.Fault := none
  /-- Not a mere token such as a keyword or a bracket. -/
  named : Bool := true
  /-- Put in by the parser where the file has nothing. -/
  missing : Bool := false
  /-- Something below, or the node itself, is no part of the language. -/
  hasError : Bool := false
  /-- The roles under the parent. -/
  fields : List Field := []
  children : List Tree := []
deriving Repr, Inhabited

namespace Tree

theorem sizeOf_child_lt {t c : Tree} (h : c ∈ t.children) : sizeOf c < sizeOf t := by
  have hlt := List.sizeOf_lt_of_mem h
  cases t
  simp at *
  omega

def namedChildren (t : Tree) : List Tree :=
  t.children.filter (·.named)

/-- The child in a given role. -/
def child? (t : Tree) (field : Field) : Option Tree :=
  t.children.find? fun c => c.fields.contains field

theorem mem_children_of_child? {t c : Tree} {field : Field} (h : t.child? field = some c) :
    c ∈ t.children :=
  List.mem_of_find?_eq_some h

theorem mem_children_of_mem_namedChildren {t c : Tree} (h : c ∈ t.namedChildren) :
    c ∈ t.children :=
  (List.mem_filter.1 h).1

def sameAs (a b : Tree) : Bool :=
  a.kind = b.kind && a.span = b.span

/-- The child in a role, if it is of the kind asked for. -/
def childOf? (t : Tree) (field : Field) (kind : Kind) : Option Tree :=
  (t.child? field).filter fun c => c.kind = kind

def childText (t : Tree) (field : Field) : String :=
  match t.child? field with
  | some c => c.text
  | none => ""

/-- A class field that belongs to the class and not to its instances. -/
def isStatic (t : Tree) : Bool :=
  t.children.any fun c => c.kind = .other "static"

/-- The name of a class field, in either of the two roles that grammars give it. -/
def fieldName? (t : Tree) : Option Tree :=
  (t.child? .property).or (t.child? .name)

/-- The entries that a list of arguments, or the body of a file, consists of. -/
def withoutComments (t : Tree) : List Tree :=
  t.namedChildren.filter fun c => c.kind ≠ .comment

end Tree

end PropTyper
