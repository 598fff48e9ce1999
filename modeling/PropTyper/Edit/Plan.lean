import PropTyper.Component.Analysis
import PropTyper.Edit.Splice

/-! # Planning the edits of a component

An existing declaration is replaced as a whole. A new one goes after the statement that defines the
component, or to the top of the body of its class. The library of validators is brought in before
the first statement, unless the file has it already.
-/

namespace PropTyper

/-- The spaces and tabs that the line of an offset starts with, up to the offset. -/
def lineIndent (data : List UInt8) (offset : Int) : String :=
  let before := (Edit.between data 0 offset).reverse.takeWhile fun b => b ≠ 10
  let blanks := before.reverse.takeWhile fun b => b = 32 || b = 9
  String.ofList (blanks.map fun b => Char.ofNat b.toNat)

namespace Node

/-- The bytes of a declaration, with the semicolon that ends it. -/
def declarationSpan (n : Node) : Span :=
  let statement :=
    n.parent?.filter fun p => n.kind = .assignmentExpression && p.kind = .expressionStatement
  match statement with
  | some p => p.span
  | none =>
    match n.nextSibling?.filter fun s => s.kind = .other ";" with
    | some semicolon => ⟨n.span.start, semicolon.span.stop⟩
    | none => n.span

end Node

namespace Analysis

/-- The style of the declaration that is there, else the configured one. Functions have no fields,
so theirs are always assignments. -/
def codeStyle (a : Analysis) (settings : Settings) : CodeStyle :=
  match a.propTypes with
  | some declaration => if declaration.kind.isClassField then .field else .assignment
  | none => if a.component.kind.isClass then settings.codeStyle.getD .field else .assignment

def statement (a : Analysis) (settings : Settings) (label indent : String) : String :=
  Declaration.statement settings a.name (a.codeStyle settings) indent
    (Declaration.labelOr settings (some label)) a.properties

/-- The edit that puts a new declaration in; none if the class has no body. -/
def insertion? (a : Analysis) (settings : Settings) (data : List UInt8) (label : String) :
    Option Edit :=
  match a.codeStyle settings with
  | .field =>
    (a.component.tree.child? .body).map fun body =>
      let indent := lineIndent data a.component.span.start ++ settings.indentUnit
      let offset : Int := body.span.start + 1
      ⟨offset, offset, "\n" ++ indent ++ a.statement settings label indent ++ "\n"⟩
  | .assignment =>
    let top := a.component.topLevel
    let indent := lineIndent data top.span.start
    some ⟨top.span.stop, top.span.stop, "\n\n" ++ indent ++ a.statement settings label indent⟩

def typesEdit (a : Analysis) (settings : Settings) (data : List UInt8) : List Edit :=
  match a.propTypes with
  | some declaration =>
    let span := declaration.declarationSpan
    [⟨span.start, span.stop, a.statement settings settings.labelText (lineIndent data span.start)⟩]
  | none => (a.insertion? settings data settings.labelText).toList

/-- A text with a half that the types cannot be declared by, up to the label in which the half stands.
There is no declaration under such a label yet. -/
def unencodable? (a : Analysis) (settings : Settings) (data : List UInt8) : Option LooseText :=
  let before :=
    match a.codeStyle settings with
    | .field =>
      "\n" ++ lineIndent data a.component.span.start ++ settings.indentUnit ++ "static "
    | .assignment => "\n\n" ++ lineIndent data a.component.topLevel.span.start ++ a.name ++ "."
  if settings.label.hasHalf && !(a.typesEdit settings data).isEmpty then
    some (LooseText.ofString before ++ settings.label)
  else none

theorem unencodable?_eq_none {settings : Settings} (h : settings.label.hasHalf = false) (a : Analysis)
    (data : List UInt8) : a.unencodable? settings data = none := by
  simp [unencodable?, h]

/-- The edit that writes default values, if that is asked for, there are any, and the author has
not declared their own. -/
def defaultsEdit (a : Analysis) (settings : Settings) (data : List UInt8) : List Edit :=
  if settings.withDefaults && a.properties.any (fun p => Filled p.defaultText) &&
      a.defaultProps.isNone then
    (a.insertion? settings data Declaration.defaultPropsLabel).toList
  else []

def importEdit (root : Node) (settings : Settings) : List Edit :=
  if settings.autoImport && (root.import? Declaration.moduleName).isNone then
    match root.statements with
    | [] => []
    | first :: _ =>
      let offset : Int := first.span.start
      [⟨offset, offset, Declaration.importLine settings root.moduleStyle ++ "\n"⟩]
  else []

def plan (a : Analysis) (root : Node) (settings : Settings) (data : List UInt8) : List Edit :=
  a.typesEdit settings data ++ a.defaultsEdit settings data ++ importEdit root settings

end Analysis

end PropTyper
