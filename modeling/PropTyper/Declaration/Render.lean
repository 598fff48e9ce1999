import PropTyper.Declaration.Key
import PropTyper.Property.Basic

/-! # Declarations as source text

A declaration is one statement: a list of `key: validator` entries assigned to the component or to
a static field of it. The first line carries no indentation of its own, so the text can be put
wherever the statement starts.
-/

namespace PropTyper

namespace Declaration

/-- The library that validators come from. -/
def moduleName : String := "prop-types"

/-- The name that a file knows the library under. -/
def moduleIdentifier : String := "PropTypes"

def propTypesLabel : String := "propTypes"

def defaultPropsLabel : String := "defaultProps"

def requiredMember : String := "isRequired"

def objectLiteral (indent inner : String) (entries : List (String × String)) : String :=
  let lines := entries.map fun entry => inner ++ entry.1 ++ ": " ++ entry.2
  "\x7b\n" ++ ",\n".intercalate lines ++ "\n" ++ indent ++ "\x7d"

end Declaration

open Declaration

namespace Property

def literalOr (p : Property) (otherwise : String) : String :=
  if Filled p.literal then p.literal.getD otherwise else otherwise

mutual

/-- The validator expression of a property; `indent` is that of the line it starts on. -/
def validator (settings : Settings) (indent : String) : Property → String
  | p@⟨_, _, kind, required, children, _, _, _⟩ =>
    if kind = .custom then p.literalOr (moduleIdentifier ++ ".any")
    else
      let base := moduleIdentifier ++ "." ++ kind.name
      let inner := indent ++ settings.indentUnit
      let expression :=
        match kind with
        | .shape | .exact =>
          let body :=
            if children.isEmpty then p.literalOr "\x7b\x7d"
            else objectLiteral indent inner (entries settings inner children)
          base ++ "(" ++ body ++ ")"
        | .oneOf => base ++ "(" ++ p.literalOr "[]" ++ ")"
        | .oneOfType =>
          if children.isEmpty then base ++ "(" ++ p.literalOr "[]" ++ ")"
          else base ++ "([" ++ ", ".intercalate (validators settings indent children) ++ "])"
        | .arrayOf | .objectOf =>
          base ++ "(" ++
            (validators settings indent children).headD (p.literalOr (moduleIdentifier ++ ".any")) ++ ")"
        | .instanceOf => base ++ "(" ++ p.literalOr "Object" ++ ")"
        | _ => base
      if required then expression ++ "." ++ requiredMember else expression

def validators (settings : Settings) (indent : String) : List Property → List String
  | [] => []
  | p :: rest => validator settings indent p :: validators settings indent rest

def entries (settings : Settings) (inner : String) : List Property → List (String × String)
  | [] => []
  | p :: rest =>
    (Key.render settings.quoteChar p.name, validator settings inner p) :: entries settings inner rest

end

/-- The default values that are known, each beside its key. -/
def defaultEntries (settings : Settings) (properties : List Property) : List (String × String) :=
  (properties.filter fun p => Filled p.defaultText).map fun p =>
    (Key.render settings.quoteChar p.name, p.defaultText.getD "")

end Property

namespace Declaration

def body (settings : Settings) (indent label : String) (properties : List Property) : String :=
  let inner := indent ++ settings.indentUnit
  objectLiteral indent inner
    (if label = defaultPropsLabel then Property.defaultEntries settings properties
     else Property.entries settings inner properties)

/-- A whole declaration statement, up to and with its semicolon. -/
def statement (settings : Settings) (component : String) (style : CodeStyle) (indent label : String)
    (properties : List Property) : String :=
  let target :=
    match style with
    | .field => "static " ++ label
    | .assignment => component ++ "." ++ label
  target ++ " = " ++ body settings indent label properties ++ ";"

/-- The label that a statement is written under: the one asked for, else the configured one. -/
def labelOr (settings : Settings) (label : Option String) : String :=
  if Filled label then label.getD settings.labelText else settings.labelText

/-- The line that brings the library of validators into a file. -/
def importLine (settings : Settings) (style : ModuleStyle) : String :=
  let quote := String.singleton settings.quoteChar
  let name := quote ++ moduleName ++ quote
  match style with
  | .requires => "const " ++ moduleIdentifier ++ " = require(" ++ name ++ ");"
  | .imports => "import " ++ moduleIdentifier ++ " from " ++ name ++ ";"

end Declaration

end PropTyper
