/-! # Kinds of syntax nodes

The node types of a parsed file. Types that the analysis never asks for keep their name as `other`.
A keyword token may share its type with a larger node: `class` is both the word and the expression.
-/

namespace PropTyper

inductive Kind where
  | program | comment | expressionStatement | exportStatement | importStatement
  | statementBlock | classDeclaration | classExpression | classHeritage | classBody
  | functionDeclaration | functionExpression | functionKeyword | arrowFunction
  | methodDefinition | fieldDefinition | publicFieldDefinition | variableDeclarator
  | formalParameters | requiredParameter | optionalParameter | objectPattern
  | shorthandPropertyIdentifierPattern | objectAssignmentPattern | pairPattern
  | assignmentPattern | restPattern | assignmentExpression | callExpression | memberExpression
  | identifier | propertyIdentifier | typeIdentifier | thisExpression | object | pair | array
  | arguments | parenthesizedExpression | unaryExpression | number | string | templateString
  | trueLiteral | falseLiteral | jsxElement | jsxSelfClosingElement | jsxFragment | error
  | other (type : String)
deriving DecidableEq, Repr, Inhabited

namespace Kind

def name : Kind → String
  | program => "program"
  | comment => "comment"
  | expressionStatement => "expression_statement"
  | exportStatement => "export_statement"
  | importStatement => "import_statement"
  | statementBlock => "statement_block"
  | classDeclaration => "class_declaration"
  | classExpression => "class"
  | classHeritage => "class_heritage"
  | classBody => "class_body"
  | functionDeclaration => "function_declaration"
  | functionExpression => "function_expression"
  | functionKeyword => "function"
  | arrowFunction => "arrow_function"
  | methodDefinition => "method_definition"
  | fieldDefinition => "field_definition"
  | publicFieldDefinition => "public_field_definition"
  | variableDeclarator => "variable_declarator"
  | formalParameters => "formal_parameters"
  | requiredParameter => "required_parameter"
  | optionalParameter => "optional_parameter"
  | objectPattern => "object_pattern"
  | shorthandPropertyIdentifierPattern => "shorthand_property_identifier_pattern"
  | objectAssignmentPattern => "object_assignment_pattern"
  | pairPattern => "pair_pattern"
  | assignmentPattern => "assignment_pattern"
  | restPattern => "rest_pattern"
  | assignmentExpression => "assignment_expression"
  | callExpression => "call_expression"
  | memberExpression => "member_expression"
  | identifier => "identifier"
  | propertyIdentifier => "property_identifier"
  | typeIdentifier => "type_identifier"
  | thisExpression => "this"
  | object => "object"
  | pair => "pair"
  | array => "array"
  | arguments => "arguments"
  | parenthesizedExpression => "parenthesized_expression"
  | unaryExpression => "unary_expression"
  | number => "number"
  | string => "string"
  | templateString => "template_string"
  | trueLiteral => "true"
  | falseLiteral => "false"
  | jsxElement => "jsx_element"
  | jsxSelfClosingElement => "jsx_self_closing_element"
  | jsxFragment => "jsx_fragment"
  | error => "ERROR"
  | other type => type

/-- The kinds that have a meaning of their own. -/
def known : List Kind :=
  [program, comment, expressionStatement, exportStatement, importStatement, statementBlock,
    classDeclaration, classExpression, classHeritage, classBody, functionDeclaration,
    functionExpression, functionKeyword, arrowFunction, methodDefinition, fieldDefinition,
    publicFieldDefinition, variableDeclarator, formalParameters, requiredParameter,
    optionalParameter, objectPattern, shorthandPropertyIdentifierPattern,
    objectAssignmentPattern, pairPattern, assignmentPattern, restPattern,
    assignmentExpression, callExpression, memberExpression, identifier, propertyIdentifier,
    typeIdentifier, thisExpression, object, pair, array, arguments, parenthesizedExpression,
    unaryExpression, number, string, templateString, trueLiteral, falseLiteral, jsxElement,
    jsxSelfClosingElement, jsxFragment, error]

def ofName (type : String) : Kind :=
  (known.find? fun kind => kind.name == type).getD (other type)

def isKnown : Kind → Bool
  | other _ => false
  | _ => true

theorem name_ofName (type : String) : (ofName type).name = type := by
  unfold ofName
  cases h : known.find? fun kind => kind.name == type with
  | none => rfl
  | some kind =>
    have := List.find?_some h
    simpa using this

theorem ofName_name {kind : Kind} (h : kind.isKnown) : ofName kind.name = kind := by
  cases kind with
  | other type => simp [isKnown] at h
  | _ => decide +kernel

def isFunctionValue : Kind → Bool
  | functionExpression | functionKeyword | arrowFunction => true
  | _ => false

def isFunction : Kind → Bool
  | functionDeclaration => true
  | kind => kind.isFunctionValue

def isClass : Kind → Bool
  | classDeclaration | classExpression => true
  | _ => false

def isClassField : Kind → Bool
  | fieldDefinition | publicFieldDefinition => true
  | _ => false

def isJsx : Kind → Bool
  | jsxElement | jsxSelfClosingElement | jsxFragment => true
  | _ => false

/-- Nodes that bound where a local name can be seen. -/
def isScope : Kind → Bool
  | methodDefinition | statementBlock => true
  | kind => kind.isFunction

/-- Names that a member access can end in. -/
def isMemberName : Kind → Bool
  | propertyIdentifier => true
  | other type => type = "private_property_identifier"
  | _ => false

/-- Keys whose text is the name itself. -/
def isPlainKey : Kind → Bool
  | number | propertyIdentifier | shorthandPropertyIdentifierPattern | identifier => true
  | other type => type = "shorthand_property_identifier" || type = "private_property_identifier"
  | _ => false

end Kind

inductive Field where
  | argument | arguments | body | function | key | left | name | object | operator | parameter
  | parameters | pattern | property | right | source | value
deriving DecidableEq, Repr, Inhabited

namespace Field

def label : Field → String
  | argument => "argument"
  | arguments => "arguments"
  | body => "body"
  | function => "function"
  | key => "key"
  | left => "left"
  | name => "name"
  | object => "object"
  | operator => "operator"
  | parameter => "parameter"
  | parameters => "parameters"
  | pattern => "pattern"
  | property => "property"
  | right => "right"
  | source => "source"
  | value => "value"

def all : List Field :=
  [argument, arguments, body, function, key, left, name, object, operator, parameter,
    parameters, pattern, property, right, source, value]

def ofLabel? (text : String) : Option Field :=
  all.find? fun field => field.label == text

end Field

end PropTyper
