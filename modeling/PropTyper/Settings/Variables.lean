import PropTyper.Settings.Layers
import PropTyper.Text.Blank

/-! # Files of variables

Each line of such a file states a variable, as in `NAME=value`. Values may be quoted, and then go on
over several lines; other values end with their line or a comment. A line that is not well-formed is
left out. A value may speak of other variables, as in `${NAME}` or `${NAME:-default}`.
-/

namespace PropTyper.Variables

def isGap (c : Char) : Bool :=
  Text.isBlank c && c ≠ '\n' && c ≠ '\r'

def isLineEnd (c : Char) : Bool :=
  c = '\n' || c = '\r'

def skipGap (text : List Char) : List Char :=
  text.dropWhile isGap

def afterLine (text : List Char) : List Char :=
  (text.dropWhile fun c => !isLineEnd c).drop 1

/-- A text after the word that may stand before a name. -/
def skipExport (text : List Char) : List Char :=
  match text with
  | 'e' :: 'x' :: 'p' :: 'o' :: 'r' :: 't' :: c :: rest => if isGap c then skipGap rest else text
  | _ => text

/-- What stands at one place of a text, with what follows; where it is not well-formed, only the
latter. -/
abbrev Found (α : Type) := Except (List Char) (α × List Char)

/-- The name of a variable; none where a comment stands. -/
def name (text : List Char) : Found (Option (List Char)) :=
  match text with
  | '#' :: _ => .ok (none, text)
  | '\x27' :: rest =>
    match rest.takeWhile (· ≠ '\x27'), rest.dropWhile (· ≠ '\x27') with
    | c :: quoted, _ :: after => .ok (some (c :: quoted), after)
    | _, _ => .error text
  | _ =>
    let isName (c : Char) : Bool := !(c = '=' || c = '#' || Text.isBlank c)
    match text.takeWhile isName with
    | [] => .error text
    | word => .ok (some word, text.dropWhile isName)

/-- What stands before the closing quote. A quote after a backslash closes nothing, unless no other
one follows; `last` is what has been found at the last of these, and `seen` what has been read, the
last character first. -/
def quoted (quote : Char) (last : Option (List Char × List Char)) (seen : List Char) :
    List Char → Option (List Char × List Char)
  | [] => last
  | '\\' :: c :: rest =>
    if c = quote then
      quoted quote (some (('\\' :: seen).reverse, rest)) (c :: '\\' :: seen) rest
    else quoted quote last ('\\' :: seen) (c :: rest)
  | c :: rest => if c = quote then some (seen.reverse, rest) else quoted quote last (c :: seen) rest

def escaped? (quote c : Char) : Option Char :=
  if c = '\\' || c = '\x27' then some c
  else if quote = '\x27' then none
  else
    [('\x22', '\x22'), ('a', '\x07'), ('b', '\x08'), ('f', '\x0c'), ('n', '\n'), ('r', '\r'),
      ('t', '\t'), ('v', '\x0b')].lookup c

def unescape (quote : Char) : List Char → List Char
  | [] => []
  | '\\' :: c :: rest =>
    match escaped? quote c with
    | some plain => plain :: unescape quote rest
    | none => '\\' :: unescape quote (c :: rest)
  | c :: rest => c :: unescape quote rest

def withoutComment (text : List Char) : List Char :=
  match text with
  | [] => []
  | c :: rest =>
    if Text.isBlank c && (rest.dropWhile Text.isBlank).head? = some '#' then []
    else c :: withoutComment rest

def value (text : List Char) : Found (List Char) :=
  match text with
  | [] => .ok ([], [])
  | c :: rest =>
    if c = '\x27' || c = '\x22' then
      match quoted c none [] rest with
      | some (inner, after) => .ok (unescape c inner, after)
      | none => .error text
    else if isLineEnd c then .ok ([], text)
    else
      let line := text.takeWhile fun c => !isLineEnd c
      .ok (Text.trimEnd (withoutComment line), text.dropWhile fun c => !isLineEnd c)

/-- The value after an equals sign, if there is one. -/
def assigned (text : List Char) : Found (Option (List Char)) :=
  match skipGap text with
  | '=' :: rest => (value (skipGap rest)).map fun found => (some found.1, found.2)
  | rest => .ok (none, rest)

/-- What follows a comment and the end of the line. -/
def lineEnd (text : List Char) : Except (List Char) (List Char) :=
  let text :=
    match skipGap text with
    | '#' :: comment => comment.dropWhile fun c => !isLineEnd c
    | _ => text
  match skipGap text with
  | [] => .ok []
  | c :: rest => if isLineEnd c then .ok rest else .error text

/-- One statement, which begins with no white space. -/
def statement (text : List Char) : Found (Option (List Char × Option (List Char))) :=
  match name (skipExport text) with
  | .error rest => .error rest
  | .ok (name, rest) =>
    match assigned rest with
    | .error rest => .error rest
    | .ok (value, rest) =>
      match lineEnd rest with
      | .error rest => .error rest
      | .ok rest => .ok (name.map fun name => (name, value), rest)

/-- The statements of a text, at most `fuel` of them. -/
def statements : Nat → List Char → List (List Char × Option (List Char))
  | 0, _ => []
  | fuel + 1, text =>
    match text.dropWhile Text.isBlank with
    | [] => []
    | start =>
      match statement start with
      | .ok (found, rest) => found.toList ++ statements fuel rest
      | .error rest => statements fuel (afterLine rest)

/-- A mention of a variable right after its opening brace: the name, the text for the case that it
has no value, and what follows. -/
def mention? (text : List Char) : Option (List Char × List Char × List Char) :=
  let isName (c : Char) : Bool := c ≠ '\x7d' && c ≠ ':'
  let name := text.takeWhile isName
  match text.dropWhile isName with
  | '\x7d' :: rest => some (name, [], rest)
  | ':' :: '-' :: rest =>
    match rest.dropWhile (· ≠ '\x7d') with
    | _ :: after => some (name, rest.takeWhile (· ≠ '\x7d'), after)
    | [] => none
  | _ => none

/-- A value with the variables in it filled in; `fuel` bounds its length. -/
def filledIn (lookup : String → Option String) : Nat → List Char → List Char
  | 0, text => text
  | _, [] => []
  | fuel + 1, '$' :: '\x7b' :: rest =>
    match mention? rest with
    | some (name, fallback, after) =>
      ((lookup (String.ofList name)).map String.toList).getD fallback ++
        filledIn lookup fuel after
    | none => '$' :: filledIn lookup fuel ('\x7b' :: rest)
  | fuel + 1, c :: rest => c :: filledIn lookup fuel rest

/-- The text of a variable that a value speaks of: what the file says comes before the environment. A
variable that is only named there has none. -/
def text? (env : Environment) (known : Variables) (name : String) : Option String :=
  match known.lookup name with
  | some value => some (value.getD "")
  | none => env.get? name

def add (env : Environment) (known : Variables) (s : List Char × Option (List Char)) : Variables :=
  Json.setMember (String.ofList s.1)
    (s.2.map fun value => String.ofList (filledIn (text? env known) value.length value)) known

/-- The variables that a text states; of several with one name the last counts, in the place of the
first. -/
def parse (env : Environment) (text : String) : Variables :=
  (statements (text.length + 1) text.toList).foldl (add env) []

end PropTyper.Variables
