import PropTyper.Settings.Field

/-! # Arguments of the command line

Options may stand anywhere among the other arguments, and the last of a repeated one counts. After
two dashes nothing is an option.
-/

namespace PropTyper.Command

structure Options where
  codeStyle : Option CodeStyle := none
  noAutoImport : Bool := false
  withDefaults : Bool := false
  quote : Option QuoteStyle := none
  configFile : Option String := none
  verbose : Bool := false
  jsonLogs : Bool := false
deriving DecidableEq, Repr, Inhabited

inductive Request where
  | generate (file : String) (name : Option String) (options : Options)
  | project (directory : String) (options : Options)
  | config (file : String) (configFile : Option String)
  | help
deriving DecidableEq, Repr, Inhabited

structure Grammar where
  valued : List String
  flags : List String
  /-- The flags that have a letter. -/
  letters : List (Char × String)

def workGrammar : Grammar :=
  { valued := ["--code-style", "--quote", "--config-file"]
    flags := ["--no-auto-import", "--with-defaults", "--verbose", "--json-logs", "--help"]
    letters := [('v', "--verbose")] }

def configGrammar : Grammar :=
  { valued := ["--config-file"], flags := ["--help"], letters := [] }

/-- Arguments sorted by what they are. -/
structure Given where
  values : List (String × String) := []
  flags : List String := []
  words : List String := []
deriving DecidableEq, Repr, Inhabited

def Given.value? (g : Given) (name : String) : Option String :=
  ((g.values.filter fun v => v.1 = name).getLast?).map (·.2)

def Given.hasFlag (g : Given) (name : String) : Bool :=
  g.flags.contains name

def isOption (arg : String) : Bool :=
  match arg.toList with
  | '-' :: _ :: _ => true
  | _ => false

def isLong (arg : String) : Bool :=
  match arg.toList with
  | '-' :: '-' :: _ => true
  | _ => false

/-- The name of an option, and the value that is written behind a sign of equality. -/
def nameAndValue (arg : String) : String × Option String :=
  let cs := arg.toList
  let name := String.ofList (cs.takeWhile (· ≠ '='))
  match cs.dropWhile (· ≠ '=') with
  | _ :: value => (name, some (String.ofList value))
  | [] => (name, none)

def letterFlags? (grammar : Grammar) (letters : List Char) : Option (List String) :=
  letters.mapM fun letter => grammar.letters.lookup letter

/-- What an option that asks for no further argument says. -/
def readOption? (grammar : Grammar) (arg : String) (g : Given) : Option Given :=
  if isLong arg then
    match nameAndValue arg with
    | (name, some value) =>
      if grammar.valued.contains name then some { g with values := g.values ++ [(name, value)] }
      else none
    | (name, none) =>
      if grammar.flags.contains name then some { g with flags := g.flags ++ [name] } else none
  else
    (letterFlags? grammar (arg.toList.drop 1)).map fun flags => { g with flags := g.flags ++ flags }

/-- Sorts arguments; `none` if an option is unknown, lacks its value or has one too many. -/
def sort? (grammar : Grammar) : List String → Given → Option Given
  | [], g => some g
  | [arg], g =>
    if arg = "--" then some g
    else if isOption arg then readOption? grammar arg g
    else some { g with words := g.words ++ [arg] }
  | arg :: next :: rest, g =>
    if arg = "--" then some { g with words := g.words ++ next :: rest }
    else if grammar.valued.contains arg then
      sort? grammar rest { g with values := g.values ++ [(arg, next)] }
    else if isOption arg then
      match readOption? grammar arg g with
      | some g => sort? grammar (next :: rest) g
      | none => none
    else sort? grammar (next :: rest) { g with words := g.words ++ [arg] }

/-- What one of several words stands for, if there is any. -/
def choice? {α : Type} (words : List (String × α)) : Option String → Option (Option α)
  | none => some none
  | some word => (words.lookup word).map some

def options? (g : Given) : Option Options :=
  match choice? [("default", CodeStyle.assignment), ("class", .field)] (g.value? "--code-style"),
      choice? [("single", QuoteStyle.single), ("double", .double)] (g.value? "--quote") with
  | some codeStyle, some quote =>
    some
      { codeStyle, quote
        noAutoImport := g.hasFlag "--no-auto-import"
        withDefaults := g.hasFlag "--with-defaults"
        configFile := g.value? "--config-file"
        verbose := g.hasFlag "--verbose"
        jsonLogs := g.hasFlag "--json-logs" }
  | _, _ => none

/-- Reads the arguments of one command; a call for help goes before all that is wrong with them. -/
def requestFor? (grammar : Grammar) (args : List String) (read : Given → Option Request) :
    Option Request :=
  match sort? grammar args {} with
  | none => none
  | some g => if g.hasFlag "--help" then some .help else read g

def generateRequest? (g : Given) : Option Request :=
  match g.words, options? g with
  | [file], some options => some (.generate file none options)
  | [file, name], some options => some (.generate file (some name) options)
  | _, _ => none

def projectRequest? (g : Given) : Option Request :=
  match g.words, options? g with
  | [], some options => some (.project "." options)
  | [directory], some options => some (.project directory options)
  | _, _ => none

def configRequest? (g : Given) : Option Request :=
  match g.words with
  | [file] => some (.config file (g.value? "--config-file"))
  | _ => none

def named? (command : String) (args : List String) : Option Request :=
  if command = "generate" then requestFor? workGrammar args generateRequest?
  else if command = "project" then requestFor? workGrammar args projectRequest?
  else if command = "config" then requestFor? configGrammar args configRequest?
  else none

/-- The request of a whole command line, if it is well-formed. Before the command stands nothing but
a call for help, which `help` tells to have been read. -/
def request? (help : Bool) : List String → Option Request
  | [] => if help then some .help else none
  | arg :: rest =>
    if arg = "--" then
      if help then some .help
      else
        match rest with
        | [] => none
        | command :: args => named? command args
    else if isOption arg then if arg = "--help" then request? true rest else none
    else if help then some .help
    else named? arg rest

end PropTyper.Command
