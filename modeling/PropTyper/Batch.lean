import PropTyper.Files.Source
import PropTyper.Reading.Plan

/-! # Generating declarations in files

Components are worked on one after the other, and each sees the file as the one before has left it.
In a project a file that fails is reported and the next one follows.
-/

namespace PropTyper

/-- A parser: the tree of a text in a language. -/
abbrev Parser := String → String → Tree

def SourceFile.document (f : SourceFile) (parse : Parser) : Document :=
  { path := f.path, language := f.language, text := f.text, root := parse f.language f.text }

structure Generated where
  file : String
  component : String
  style : CodeStyle
  /-- There was a declaration before. -/
  replaced : Bool
  properties : List String
deriving DecidableEq, Repr, Inhabited

/-- What was done in one file. -/
structure Report where
  file : String
  generated : List Generated := []
  /-- The components that failed, each with the message. -/
  failures : List (LooseText × String) := []
deriving DecidableEq, Repr, Inhabited

def Report.isOk (r : Report) : Bool :=
  !r.generated.isEmpty && r.failures.isEmpty

namespace Batch

/-- The new text of a file with the declarations of one component. -/
def updated (d : Document) (settings : Settings) (a : Analysis) : Except Fault String :=
  let data := Text.Utf8.encode d.text
  match (a.readPlan d.node settings data).result with
  | .error fault => .error (.undecodable fault)
  | .ok edits =>
    match a.unencodable? settings data with
    | some text => .error (.unencodable text)
    | none =>
      match Edit.apply data edits with
      | .ok text => .ok text
      | .error fault => .error (.edit fault)

/-- Writes the declarations of the component that the settings name. -/
def generate (parse : Parser) (s : Store) (file : String) (settings : Settings) :
    Store × Except Fault Generated :=
  let failed (failure : Failure) : Store × Except Fault Generated := (s, .error (.reported failure))
  match settings.component? with
  | none => failed (.inference (.notNamed file))
  | some name =>
    match SourceFile.read s (Path.ofString file) none with
    | .error fault => (s, .error fault)
    | .ok source =>
      let d := source.document parse
      match (Analysis.readLoose d name (some settings.labelText)).result with
      | .error fault => (s, .error (.undecodable fault))
      | .ok (.error failure) => failed (.inference failure)
      | .ok (.ok a) =>
        match updated d settings a with
        | .error fault => (s, .error fault)
        | .ok text =>
          match source.write s text with
          | .error fault => (s, .error fault)
          | .ok (s, _) =>
            (s, .ok
              { file, component := a.name, style := a.codeStyle settings
                replaced := a.propTypes.isSome, properties := a.properties.map (·.name) })

/-- Works on components in turn, up to a fault that is not one of inference. -/
def generateAll (parse : Parser) (file : String) (settings : Settings) :
    List LooseText → Store → Report → Store × Except Fault Report
  | [], s, report => (s, .ok report)
  | name :: rest, s, report =>
    match generate parse s file { settings with name := some name } with
    | (s, .ok g) =>
      generateAll parse file settings rest s { report with generated := report.generated ++ [g] }
    | (s, .error (.reported (.inference failure))) =>
      generateAll parse file settings rest s
        { report with failures := Json.setMember name failure.notice.message report.failures }
    | (s, .error fault) => (s, .error fault)

/-- The components to work on: those that are named, else that of the settings, else all that the
file seems to define. -/
def componentsOf (parse : Parser) (s : Store) (file : String) (settings : Settings)
    (names : Option (List LooseText)) : Except Fault (List LooseText) :=
  match names with
  | some names => .ok names
  | none =>
    match settings.component? with
    | some name => .ok [name]
    | none =>
      match SourceFile.read s (Path.ofString file) none with
      | .error fault => .error fault
      | .ok source =>
        match (source.document parse).node.readComponentNames.result with
        | .error fault => .error (.undecodable fault)
        | .ok names => .ok (names.map LooseText.ofString)

def generateFile (parse : Parser) (s : Store) (file : String) (settings : Settings)
    (names : Option (List LooseText)) : Store × Except Fault Report :=
  match componentsOf parse s file settings names with
  | .error fault => (s, .error fault)
  | .ok names => generateAll parse file settings names s { file }

def projectExtensions : List String := [".js", ".jsx", ".ts", ".tsx"]

def isProjectFile (name : String) : Bool :=
  projectExtensions.contains (Path.extension { names := [name] })

/-- Directories that hold no code of the project. -/
def isSkipped (directory : String) : Bool :=
  directory = "node_modules" || directory.toList.head? = some '.'

def sortedNames (entries : List (String × Entry)) : List String :=
  (entries.map Prod.fst).mergeSort fun a b => !decide (b < a)

section Walk

variable {ε α : Type}

/-- Work on a file: it may change the store, and goes on from what came of the files before. -/
abbrev Work (ε α : Type) := Path → Store → α → Store × Except ε α

def andThen (r : Store × Except ε α) (next : Store → α → Store × Except ε α) : Store × Except ε α :=
  match r with
  | (s, .ok found) => next s found
  | (s, .error e) => (s, .error e)

/-- Works on the files at and below the names of a directory. Each name is looked up when its turn
comes, in the store as the files before have left it. -/
def walk (work : Work ε α) (blocked : PathFault → ε) (p : Path) :
    List String → Store → α → Store × Except ε α
  | [], s, found => (s, .ok found)
  | name :: rest, s, found =>
    match _h : s.entry (p.join name) with
    | .ok (.directory entries) =>
      if isSkipped name then walk work blocked p rest s found
      else
        andThen (walk work blocked (p.join name) (sortedNames entries) s found)
          (walk work blocked p rest)
    | .error .tooLong => (s, .error (blocked ⟨.tooLong, (p.join name).toString⟩))
    | _ =>
      if isProjectFile name then andThen (work (p.join name) s found) (walk work blocked p rest)
      else walk work blocked p rest s found
termination_by names => (4097 - p.names.length, names.length)
decreasing_by
  all_goals
    first
    | exact Prod.Lex.right _ (Nat.lt_succ_self _)
    | -- a directory is entered only if its path is not too long, which bounds the number of names
      have := Path.length_names_le (Store.isLong_of_entry _h)
      refine Prod.Lex.left _ _ ?_
      simp only [Path.join, List.length_append, List.length_singleton] at this ⊢
      omega

/-- Works on the files of a project: a file by itself, or what lies below a directory. -/
def walkProject (work : Work ε α) (blocked : PathFault → ε) (root : Path) (s : Store) (found : α) :
    Store × Except ε α :=
  match s.entry root with
  | .ok (.file _) => if isProjectFile root.name then work root s found else (s, .ok found)
  | .ok (.directory entries) => walk work blocked root (sortedNames entries) s found
  | .error cause => (s, .error (blocked ⟨cause, root.toString⟩))

end Walk

def collect : Work PathFault (List Path) :=
  fun p s files => (s, .ok (files ++ [p]))

/-- The files of a project in the order in which they are worked on. -/
def projectFiles (s : Store) (root : Path) : Except PathFault (List Path) :=
  (walkProject collect id root s []).2

/-- The report on a file: one that fails has a report of its own, unless the fault ends the work. -/
def settle (file : String) : Except Fault Report → Except Fault Report
  | .ok report => .ok report
  | .error (.reported failure) => .ok { file, failures := [("*", failure.notice.message)] }
  | .error fault => .error fault

def generateDetected (parse : Parser) (settings : Settings) (s : Store) (p : Path) :
    Store × Except Fault Report :=
  generateFile parse s p.toString { settings with name := none } none

/-- Works on a file of a project and reports on it. -/
def generateReport (parse : Parser) (settings : Settings) : Work Fault (List Report) :=
  fun p s reports =>
    let done := generateDetected parse settings s p
    (done.1, (settle p.toString done.2).map fun report => reports ++ [report])

def generateProject (parse : Parser) (s : Store) (root : Path) (settings : Settings) :
    Store × Except Fault (List Report) :=
  walkProject (generateReport parse settings) .path root s []

end Batch

end PropTyper
