import PropTyper.Command.Arguments
import PropTyper.Console.Emphasis
import PropTyper.Console.Table
import PropTyper.Workspace

/-! # Running commands

A command works on the files of a workspace and leaves them, an exit code and what it prints.
-/

namespace PropTyper

namespace Command

/-- What ends a command without a report. -/
inductive Breakdown where
  | fault (fault : Fault)
  | threshold (fault : Journal.ThresholdFault)
  | markup (fault : Console.MarkupFault)
  /-- A text with half a character cannot be printed. -/
  | unprintable
deriving Repr, Inhabited

structure Outcome where
  store : Store
  exitCode : Nat := 0
  lines : List String := []
  breakdown : Option Breakdown := none
deriving Inhabited

/-- Prints one marked text after what has been printed. A fault ends the command. -/
def Outcome.print (o : Outcome) (marked : String) : Outcome :=
  match o.breakdown with
  | some _ => o
  | none =>
    match Console.shown marked with
    | .ok shown => { o with lines := o.lines ++ Console.printed shown.cuts shown.text }
    | .error fault => { o with exitCode := 1, breakdown := some (.markup fault) }

def Outcome.printed (s : Store) (exitCode : Nat) (marked : List String) : Outcome :=
  marked.foldl Outcome.print { store := s, exitCode }

/-- Prints one marked text, unless it has a half. -/
def Outcome.printLoose (o : Outcome) (marked : Option String) : Outcome :=
  match o.breakdown, marked with
  | none, none => { o with exitCode := 1, breakdown := some .unprintable }
  | _, _ => o.print (marked.getD "")

def Outcome.broken (s : Store) (b : Breakdown) : Outcome :=
  { store := s, exitCode := 1, breakdown := some b }

def errorLine (failure : Failure) : String :=
  "[red]Error:[/red] " ++ Console.escape failure.notice.text

/-- A fault under a command: what can be reported is printed, all else breaks it off. -/
def Outcome.failed (s : Store) (line : Failure → String) : Fault → Outcome
  | .reported failure => .printed s 1 [line failure]
  | fault => .broken s (.fault fault)

/-- The arguments that go over the settings file. -/
def Options.overrides (o : Options) (name : Option String) : Json.Members :=
  [(Setting.name.key, (name.map fun name => Json.str name).getD .null),
    (Setting.codeStyle.key, (o.codeStyle.map fun c => Json.str (Settings.codeStyleWord c)).getD .null),
    (Setting.autoImport.key,
      if o.noAutoImport then .str (Settings.autoImportWord false) else .null),
    (Setting.withDefaults.key, if o.withDefaults then .bool true else .null),
    (Setting.quote.key, (o.quote.map fun q => Json.str (Settings.quoteWord q)).getD .null)]

def Options.settings (o : Options) (w : Workspace) (name : Option String) : Except Fault Settings :=
  ConfigFile.load w.settingsClass w.store w.env o.configFile (o.overrides name)

def Options.threshold (o : Options) (w : Workspace) : Except Journal.ThresholdFault Nat :=
  w.words.thresholdOf w.env (if o.verbose then some "DEBUG" else none)

/-- The lines of a report; none in the place of one that has a half. -/
def reportLines (r : Report) : List (Option String) :=
  r.generated.map (fun g =>
    some ("[green]" ++ Console.escape g.file ++ " Generated Success![/green] [dim](" ++ g.component ++
      ")[/dim]")) ++
    r.failures.map fun f =>
      f.1.toString?.map fun name =>
        "[red]" ++ Console.escape r.file ++ ": " ++ Console.escape name ++ ": " ++
          Console.escape f.2 ++ "[/red]"

def generate (w : Workspace) (file : String) (name : Option String) (o : Options) : Outcome :=
  match o.threshold w with
  | .error fault => .broken w.store (.threshold fault)
  | .ok _ =>
    match o.settings w name with
    | .error fault => .failed w.store errorLine fault
    | .ok settings =>
      match Batch.generateFile w.parse w.store (Path.ofString file).toString settings none with
      | (s, .error fault) => .failed s errorLine fault
      | (s, .ok report) =>
        (reportLines report).foldl Outcome.printLoose
          { store := s, exitCode := if report.generated.isEmpty then 1 else 0 }

def reportRow (r : Report) : List String :=
  [Console.escape r.file, toString r.generated.length, toString r.failures.length,
    if r.isOk then "[green]ok[/green]" else "[red]failed[/red]"]

def reportTable (reports : List Report) : Except Console.MarkupFault Console.Table :=
  match reports.mapM fun r => (reportRow r).mapM Console.plain with
  | .error fault => .error fault
  | .ok rows =>
    .ok
      { title := "prop-types"
        columns := [⟨"File", .left⟩, ⟨"Generated", .right⟩, ⟨"Failed", .right⟩, ⟨"Status", .left⟩]
        rows }

def summaryLine (reports : List Report) : String :=
  "\n[bold]" ++ toString (total (reports.map (·.generated.length))) ++ "[/bold] component(s) generated in " ++
    toString reports.length ++ " file(s)"

def project (w : Workspace) (directory : String) (o : Options) : Outcome :=
  match o.threshold w with
  | .error fault => .broken w.store (.threshold fault)
  | .ok _ =>
    match o.settings w none with
    | .error fault => .failed w.store errorLine fault
    | .ok settings =>
      match Batch.generateProject w.parse w.store (Path.ofString directory) settings with
      | (s, .error fault) => .broken s (.fault fault)
      | (s, .ok reports) =>
        match reportTable reports with
        | .error fault => .broken s (.markup fault)
        | .ok table => Outcome.print { store := s, lines := table.lines } (summaryLine reports)

def splitLines (text : String) : List String :=
  text.splitOn "\n"

def Outcome.printFile (o : Outcome) (p : Path) : Outcome :=
  match ConfigFile.read o.store p with
  | .error fault => { o with exitCode := 1, breakdown := some (.fault fault) }
  | .ok members =>
    let document := Json.object members
    if document.hasHalf then { o with exitCode := 1, breakdown := some .unprintable }
    else { o with lines := o.lines ++ splitLines (Json.print .unicode document) }

def config (w : Workspace) (file : String) (configFile : Option String) : Outcome :=
  let target := ConfigFile.path w.env configFile
  let failureLine (failure : Failure) : String :=
    "[red]" ++ Console.escape failure.notice.text ++ "[/red]"
  match w.store.read (Path.ofString file) with
  | .error fault =>
    if fault.isEarly then .broken w.store (.fault (.path fault))
    else .printed w.store 1
      ["[red]Error:[/red] cannot read " ++ Console.escape file ++ ": " ++
        Console.escape fault.message]
  | .ok bytes =>
    match Text.ofFile bytes with
    | .error fault => .broken w.store (.fault (.undecodable fault))
    | .ok raw =>
      match ConfigFile.parse raw file with
      | .error fault => .failed w.store failureLine fault
      | .ok values =>
        match ConfigFile.write w.settingsClass w.store w.env target values with
        | (s, .error fault) => .failed s failureLine fault
        | (s, .ok ()) =>
          let first := Outcome.printed s 0
            ["[green]Write Config Success[/green] [dim]" ++ Console.escape target.toString ++
              "[/dim]"]
          first.printFile target

/-- Runs a command line. One that is not well-formed changes nothing and ends with code 2. -/
def run (w : Workspace) (args : List String) : Outcome :=
  match request? false args with
  | none => { store := w.store, exitCode := 2 }
  | some .help => { store := w.store }
  | some (.generate file name o) => generate w file name o
  | some (.project directory o) => project w directory o
  | some (.config file configFile) => config w file configFile

end Command

end PropTyper
