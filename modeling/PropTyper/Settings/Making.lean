import PropTyper.Settings.Sources
import PropTyper.Settings.Variables
import PropTyper.Text.Lines

/-! # Making settings

The settings class that commands run with. Given values come first, then the environment, then files
of variables and directories of secrets, where given values name some.
-/

namespace PropTyper

namespace Sources

/-- A path in which a tilde stands for the home directory. -/
def expanded (path : String) : Path :=
  let p := Path.ofString path
  match p.names with
  | "~" :: rest => { p with names := "home" :: rest }
  | _ => p

/-- The variables that a file states; none if there is no such file. -/
def statedIn (s : Store) (env : Environment) (path : String) : Except Rejection Variables :=
  let p := expanded path
  match s.entry p with
  | .error .tooLong => .error (.path ⟨.tooLong, p.toString⟩)
  | .ok (.file bytes) =>
    match Text.ofFile bytes with
    | .error fault => .error (.undecodable fault)
    | .ok text => .ok (Variables.parse env text)
  | _ => .ok []

/-- What the files of a directory hold for settings; nothing if there is no such directory. -/
def secretsIn (s : Store) (rules : VariableRules) (path : String) : Except Rejection Layer :=
  let p := expanded path
  match s.entry p with
  | .error .tooLong => .error (.path ⟨.tooLong, p.toString⟩)
  | .error _ => .ok fun _ => none
  | .ok (.file _) => .error .notDirectory
  | .ok (.directory entries) =>
    .ok fun setting =>
      match entries.find? fun e => rules.isFor setting e.1 with
      | some (_, .file bytes) =>
        match Text.ofFile bytes with
        | .ok text => some (.str (String.ofList (Text.trim text.toList)))
        | .error _ => none
      | _ => none

/-- The layers below given values: the environment, files of variables, secrets. -/
def layers (sources : Sources) (s : Store) (env : Environment) : Except Rejection (List Layer) := do
  let files ← sources.variableFiles.mapM (statedIn s env)
  let secrets ← sources.secretDirectories.mapM (secretsIn s sources.rules)
  return [sources.rules.layer env.toVariables, sources.rules.layer files.flatten] ++ secrets.reverse

end Sources

def Settings.ofSources (s : Store) (env : Environment) (given : Json.Members) :
    Except Rejection Settings := do
  let sources ← (Sources.of given).mapError .misfit
  let below ← sources.layers s env
  (Settings.layered given below).mapError .refused

/-- The settings class that commands run with. -/
def SettingsClass.ofSources : SettingsClass :=
  ⟨Settings.ofSources, Settings.ofSources⟩

end PropTyper
