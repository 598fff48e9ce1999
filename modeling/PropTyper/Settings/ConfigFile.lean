import PropTyper.Failure
import PropTyper.Json.Printer
import PropTyper.Text.Lines

/-! # The settings file

Settings are kept as a JSON object. It is read, and written over by a merge of old and new values,
which are checked first.
-/

namespace PropTyper

namespace ConfigFile

/-- The place of the file if no other is named. -/
def defaultPath : Path := Path.ofString "home/.proptypes/setting.json"

/-- The variable that names another place. -/
def pathVariable : String := "PROPTYPES_CONFIG_FILE"

/-- The path that is asked for, else that of the environment, else the default one. -/
def path (env : Environment) (asked : Option String) : Path :=
  if Filled asked then Path.ofString (asked.getD "")
  else
    let named := env.get? pathVariable
    if Filled named then Path.ofString (named.getD "") else defaultPath

/-- The members that a settings text has; a blank text has none. -/
def parse (raw source : String) : Except Fault Json.Members :=
  let text := raw.toList
  let malformed (reason : String) : Fault := .reported (.config (.malformed source reason))
  if Text.isAllBlank raw then .ok []
  else
    match Json.parse text with
    | .ok (.object members) => .ok (Settings.snakeMembers members)
    | .ok _ => .error (malformed "expected a JSON object")
    | .error fault =>
      match fault.expected with
      | .fewerDigits _ => .error (.numeral fault)
      | _ => .error (malformed (fault.message text))

/-- The members in the settings file; none if there is no file. -/
def read (s : Store) (p : Path) : Except Fault Json.Members :=
  match s.entry p with
  | .error .tooLong => .error (.path ⟨.tooLong, p.toString⟩)
  | .error _ => .ok []
  | .ok _ =>
    match s.read p with
    | .error fault => .error (.ofPath (fun f => .config (.unreadable p.toString f)) fault)
    | .ok bytes =>
      match Text.ofFile bytes with
      | .error fault => .error (.undecodable fault)
      | .ok raw => parse raw p.toString

def merged (old new : Json.Members) : Json.Members :=
  (Settings.snakeMembers new).foldl (fun all m => Json.setMember m.1 m.2 all) old

/-- Writes members to the place of the file, for which directories are made. -/
def save (s : Store) (p : Path) (members : Json.Members) : Store × Except Fault Unit :=
  let unwritable (fault : PathFault) : Except Fault Unit :=
    .error (.ofPath (fun f => .config (.unwritable p.toString f)) fault)
  match s.ensureDirectories p.parent with
  | (s, some fault) => (s, unwritable fault)
  | (s, none) =>
    if !(Json.object members).all Json.isShort then (s, .error .overlong)
    else
      match s.write p (Text.Utf8.encode (Json.print .ascii (.object members))) with
      | .ok s => (s, .ok ())
      | .error fault => (s, unwritable fault)

/-- Merges values into the file, unless the result would not be good settings. -/
def write (c : SettingsClass) (s : Store) (env : Environment) (p : Path) (values : Json.Members) :
    Store × Except Fault Unit :=
  match read s p with
  | .error fault => (s, .error fault)
  | .ok old =>
    let members := merged old values
    match c.validate s env members with
    | .error rejection => (s, .error (.ofRejection rejection))
    | .ok _ => save s p members

def load (c : SettingsClass) (s : Store) (env : Environment) (asked : Option String)
    (overrides : Json.Members) : Except Fault Settings :=
  match Settings.checkArguments Settings.fileKey overrides with
  | .error misfit => .error (.misfit misfit)
  | .ok _ =>
    match read s (path env asked) with
    | .error fault => .error fault
    | .ok file =>
      match c.make s env (Settings.override file overrides) with
      | .error rejection => .error (.ofRejection rejection)
      | .ok settings => .ok settings

end ConfigFile

end PropTyper
