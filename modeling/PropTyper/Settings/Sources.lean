import PropTyper.Settings.Class
import PropTyper.Settings.Layers

/-! # Where settings come from

Some keys among given values are no settings. They say how variables are read, and which files and
directories hold further values below those of the environment.
-/

namespace PropTyper

/-- What further layers are made of. -/
structure Sources where
  rules : VariableRules := {}
  /-- Files of variables; of several the last counts. -/
  variableFiles : List String := []
  /-- Directories in which a file named like a variable holds the value; of several the last
  counts. -/
  secretDirectories : List String := []
deriving Repr, Inhabited

namespace Json

/-- Whether a value counts as yes. -/
def isTruthy : Json → Bool
  | null => false
  | bool b => b
  | int n => n ≠ 0
  | float x => x.toInt? ≠ some 0
  | str s => !s.isEmpty
  | list items => !items.isEmpty
  | object members => !members.isEmpty

/-- The paths that a value names: one, or a list of them. -/
def paths? : Json → Option (List String)
  | str s => some [s.filled]
  | list items =>
    items.mapM fun item =>
      match item with
      | str s => some s.filled
      | _ => none
  | object members => some (members.map fun m => m.1.filled)
  | _ => none

end Json

namespace Sources

/-- The name that values are given to. -/
def selfKey : String := "__pydantic_self__"

/-- A value under a key; null is none. -/
def option? (given : Json.Members) (key : String) : Option Json :=
  match given.lookup (LooseText.ofString key) with
  | some .null => none
  | found => found

def flag (given : Json.Members) (key : String) : Bool :=
  ((option? given key).map Json.isTruthy).getD false

def marker (given : Json.Members) : Except Misfit LooseText :=
  match option? given "_env_prefix" with
  | none => .ok (VariableRules.marker {})
  | some (.str s) => .ok s
  | some _ => .error ⟨"_env_prefix"⟩

def nullText (given : Json.Members) : Option LooseText :=
  match option? given "_env_parse_none_str" with
  | some (.str s) => some s
  | _ => none

/-- A limit that has to be a number, although nothing depends on it. -/
def checkLimit (given : Json.Members) : Except Misfit Unit :=
  match option? given "_env_nested_max_split" with
  | none | some (.bool _) | some (.int _) | some (.float _) => .ok ()
  | some v => if v.isTruthy then .error ⟨"_env_nested_max_split"⟩ else .ok ()

def paths (given : Json.Members) (key : String) : Except Misfit (List String) :=
  match option? given key with
  | none => .ok []
  | some v =>
    match v.paths? with
    | some paths => .ok paths
    | none => .error ⟨key⟩

/-- The sources that given values speak of. -/
def of (given : Json.Members) : Except Misfit Sources := do
  if (given.lookup (LooseText.ofString selfKey)).isSome then throw ⟨selfKey⟩
  let marker ← marker given
  checkLimit given
  let variableFiles ← paths given "_env_file"
  let secretDirectories ← paths given "_secrets_dir"
  return {
    rules :=
      { marker
        exactCase := flag given "_case_sensitive"
        skipEmpty := flag given "_env_ignore_empty"
        nullText := nullText given
        capitalChoices := flag given "_env_parse_enums" }
    variableFiles, secretDirectories }

end Sources

end PropTyper
