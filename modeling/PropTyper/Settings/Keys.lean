import PropTyper.Settings.Field
import PropTyper.Text.Case

/-! # Values under the keys of settings

Values come from the environment, from the settings file under keys of more than one form, and from
arguments. Those of the file are brought under keys of one form, and those of the arguments go over
them.
-/

namespace PropTyper

/-- Environment variables, in the order in which they were set. -/
abbrev Environment := List (String × String)

namespace Environment

def get? (env : Environment) (name : String) : Option String :=
  env.lookup name

def set (env : Environment) (name value : String) : Environment :=
  Json.setMember name value env

def unset (env : Environment) (name : String) : Environment :=
  env.filter fun v => v.1 ≠ name

end Environment

namespace Settings

def isCapital : Sign → Bool
  | .char c => 'A' ≤ c && c ≤ 'Z'
  | .half _ => false

/-- An underscore before each capital letter of ASCII but the first character, then lower case. -/
def snakeKey (key : LooseText) : LooseText :=
  match key with
  | [] => []
  | first :: rest =>
    LooseText.lower (first :: rest.flatMap fun s => if isCapital s then [.char '_', s] else [s])

/-- Members under keys of one form; of equal ones the last counts, in the place of the first. -/
def snakeMembers (members : Json.Members) : Json.Members :=
  Json.distinctMembers (members.map fun m => (snakeKey m.1, m.2))

/-- Arguments that are given, over what the file has. -/
def override (file overrides : Json.Members) : Json.Members :=
  overrides.foldl
    (fun all o =>
      match o.2 with
      | .null => all
      | v => Json.setMember o.1 v all)
    file

end Settings

end PropTyper
