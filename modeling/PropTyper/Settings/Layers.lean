import PropTyper.Settings.Check
import PropTyper.Settings.Keys

/-! # Layers of settings

A field takes its value from the first layer that has one: given values, the environment, files of
variables, secrets, and last the defaults.
-/

namespace PropTyper

/-- Variables as a file may state them: one that is only named has no value. -/
abbrev Variables := List (String × Option String)

def Environment.toVariables (env : Environment) : Variables :=
  env.map fun v => (v.1, some v.2)

abbrev Layer := Setting → Option Json

/-- How variables supply settings. -/
structure VariableRules where
  /-- What the variable of a field begins with. -/
  marker : LooseText := LooseText.ofString "PROPTYPES_"
  /-- Names count only in the case in which they are asked for. -/
  exactCase : Bool := false
  /-- Empty texts do not count. -/
  skipEmpty : Bool := false
  /-- A text that stands for null. -/
  nullText : Option LooseText := none
  /-- One of several words may also be written in capitals. -/
  capitalChoices : Bool := false
deriving DecidableEq, Repr, Inhabited

namespace VariableRules

/-- Whether a variable is the one of a field. -/
def isFor (rules : VariableRules) (setting : Setting) (name : String) : Bool :=
  let own := rules.marker ++ LooseText.ofString setting.key
  if rules.exactCase then LooseText.ofString name = own
  else LooseText.lower (LooseText.ofString name) = LooseText.lower own

def value (rules : VariableRules) (setting : Setting) (text : String) : Json :=
  match setting.choices.find? fun word => rules.capitalChoices && word.toUpper = text with
  | some word => .str word
  | none => if rules.nullText = some (LooseText.ofString text) then .null else .str text

/-- The layer of some variables. Of several for one field the last counts. -/
def layer (rules : VariableRules) (stated : Variables) : Layer := fun setting =>
  let own := stated.filter fun v =>
    !(rules.skipEmpty && v.2 = some "") && rules.isFor setting v.1
  match own.getLast? with
  | some (_, some text) => some (rules.value setting text)
  | _ => none

end VariableRules

namespace Settings

def givenLayer (given : Json.Members) : Layer := fun setting =>
  given.lookup (LooseText.ofString setting.key)

/-- The value of a field in the first layer that has one. -/
def chosen (layers : List Layer) : Layer := fun setting =>
  layers.findSome? fun layer => layer setting

def layered (given : Json.Members) (below : List Layer) : Except (List Refusal) Settings :=
  check (chosen (givenLayer given :: below))

end Settings

end PropTyper
