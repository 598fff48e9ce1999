import PropTyper.Json.Basic
import PropTyper.Settings.Basic

/-! # The fields of the settings

What the fields are called, what they hold as loose values, and what is said of a value that a field
refuses.
-/

namespace PropTyper

inductive Setting where
  | name | label | codeStyle | autoImport | quote | tabWidth | withDefaults
deriving DecidableEq, Repr, Inhabited

def Setting.key : Setting → String
  | name => "name"
  | label => "alias"
  | codeStyle => "code_style"
  | autoImport => "auto_import"
  | quote => "quote"
  | tabWidth => "tab_width"
  | withDefaults => "with_defaults"

/-- The words that a field can have, if it is a choice. -/
def Setting.choices : Setting → List String
  | codeStyle => ["default", "class"]
  | autoImport => ["enable", "disable"]
  | quote => ["single", "double"]
  | _ => []

def Setting.all : List Setting :=
  [name, label, codeStyle, autoImport, quote, tabWidth, withDefaults]

inductive SettingFault where
  | notText
  | notUnicode
  | notChoice (first second : String)
  | notWhole
  | notNumeral
  | tooLarge
  | notFinite
  | notInteger
  | notTruthWord
  | notTruth
deriving DecidableEq, Repr, Inhabited

namespace SettingFault

/-- The short name of a fault. -/
def label : SettingFault → String
  | notText => "string_type"
  | notUnicode => "string_unicode"
  | notChoice _ _ => "enum"
  | notWhole => "int_from_float"
  | notNumeral => "int_parsing"
  | tooLarge => "int_parsing_size"
  | notFinite => "finite_number"
  | notInteger => "int_type"
  | notTruthWord => "bool_parsing"
  | notTruth => "bool_type"

def choices? : SettingFault → Option String
  | notChoice first second => some ("'" ++ first ++ "' or '" ++ second ++ "'")
  | _ => none

def message : SettingFault → String
  | notText => "Input should be a valid string"
  | notUnicode =>
    "Input should be a valid string, unable to parse raw data as a unicode string"
  | notChoice first second => "Input should be '" ++ first ++ "' or '" ++ second ++ "'"
  | notWhole => "Input should be a valid integer, got a number with a fractional part"
  | notNumeral => "Input should be a valid integer, unable to parse string as an integer"
  | tooLarge => "Unable to parse input string as an integer, exceeded maximum size"
  | notFinite => "Input should be a finite number"
  | notInteger => "Input should be a valid integer"
  | notTruthWord => "Input should be a valid boolean, unable to interpret input"
  | notTruth => "Input should be a valid boolean"

end SettingFault

structure Refusal where
  setting : Setting
  fault : SettingFault
  input : Json
deriving Repr, Inhabited

namespace Settings

def codeStyleWord : CodeStyle → String
  | .assignment => "default"
  | .field => "class"

def autoImportWord (enabled : Bool) : String :=
  if enabled then "enable" else "disable"

def quoteWord : QuoteStyle → String
  | .single => "single"
  | .double => "double"

def value (settings : Settings) : Setting → Json
  | .name => (settings.name.map fun name => Json.str name).getD .null
  | .label => .str settings.label
  | .codeStyle => (settings.codeStyle.map fun style => Json.str (codeStyleWord style)).getD .null
  | .autoImport => .str (autoImportWord settings.autoImport)
  | .quote => .str (quoteWord settings.quote)
  | .tabWidth => .int settings.tabWidth
  | .withDefaults => .bool settings.withDefaults

/-- The settings as members under the keys of the fields. -/
def dump (settings : Settings) : Json.Members :=
  Setting.all.map fun setting => (LooseText.ofString setting.key, settings.value setting)

end Settings

end PropTyper
