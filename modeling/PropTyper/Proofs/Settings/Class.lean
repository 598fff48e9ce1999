import PropTyper.Settings.Class
import PropTyper.Text.Lines

/-! # What is known of settings classes

A settings class is no part of the program. What is proved of settings files holds for every class
that does what classes are documented to do, which is stated here, each fact under a name of its own.
-/

namespace PropTyper

namespace Settings

/-- The key is none of the options of a settings class, which all begin with an underscore. -/
def IsSettingKey (key : LooseText) : Prop :=
  key.head? ≠ some (.char '_')

instance (key : LooseText) : Decidable (IsSettingKey key) :=
  inferInstanceAs (Decidable (_ ≠ _))

/-- The members name no file of variables and no directory of secrets. -/
def NamesNoFiles (members : Json.Members) : Prop :=
  ∀ key ∈ ["_env_file", "_secrets_dir"], ∀ v,
    members.lookup (LooseText.ofString key) = some v → v = .null

/-- What the names of variables begin with, unless an option says otherwise. -/
def marker : LooseText := LooseText.ofString "PROPTYPES_"

/-- The variable is the one of a field, in whatever case its name is written. -/
def IsVariableOf (marker : LooseText) (setting : Setting) (name : String) : Prop :=
  LooseText.lower (LooseText.ofString name) =
    LooseText.lower (marker ++ LooseText.ofString setting.key)

def HasNoField (env : Environment) : Prop :=
  ∀ v ∈ env, ∀ setting, ¬ IsVariableOf marker setting v.1

section Fields

variable (checked : Setting → Json → Except SettingFault Json) (chosen : Setting → Option Json)

/-- The report on the value that is chosen for a field, if there is one and the field refuses it. -/
def refusedAt? (setting : Setting) : Option Refusal :=
  (chosen setting).bind fun v =>
    match checked setting v with
    | .ok _ => none
    | .error fault => some ⟨setting, fault, v⟩

def refused (fields : List Setting) : List Refusal :=
  fields.filterMap (refusedAt? checked chosen)

/-- Each field has the checked form of the value that is chosen for it, or else its default. -/
structure Fits (settings : Settings) : Prop where
  taken : ∀ setting v, chosen setting = some v → checked setting v = .ok (settings.value setting)
  left : ∀ setting, chosen setting = none → settings.value setting = value {} setting

end Fields

end Settings

namespace SettingsClass

open Settings

variable (c : SettingsClass)

/-- A dictionary is taken like the arguments that it holds. -/
def TakesDictionaries : Prop :=
  ∀ s env values, c.validate s env values = c.make s env values

/-- Files are looked at only if the values name some. -/
def ReadsNamedFiles : Prop :=
  ∀ s s' env values, NamesNoFiles values → c.make s env values = c.make s' env values

/-- Without values and variables there are the defaults. -/
def HasDefaults : Prop :=
  ∀ s env, HasNoField env → c.make s env [] = .ok {}

/-- What is wrong with values that are no options is that they are refused. -/
def RefusesOnly : Prop :=
  ∀ s env values, (∀ m ∈ values, IsSettingKey m.1) → ∀ rejection,
    c.make s env values = .error rejection → ∃ refusals, rejection = .refused refusals

def secretsOption (directory : String) : Json.Members :=
  [(LooseText.ofString "_secrets_dir", .str (LooseText.ofString directory))]

/-- A path that begins with a tilde, which stands for a home directory. -/
def startsAtHome (p : Path) : Bool :=
  p.names.head?.any fun first => first.toList.head? = some '~'

/-- How a directory of secrets is used. -/
structure ReadsSecrets : Prop where
  /-- One that is not there holds no values. -/
  absent : ∀ s directory, startsAtHome (Path.ofString directory) = false →
    s.entry (Path.ofString directory) = .error .notFound → c.make s [] (secretsOption directory) = .ok {}
  /-- In one that is there a file with the name of a variable holds its value, and a text without a
  digit is no width. -/
  refused : ∀ s directory bytes text, startsAtHome (Path.ofString directory) = false →
    s.entry (Path.ofString directory) = .ok (.directory [("proptypes_tab_width", .file bytes)]) →
    Text.ofFile bytes = .ok text → (text.toList.all fun ch => !ch.isDigit) = true →
    ∃ refusals, c.make s [] (secretsOption directory) = .error (.refused refusals)

/-- How values are resolved: `checked` is what the fields say of values one by one, `check` what they
say of all that have been chosen, and `exported` what the environment has for a field under names that
begin in a certain way. -/
structure Resolves (check : (Setting → Option Json) → Except (List Refusal) Settings)
    (checked : Setting → Json → Except SettingFault Json)
    (exported : LooseText → Environment → Setting → Option Json) : Prop where
  /-- A given value goes before that of the environment. -/
  precedence : ∀ s env values, (∀ m ∈ values, IsSettingKey m.1) → c.make s env values =
    (check fun setting =>
      (values.lookup (LooseText.ofString setting.key)).or (exported marker env setting)).mapError
        .refused
  /-- An option changes what the names of variables begin with. -/
  marked : ∀ s env other, c.make s env [(LooseText.ofString "_env_prefix", .str other)] =
    (check (exported other env)).mapError .refused
  accepts : ∀ chosen settings, check chosen = .ok settings ↔ Fits checked chosen settings
  refuses : ∀ chosen refusals, check chosen = .error refusals ↔
    refusals = refused checked chosen Setting.all ∧ refusals ≠ []
  /-- What a field holds is taken as it is. -/
  keeps : ∀ settings setting, checked setting (value settings setting) = .ok (value settings setting)
  unnamed : ∀ other env setting, (∀ v ∈ env, ¬ IsVariableOf other setting v.1) →
    exported other env setting = none
  named : ∀ other env setting v, v ∈ env → IsVariableOf other setting v.1 →
    (∀ w ∈ env, IsVariableOf other setting w.1 → w = v) →
    exported other env setting = some (.str v.2)

end SettingsClass

end PropTyper
