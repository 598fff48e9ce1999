import PropTyper.Files.Store
import PropTyper.Settings.Keys
import PropTyper.Text.Utf8

/-! # Settings classes

Settings are made of values by a settings class, which is no part of the program: the program hands
it the values of the settings file and of the arguments, and the class looks at the environment, and
at further files where the values name some.
-/

namespace PropTyper

/-- An argument of this name cannot be given, or not with such a value. -/
structure Misfit where
  key : String
deriving DecidableEq, Repr, Inhabited

/-- Why a settings class makes no settings: values are refused, or it breaks off. -/
inductive Rejection where
  | refused (refusals : List Refusal)
  | misfit (argument : Misfit)
  | path (fault : PathFault)
  | undecodable (fault : Text.Utf8.Fault)
  /-- Something else is where a directory of values should be. -/
  | notDirectory
deriving Repr, Inhabited

/-- What makes settings of values, which it takes as arguments or as one dictionary. -/
structure SettingsClass where
  make : Store → Environment → Json.Members → Except Rejection Settings
  validate : Store → Environment → Json.Members → Except Rejection Settings

namespace Settings

/-- The key under which arguments name a settings file. It is no argument itself. -/
def fileKey : String := "config_file"

/-- Arguments that can be given by their names. -/
def checkArguments (taken : String) (arguments : Json.Members) : Except Misfit Unit :=
  if (arguments.lookup (LooseText.ofString taken)).isSome then .error ⟨taken⟩ else .ok ()

/-- The settings with some fields changed, if the changes can be given at all; null is a value like
any other. -/
def derive (settings : Settings) (c : SettingsClass) (s : Store) (env : Environment)
    (changes : Json.Members) : Except Rejection Settings :=
  match checkArguments "self" changes with
  | .error misfit => .error (.misfit misfit)
  | .ok _ =>
    c.validate s env (changes.foldl (fun all m => Json.setMember m.1 m.2 all) settings.dump)

end Settings

end PropTyper
