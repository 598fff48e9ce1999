import PropTyper.Text.Loose

/-! # Generator settings

How declarations are written. `Settings` holds checked values only; the layers they come from are
in `Settings.Layers`.
-/

namespace PropTyper

/-- Where a declaration stands: as an assignment after the component, or as a static field. -/
inductive CodeStyle where
  | assignment
  | field
deriving DecidableEq, Repr, Inhabited

inductive QuoteStyle where
  | single
  | double
deriving DecidableEq, Repr, Inhabited

/-- The two ways in which a file brings in another module. -/
inductive ModuleStyle where
  | imports
  | requires
deriving DecidableEq, Repr, Inhabited

structure Settings where
  /-- The component to work on; without it, all that a file defines. -/
  name : Option LooseText := none
  /-- The name that a declaration of types goes by. -/
  label : LooseText := LooseText.ofString "propTypes"
  /-- The style for class components that have no declaration yet. -/
  codeStyle : Option CodeStyle := none
  autoImport : Bool := true
  quote : QuoteStyle := .single
  tabWidth : Int := 2
  withDefaults : Bool := false
deriving DecidableEq, Repr, Inhabited

def QuoteStyle.char : QuoteStyle → Char
  | single => '\x27'
  | double => '\x22'

namespace Settings

/-- One level of indentation; a negative width counts as none. -/
def indentUnit (settings : Settings) : String :=
  String.ofList (List.replicate settings.tabWidth.toNat ' ')

/-- The name of the component to work on, unless it is empty. -/
def component? (settings : Settings) : Option LooseText :=
  settings.name.filter (· ≠ [])

/-- The label as it is written, which it cannot be if it has a half. -/
def labelText (settings : Settings) : String :=
  settings.label.filled

def quoteChar (settings : Settings) : Char :=
  settings.quote.char

end Settings

end PropTyper
