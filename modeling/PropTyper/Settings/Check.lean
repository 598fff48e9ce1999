import PropTyper.Settings.Field
import PropTyper.Settings.Numeral

/-! # Checking settings

Settings come as loose values from files, variables and arguments. Each is checked by itself, and
all faults are reported together in the order of the fields.
-/

namespace PropTyper

abbrev Checked (α : Type) := Except SettingFault α

namespace Checked

def text : Json → Checked LooseText
  | .str s => .ok s
  | _ => .error .notText

def optionalText : Json → Checked (Option LooseText)
  | .null => .ok none
  | .str s => .ok (some s)
  | _ => .error .notText

def wholeText {α : Type} (use : String → Checked α) (s : LooseText) : Checked α :=
  match s.toString? with
  | some text => use text
  | none => .error .notUnicode

def choice {α : Type} (first second : String × α) : Json → Checked α
  | .str s => s |> wholeText fun word =>
    if word = first.1 then .ok first.2
    else if word = second.1 then .ok second.2
    else .error (.notChoice first.1 second.1)
  | _ => .error (.notChoice first.1 second.1)

def optionalChoice {α : Type} (first second : String × α) : Json → Checked (Option α)
  | .null => .ok none
  | v =>
    match choice first second v with
    | .ok a => .ok (some a)
    | .error fault => .error fault

def numeral (text : String) : Checked Int :=
  match Numeral.read text.toList with
  | .ok n => .ok n
  | .error .malformed => .error .notNumeral
  | .error .tooLong => .error .tooLarge

/-- Two to the power of 63, past the largest signed word. -/
def wordBound : Int := 9223372036854775808

/-- Fractions are taken for whole numbers only where they are small enough to be exact words. -/
def isWordSized (n : Int) : Bool :=
  -wordBound < n && n < wordBound

def integer : Json → Checked Int
  | .int n => .ok n
  | .bool b => .ok (if b then 1 else 0)
  | .float x =>
    if x.isNaN || x.isInfinite then .error .notFinite
    else
      match x.toInt? with
      | none => .error .notWhole
      | some n => if isWordSized n then .ok n else .error .tooLarge
  | .str s => wholeText numeral s
  | _ => .error .notInteger

def trueWords : List String := ["1", "on", "t", "true", "y", "yes"]

def falseWords : List String := ["0", "off", "f", "false", "n", "no"]

/-- Words are read without regard to the case of ASCII letters. -/
def truthWord (text : String) : Checked Bool :=
  let word := String.ofList (text.toList.map Char.toLower)
  if trueWords.contains word then .ok true
  else if falseWords.contains word then .ok false
  else .error .notTruthWord

def truthNumber (n : Int) : Checked Bool :=
  if n = 0 then .ok false else if n = 1 then .ok true else .error .notTruthWord

def truth : Json → Checked Bool
  | .bool b => .ok b
  | .str s => wholeText truthWord s
  | .int n => if -wordBound ≤ n && n < wordBound then truthNumber n else .error .notTruth
  | .float x =>
    match x.toInt? with
    | none => .error .notTruth
    | some n => if isWordSized n then truthNumber n else .error .notTruth
  | _ => .error .notTruth

end Checked

namespace Settings

def checkCodeStyle : Json → Checked (Option CodeStyle) :=
  Checked.optionalChoice ("default", .assignment) ("class", .field)

def checkAutoImport : Json → Checked Bool :=
  Checked.choice ("enable", true) ("disable", false)

def checkQuote : Json → Checked QuoteStyle :=
  Checked.choice ("single", .single) ("double", .double)

/-- Settings with one value put in; the value is checked. -/
def set (settings : Settings) (setting : Setting) (v : Json) : Checked Settings :=
  match setting with
  | .name => (Checked.optionalText v).map fun name => { settings with name }
  | .label => (Checked.text v).map fun label => { settings with label }
  | .codeStyle => (checkCodeStyle v).map fun codeStyle => { settings with codeStyle }
  | .autoImport => (checkAutoImport v).map fun autoImport => { settings with autoImport }
  | .quote => (checkQuote v).map fun quote => { settings with quote }
  | .tabWidth => (Checked.integer v).map fun tabWidth => { settings with tabWidth }
  | .withDefaults => (Checked.truth v).map fun withDefaults => { settings with withDefaults }

/-- Puts in the value chosen for a field, or notes why it is refused. -/
def addChecked (chosen : Setting → Option Json) (acc : Settings × List Refusal)
    (setting : Setting) : Settings × List Refusal :=
  match chosen setting with
  | none => acc
  | some v =>
    match acc.1.set setting v with
    | .ok settings => (settings, acc.2)
    | .error fault => (acc.1, acc.2 ++ [⟨setting, fault, v⟩])

/-- The settings with the chosen values, and defaults where none is chosen. -/
def check (chosen : Setting → Option Json) : Except (List Refusal) Settings :=
  match Setting.all.foldl (addChecked chosen) ({}, []) with
  | (settings, []) => .ok settings
  | (_, refusals) => .error refusals

end Settings

end PropTyper
