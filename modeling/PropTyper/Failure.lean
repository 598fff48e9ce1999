import PropTyper.Component.Analysis
import PropTyper.Edit.Splice
import PropTyper.Files.Store
import PropTyper.Json.Reader
import PropTyper.Notice.Literal
import PropTyper.Settings.Class

/-! # Failures

What can go wrong, by its cause. `Failure` is what the program reports and, in a batch, goes on
after; `Fault` adds what ends it.
-/

namespace PropTyper

inductive ReadCause where
  | path (fault : PathFault)
  | undecodable (fault : Text.Utf8.Fault)
  | empty
deriving DecidableEq, Repr, Inhabited

inductive ConfigFailure where
  | unreadable (path : String) (fault : PathFault)
  | malformed (source reason : String)
  | invalid (refusals : List Refusal)
  | unwritable (path : String) (fault : PathFault)
deriving Repr, Inhabited

inductive Failure where
  | inference (failure : InferenceFailure)
  | unreadable (path : String) (cause : ReadCause)
  | unwritable (path : String) (fault : PathFault)
  | undetectedLanguage (path : String)
  | unsupportedLanguage (language : String)
  | config (failure : ConfigFailure)
deriving Repr, Inhabited

inductive Fault where
  | reported (failure : Failure)
  | edit (fault : Edit.Fault)
  | undecodable (fault : Text.Utf8.Fault)
  | numeral (fault : Json.Fault)
  /-- A whole number has too many digits to be written. -/
  | overlong
  | path (fault : PathFault)
  | misfit (argument : Misfit)
  /-- A text with half a character cannot be written. -/
  | unencodable (text : LooseText)
  /-- Values of settings are looked for in something else than a directory. -/
  | notDirectory
deriving Repr, Inhabited

/-- The families of failures, from the general to the special. -/
inductive Family where
  | any
  | inference | componentNotFound | noProperties
  | source | read | write | language
  | config
deriving DecidableEq, Repr, Inhabited

/-- A family and all that it belongs to, the most general last. -/
def Family.lineage : Family → List Family
  | any => [any]
  | inference => [inference, any]
  | componentNotFound => [componentNotFound, inference, any]
  | noProperties => [noProperties, inference, any]
  | source => [source, any]
  | read => [read, source, any]
  | write => [write, source, any]
  | language => [language, source, any]
  | config => [config, any]

def InferenceFailure.notice : InferenceFailure → Notice
  | notNamed file => ⟨"No component name given", [("file_path", .text file)]⟩
  | notFound name file =>
    ⟨"The selected text is not a valid React Component !",
      [("name", .text name), ("file_path", .text file)]⟩
  | noProperties file name =>
    ⟨"Not find any props",
      ("file_path", .text file) :: (name.map (Literal.textOf "name")).toList⟩

def ReadCause.message : ReadCause → String
  | path fault => fault.message
  | undecodable fault => fault.message
  | empty => "empty file"

def Refusal.literal (r : Refusal) : Literal :=
  let choices := r.fault.choices?.map fun c => Literal.record [Literal.textOf "expected" c]
  .record
    ([Literal.textOf "type" r.fault.label, ("loc", .tuple [.text r.setting.key]),
      Literal.textOf "msg" r.fault.message, ("input", Literal.ofJson r.input)] ++
      (choices.map fun c => (LooseText.ofString "ctx", c)).toList)

def ConfigFailure.notice : ConfigFailure → Notice
  | unreadable path fault =>
    ⟨"Cannot read config file: " ++ path, [("reason", .text fault.message)]⟩
  | malformed source reason =>
    ⟨"JSON parse Fail !", [("source", .text source), ("reason", .text reason)]⟩
  | invalid refusals => ⟨"Invalid settings", [("errors", .list (refusals.map Refusal.literal))]⟩
  | unwritable path fault =>
    ⟨"Cannot write config file: " ++ path, [("reason", .text fault.message)]⟩

namespace Failure

def notice : Failure → Notice
  | inference failure => failure.notice
  | unreadable path cause =>
    ⟨"can't resolve filePath: " ++ path, [("reason", .text cause.message)]⟩
  | unwritable path fault =>
    ⟨"can't write filePath: " ++ path, [("reason", .text fault.message)]⟩
  | undetectedLanguage path => ⟨"Could not detect language for: " ++ path, []⟩
  | unsupportedLanguage language => ⟨"Language not supported: " ++ language, []⟩
  | config failure => failure.notice

def family : Failure → Family
  | inference (.notNamed _) | inference (.notFound _ _) => .componentNotFound
  | inference (.noProperties _ _) => .noProperties
  | unreadable _ _ => .read
  | unwritable _ _ => .write
  | undetectedLanguage _ | unsupportedLanguage _ => .language
  | config _ => .config

end Failure

/-- A path that cannot be used: what the files answered is reported. -/
def Fault.ofPath (report : PathFault → Failure) (fault : PathFault) : Fault :=
  if fault.isEarly then .path fault else .reported (report fault)

/-- Only values that are refused are reported. -/
def Fault.ofRejection : Rejection → Fault
  | .refused refusals => .reported (.config (.invalid refusals))
  | .misfit argument => .misfit argument
  | .path fault => .path fault
  | .undecodable fault => .undecodable fault
  | .notDirectory => .notDirectory

/-- Where the first half of a text stands, or the first halves if several follow each other. -/
def LooseText.halvesMessage (text : LooseText) : String :=
  let whole := text.takeWhile fun s => s.char?.isSome
  let halves := (text.drop whole.length).takeWhile fun s => s.char?.isNone
  let position := toString whole.length
  let place :=
    if halves.length ≤ 1 then "character " ++ Text.shown halves ++ " in position " ++ position
    else "characters in position " ++ position ++ "-" ++ toString (whole.length + halves.length - 1)
  "'utf-8' codec can't encode " ++ place ++ ": surrogates not allowed"

def Fault.message : Fault → String
  | reported failure => failure.notice.message
  | edit fault => fault.message
  | undecodable fault => fault.message
  | numeral fault => fault.expected.message
  | overlong =>
    "Exceeds the limit (4300 digits) for integer string conversion; use sys.set_int_max_str_digits() to increase the limit"
  | path fault => fault.message
  | misfit argument => "unfit argument: " ++ argument.key
  | unencodable text => text.halvesMessage
  | notDirectory => "secrets_dir must reference a directory, not a file"

end PropTyper
