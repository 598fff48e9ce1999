import PropTyper.Failure
import PropTyper.Text.Lines

/-! # Source files -/

namespace PropTyper

/-- The languages by the suffix of a file. -/
def languageOf? (p : Path) : Option String :=
  [(".js", "javascript"), (".jsx", "javascript"), (".mjs", "javascript"), (".cjs", "javascript"),
    (".ts", "typescript"), (".tsx", "tsx")].lookup p.extension

def grammarNames : List String :=
  ["javascript", "js", "jsx", "typescript", "ts", "tsx"]

def isSupported (language : String) : Bool :=
  grammarNames.contains (Text.lower language)

structure SourceFile where
  path : String
  text : String
  language : String
deriving DecidableEq, Repr, Inhabited

namespace SourceFile

/-- Reads a source file; without a language, that of its suffix. -/
def read (s : Store) (p : Path) (language : Option String) : Except Fault SourceFile :=
  let unreadable (cause : ReadCause) : Failure := .unreadable p.toString cause
  match language.or (languageOf? p) with
  | none => .error (.reported (.undetectedLanguage p.toString))
  | some language =>
    match s.read p with
    | .error fault => .error (.ofPath (fun f => unreadable (.path f)) fault)
    | .ok bytes =>
      match Text.ofFile bytes with
      | .error fault => .error (.reported (unreadable (.undecodable fault)))
      | .ok text =>
        if text = "" then .error (.reported (unreadable .empty))
        else .ok ⟨p.toString, text, language⟩

def write (f : SourceFile) (s : Store) (text : String) : Except Fault (Store × SourceFile) :=
  match s.write (Path.ofString f.path) (Text.Utf8.encode text) with
  | .ok s => .ok (s, { f with text })
  | .error fault => .error (.ofPath (.unwritable f.path) fault)

end SourceFile

end PropTyper
