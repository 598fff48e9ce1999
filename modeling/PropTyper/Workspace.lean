import PropTyper.Batch
import PropTyper.Journal.Threshold
import PropTyper.Settings.ConfigFile
import PropTyper.Settings.Making
import PropTyper.Tree.Flat

/-! # Workspaces

A workspace holds what a command works on: files, environment variables, a parser, a settings class
and the words of the journal. As a JSON document it has members `files`, `env` and `parses`; the last
lists the trees of the texts that may have to be parsed.
-/

namespace PropTyper

/-- The flat form of a node: kind, first and last offset, flags, number of children and, where it
has one, its field in the node above. -/
def Tree.Row.ofJson? : Json → Option Tree.Row
  | .list (.str kind :: .int start :: .int stop :: .int flags :: .int count :: rest) =>
    some
      { kind := Kind.ofName kind.filled
        span := ⟨start.toNat, stop.toNat⟩
        named := flags.toNat % 2 = 1
        missing := flags.toNat / 2 % 2 = 1
        hasError := flags.toNat / 4 % 2 = 1
        childCount := count.toNat
        fields :=
          match rest with
          | [.str label] => (label.filled.splitOn ",").filterMap Field.ofLabel?
          | _ => [] }
  | _ => none

def Tree.ofJson? (source : String) : Json → Option Tree
  | .list rows => (rows.mapM Row.ofJson?).bind (Tree.ofRows? source.toUTF8)
  | _ => none

namespace Json

def member? (name : String) : Json → Option Json
  | object members => members.lookup (LooseText.ofString name)
  | _ => none

def text? : Json → Option String
  | str s => some s.filled
  | _ => none

def items : Json → List Json
  | list items => items
  | _ => []

def members : Json → Members
  | object members => members
  | _ => []

end Json

def bytesOfHex : List Char → List UInt8
  | high :: low :: rest =>
    UInt8.ofNat (((Json.hexValue? high).getD 0) * 16 + (Json.hexValue? low).getD 0) ::
      bytesOfHex rest
  | _ => []

/-- A file as text or as hexadecimal digits, or else an empty directory. -/
def Entry.ofJson (v : Json) : Entry :=
  match v with
  | .str text => .file (Text.Utf8.encode text.filled)
  | _ =>
    match (v.member? "hex").bind Json.text? with
    | some digits => .file (bytesOfHex digits.toList)
    | none => .directory []

/-- Puts an entry at a path, whatever is there. -/
def Store.place (s : Store) (path : String) (e : Entry) : Store :=
  e.put (Path.ofString path).names s

def Store.remove (s : Store) (path : String) : Store :=
  s.erase (Path.ofString path).names

def Store.ofJson (v : Json) : Store :=
  v.members.foldl (fun s m => s.place m.1.filled (Entry.ofJson m.2)) .empty

def Environment.ofJson (v : Json) : Environment :=
  v.members.filterMap fun m => m.2.text?.map fun value => (m.1.filled, value)

structure Parse where
  language : String
  text : String
  tree : Tree
deriving Repr, Inhabited

def Parse.ofJson? (v : Json) : Option Parse :=
  match (v.member? "language").bind Json.text?, (v.member? "source").bind Json.text?,
    v.member? "tree" with
  | some language, some text, some rows =>
    (Tree.ofJson? text rows).map fun tree => { language, text, tree }
  | _, _, _ => none

/-- The parser that knows the trees of a list. -/
def Parser.ofList (parses : List Parse) : Parser := fun language text =>
  ((parses.find? fun p => p.language = language && p.text = text).map (·.tree)).getD default

structure Workspace where
  store : Store := .empty
  env : Environment := []
  parse : Parser := fun _ _ => default
  settingsClass : SettingsClass := .ofSources
  words : Journal.Vocabulary := .standard

def Workspace.ofJson (v : Json) : Workspace :=
  { store := Store.ofJson ((v.member? "files").getD .null)
    env := Environment.ofJson ((v.member? "env").getD .null)
    parse := Parser.ofList (((v.member? "parses").getD .null).items.filterMap Parse.ofJson?) }

end PropTyper
