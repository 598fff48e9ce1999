import PropTyper.Text.Case
import PropTyper.Text.Parts

/-! # Paths

A path is a list of names. Repeated separators and single dots say nothing and are dropped; double
dots stay, since they can only be followed where the directories are known.
-/

namespace PropTyper

structure Path where
  /-- What stands before the first name: nothing in a relative path. -/
  root : String := ""
  names : List String := []
deriving DecidableEq, Repr, Inhabited

namespace Path

def splitNames (text : List Char) : List String :=
  (Text.parts (· = '/') text).map String.ofList

/-- One or more separators at the start make a path absolute; exactly two are kept apart. -/
def rootOf : List Char → String
  | '/' :: '/' :: '/' :: _ => "/"
  | '/' :: '/' :: _ => "//"
  | '/' :: _ => "/"
  | _ => ""

def ofString (text : String) : Path :=
  { root := rootOf text.toList
    names := (splitNames text.toList).filter fun name => name ≠ "" && name ≠ "." }

def toString (p : Path) : String :=
  if p.root = "" && p.names.isEmpty then "." else p.root ++ "/".intercalate p.names

def name (p : Path) : String :=
  p.names.getLastD ""

def parent (p : Path) : Path :=
  { p with names := p.names.dropLast }

def join (p : Path) (name : String) : Path :=
  { p with names := p.names ++ [name] }

/-- No file can be asked for by a path that holds the null character. -/
def hasNull (p : Path) : Bool :=
  p.names.any fun name => name.toList.contains '\x00'

def isLongName (name : String) : Bool :=
  255 < name.utf8ByteSize

/-- Too long to be followed, whatever its names are. -/
def isLong (p : Path) : Bool :=
  4096 ≤ p.toString.utf8ByteSize

theorem length_le_utf8ByteSize_intercalate (names : List String) :
    names.length ≤ ("/".intercalate names).utf8ByteSize + 1 := by
  induction names with
  | nil => exact Nat.zero_le _
  | cons first rest ih =>
      cases rest with
      | nil => simp
      | cons second more =>
          have hmark : "/".utf8ByteSize = 1 := rfl
          rw [String.intercalate_cons_cons, String.utf8ByteSize_append, String.utf8ByteSize_append, hmark]
          rw [List.length_cons]
          omega

theorem length_names_le {p : Path} (h : p.isLong = false) : p.names.length ≤ 4096 := by
  have hnames := length_le_utf8ByteSize_intercalate p.names
  rw [isLong, decide_eq_false_iff_not, Nat.not_le, toString] at h
  split at h
  · next hempty =>
    simp only [Bool.and_eq_true, List.isEmpty_iff] at hempty
    simp [hempty.2]
  · rw [String.utf8ByteSize_append] at h
    omega

/-- The end of a name from its last dot on, unless the dot is its first or its last character. -/
def suffixOf (name : List Char) : List Char :=
  let tail := name.reverse.takeWhile (· ≠ '.')
  let stem := (name.reverse.dropWhile (· ≠ '.')).drop 1
  if tail.isEmpty || stem.isEmpty then [] else '.' :: tail.reverse

def extension (p : Path) : String :=
  Text.lower (String.ofList (suffixOf p.name.toList))

end Path

end PropTyper
