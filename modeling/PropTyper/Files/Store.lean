import PropTyper.Files.Path
import PropTyper.Text.Quoted

/-! # Files and directories

The files that the program works on, as a value. Paths are followed from a working directory, which
is the root of the store. The store says nothing of what lies outside: it is for paths that are
relative and stay in the working directory, and others are treated as if nothing were there.
-/

namespace PropTyper

inductive Entry where
  | file (content : List UInt8)
  | directory (entries : List (String × Entry))
deriving Repr, Inhabited

inductive PathCause where
  | notFound
  | notDirectory
  | isDirectory
  | alreadyThere
  | nullByte
  | tooLong
deriving DecidableEq, Repr, Inhabited

structure PathFault where
  cause : PathCause
  path : String
deriving DecidableEq, Repr, Inhabited

def PathCause.message : PathCause → String
  | notFound => "[Errno 2] No such file or directory"
  | notDirectory => "[Errno 20] Not a directory"
  | isDirectory => "[Errno 21] Is a directory"
  | alreadyThere => "[Errno 17] File exists"
  | nullByte => "embedded null byte"
  | tooLong => "[Errno 36] File name too long"

/-- The files were never asked. -/
def PathFault.isEarly (f : PathFault) : Bool :=
  f.cause = .nullByte

def PathFault.message (f : PathFault) : String :=
  if f.isEarly then f.cause.message else f.cause.message ++ ": " ++ Text.shown f.path

namespace Entry

def entries : Entry → List (String × Entry)
  | file _ => []
  | directory entries => entries

/-- What a list of names without dots leads to. -/
def get? : Entry → List String → Option Entry
  | e, [] => some e
  | e, name :: rest =>
    match e.entries.lookup name with
    | some below => get? below rest
    | none => none

def setEntry (name : String) (e : Entry) : List (String × Entry) → List (String × Entry)
  | [] => [(name, e)]
  | (n, old) :: rest => if n = name then (n, e) :: rest else (n, old) :: setEntry name e rest

/-- Puts an entry where a list of names leads, and makes the directories on the way. -/
def put (new : Entry) : List String → Entry → Entry
  | [], _ => new
  | name :: rest, e =>
    let below := (e.entries.lookup name).getD (directory [])
    directory (setEntry name (put new rest below) e.entries)

def erase : List String → Entry → Entry
  | [], e => e
  | [name], e => directory (e.entries.filter fun entry => entry.1 ≠ name)
  | name :: rest, e =>
    match e.entries.lookup name with
    | some below => directory (setEntry name (erase rest below) e.entries)
    | none => e

end Entry

abbrev Store := Entry

namespace Store

def empty : Store := .directory []

/-- Follows names from the directory `here`, each of which has to be there. Double dots lead one
directory up, though never out of the store. -/
def follow (s : Store) (here : List String) : List String → Except PathCause (List String)
  | [] => .ok here
  | name :: rest =>
    match s.get? here with
    | none => .error .notFound
    | some (.file _) => .error .notDirectory
    | some (.directory entries) =>
      if name = ".." then
        if here.isEmpty then .error .notFound else follow s here.dropLast rest
      else if Path.isLongName name then .error .tooLong
      else
        match entries.lookup name with
        | some _ => follow s (here ++ [name]) rest
        | none => .error .notFound

/-- The place that a path leads to, if there is something. Absolute paths lead nowhere, nor do those
that go up from the working directory, even where they come back to it. -/
def resolve (s : Store) (p : Path) : Except PathCause (List String) :=
  if p.hasNull then .error .nullByte
  else if p.isLong then .error .tooLong
  else if p.root = "" then s.follow [] p.names
  else if p.names.head?.any Path.isLongName then .error .tooLong
  else .error .notFound

def entry (s : Store) (p : Path) : Except PathCause Entry :=
  match s.resolve p with
  | .error cause => .error cause
  | .ok place =>
    match s.get? place with
    | some e => .ok e
    | none => .error .notFound

theorem isLong_of_entry {s : Store} {p : Path} {e : Entry} (h : s.entry p = .ok e) :
    p.isLong = false := by
  unfold entry resolve at h
  cases hlong : p.isLong with
  | false => rfl
  | true => cases hnull : p.hasNull <;> simp [hnull, hlong] at h

def hasDirectory (s : Store) (p : Path) : Bool :=
  match s.entry p with
  | .ok (.directory _) => true
  | _ => false

def faultAt {α : Type} (p : Path) (cause : PathCause) : Except PathFault α :=
  .error ⟨cause, p.toString⟩

def read (s : Store) (p : Path) : Except PathFault (List UInt8) :=
  match s.entry p with
  | .ok (.file content) => .ok content
  | .ok (.directory _) => faultAt p .isDirectory
  | .error cause => faultAt p cause

/-- The place for a new entry: the directory that it goes into has to be there. `none` if the path
leads to a directory by itself. -/
def newPlace (s : Store) (p : Path) : Except PathCause (Option (List String)) :=
  if p.hasNull then .error .nullByte
  else if p.isLong then .error .tooLong
  else if p.names.isEmpty || p.name = ".." then
    match s.resolve p with
    | .ok _ => .ok none
    | .error cause => .error cause
  else
    match s.resolve p.parent with
    | .error cause => .error cause
    | .ok place =>
      match s.get? place with
      | some (.directory _) =>
        if Path.isLongName p.name then .error .tooLong else .ok (some (place ++ [p.name]))
      | some (.file _) => .error .notDirectory
      | none => .error .notFound

def write (s : Store) (p : Path) (content : List UInt8) : Except PathFault Store :=
  match s.newPlace p with
  | .error cause => faultAt p cause
  | .ok none => faultAt p .isDirectory
  | .ok (some place) =>
    match s.get? place with
    | some (.directory _) => faultAt p .isDirectory
    | _ => .ok (Entry.put (.file content) place s)

def makeDirectory (s : Store) (p : Path) : Except PathFault Store :=
  match s.newPlace p with
  | .error cause => faultAt p cause
  | .ok none => faultAt p .alreadyThere
  | .ok (some place) =>
    match s.get? place with
    | some _ => faultAt p .alreadyThere
    | none => .ok (Entry.put (.directory []) place s)

def ensureDirectory (s : Store) (p : Path) : Except PathFault Store :=
  match s.makeDirectory p with
  | .ok s => .ok s
  | .error fault => if fault.cause ≠ .notFound && s.hasDirectory p then .ok s else .error fault

/-- Makes a directory and those on the way to it, as far as they are missing. What has been made
before a fault stays. -/
def ensureDirectories (s : Store) (p : Path) : Store × Option PathFault :=
  match s.ensureDirectory p with
  | .ok s => (s, none)
  | .error fault =>
    if fault.cause ≠ .notFound then (s, some fault)
    else if _h : p.names = [] then (s, some fault)
    else
      match ensureDirectories s p.parent with
      | (s, some fault) => (s, some fault)
      | (s, none) =>
        match s.ensureDirectory p with
        | .ok s => (s, none)
        | .error fault => (s, some fault)
termination_by p.names.length
decreasing_by
  simp only [Path.parent, List.length_dropLast]
  have := List.length_pos_iff.2 _h
  omega

mutual

def filesBelow (place : List String) : Entry → List (String × List UInt8)
  | .file content => [("/".intercalate place, content)]
  | .directory entries => filesIn place entries

def filesIn (place : List String) : List (String × Entry) → List (String × List UInt8)
  | [] => []
  | (name, e) :: rest => filesBelow (place ++ [name]) e ++ filesIn place rest

end

def files (s : Store) : List (String × List UInt8) :=
  filesBelow [] s

end Store

end PropTyper
