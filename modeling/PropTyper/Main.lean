import PropTyper.Command.Run

/-! # The program

The workspace comes as one line of JSON on the standard input. The command's own lines go to the
standard output, and the files it has left go to the standard error as a JSON document.
-/

open PropTyper

/-- The files of a workspace as a JSON document; those that are no text are left out. -/
def filesDocument (s : Store) : Json :=
  .object (s.files.filterMap fun f =>
    match Text.Utf8.decode f.2 with
    | .ok text => some (f.1, .str text)
    | .error _ => none)

def workspaceOf (line : String) : Workspace :=
  match Json.parse line.trimAscii.toString.toList with
  | .ok v => Workspace.ofJson v
  | .error _ => {}

def main (args : List String) : IO UInt32 := do
  let line ← (← IO.getStdin).getLine
  let outcome := Command.run (workspaceOf line) args
  for shown in outcome.lines do
    IO.println shown
  IO.eprintln (Json.print .ascii (filesDocument outcome.store))
  return UInt32.ofNat outcome.exitCode
