import PropTyper.Console.Layout

/-! # Tables

Boxed tables with a title and a row of headings. Columns are as wide as their widest cell; the
first one gives way where the table would be wider than the console.
-/

namespace PropTyper.Console

structure Column where
  heading : String
  alignment : Alignment := .left
deriving DecidableEq, Repr, Inhabited

structure Table where
  title : String
  columns : List Column
  rows : List (List (List Char))
deriving DecidableEq, Repr, Inhabited

structure Rule where
  first : String
  line : Char
  cross : String
  last : String

namespace Table

/-- The widths that the cells ask for, which the headings start and each row may raise. -/
def askedWidths (t : Table) : List Nat :=
  t.rows.foldl (fun ws row => List.zipWith (fun w cell => max w (measure cell)) ws row)
    (t.columns.map fun c => measure c.heading.toList)

def frameWidth (widths : List Nat) : Nat :=
  total (widths.map (· + 3)) + 1

def widths (t : Table) : List Nat :=
  match t.askedWidths with
  | [] => []
  | first :: rest => (first - (frameWidth (first :: rest) - consoleWidth)) :: rest

def width (t : Table) : Nat :=
  frameWidth t.widths

/-- The line with the given number in a cell; a cell may have fewer lines than its neighbours. -/
def lineAt (column : Column) (width : Nat) (cell : List Char) (number : Nat) : String :=
  let line := (cellLines column.alignment width cell)[number]?.getD (spaces width)
  String.ofList (cropParts (width + 2) [[' '], line, [' ']])

def rowHeight (t : Table) (cells : List (List Char)) : Nat :=
  ((t.columns.zip (t.widths.zip cells)).map fun (column, width, cell) =>
    (cellLines column.alignment width cell).length).foldl max 0

def rowLines (t : Table) (bar : String) (cells : List (List Char)) : List String :=
  (List.range (t.rowHeight cells)).map fun number =>
    let filled := (t.columns.zip (t.widths.zip cells)).map fun (column, width, cell) =>
      lineAt column width cell number
    bar ++ bar.intercalate filled ++ bar

def ruleLine (t : Table) (r : Rule) : String :=
  r.first ++
    r.cross.intercalate (t.widths.map fun w => String.ofList (List.replicate (w + 2) r.line)) ++
    r.last

def titleLine (t : Table) : String :=
  String.ofList (spaces ((t.width - measure t.title.toList) / 2)) ++ t.title

def lines (t : Table) : List String :=
  let headings := t.columns.map fun c => c.heading.toList
  [t.titleLine, t.ruleLine ⟨"┏", '━', "┳", "┓"⟩] ++ t.rowLines "┃" headings ++
    [t.ruleLine ⟨"┡", '━', "╇", "┩"⟩] ++ t.rows.flatMap (t.rowLines "│") ++
    [t.ruleLine ⟨"└", '─', "┴", "┘"⟩]

end Table

end PropTyper.Console
