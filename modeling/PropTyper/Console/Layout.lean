import PropTyper.Text.Blank
import PropTyper.Text.Parts
import PropTyper.Text.Width

/-! # Laying out text

Text is set in lines of a given number of columns. A line ends between words where the next word
would not fit. Words that are too long for any line are cut into pieces, or cropped.
-/

namespace PropTyper.Console

def spaces (count : Nat) : List Char :=
  List.replicate count ' '

/-! ## Tabs -/

def tabWidth : Nat := 8

/-- Joins the parts between tabs, each of which leads to the next stop by one space at least. -/
def joinTabbed (column : Nat) : List (List Char) → List Char
  | [] => []
  | [last] => last
  | part :: rest =>
    let filled := part ++ [' ']
    let reached := column + Text.width filled
    let gap := (tabWidth - reached % tabWidth) % tabWidth
    filled ++ spaces gap ++ joinTabbed (reached + gap) rest

def expandTabs (line : List Char) : List Char :=
  joinTabbed 0 (Text.parts (· = '\t') line)

/-! ## Words -/

def blanks (text : List Char) : List Char :=
  text.takeWhile Text.isBlank

/-- The words of a text, each with the white space after it and the first one with that before it.
Nothing is lost unless there is only white space. -/
def words (text : List Char) : List (List Char) :=
  let body := text.dropWhile Text.isBlank
  let after := body.dropWhile fun c => !Text.isBlank c
  if _h : after.length < body.length then
    let word := blanks text ++ (body.takeWhile fun c => !Text.isBlank c) ++ blanks after
    word :: words (after.dropWhile Text.isBlank)
  else []
termination_by text.length
decreasing_by
  have h₁ := (List.dropWhile_sublist (l := text) Text.isBlank).length_le
  have h₂ := (List.dropWhile_sublist (l := after) Text.isBlank).length_le
  simp only [body, after] at *
  omega

/-- Cuts clusters into pieces of at most `limit` columns; `piece` has been begun. -/
def chop (limit : Nat) (piece : List Char) (size : Nat) : List Text.Cluster → List (List Char)
  | [] => [piece]
  | c :: rest =>
    if size + c.width > limit then piece :: chop limit c.chars c.width rest
    else chop limit (piece ++ c.chars) (size + c.width) rest

/-- How words are treated that fit in no line. -/
inductive Overflow where
  | fold
  | ellipsis
deriving DecidableEq, Repr, Inhabited

/-- The lines that a word makes when it is the first in its line. -/
def wordLines (overflow : Overflow) (limit : Nat) (word : List Char) : List (List Char) :=
  if overflow = .fold && limit < Text.width (Text.trimEnd word) then
    chop limit [] 0 (Text.clusters word)
  else [word]

/-- Places words in lines; `line`, of `size` columns, has been begun. -/
def fill (overflow : Overflow) (limit : Nat) (line : List Char) (size : Nat) :
    List (List Char) → List (List Char)
  | [] => [line]
  | word :: rest =>
    if size + Text.width (Text.trimEnd word) ≤ limit then
      fill overflow limit (line ++ word) (size + Text.width word) rest
    else
      let new := wordLines overflow limit word
      let last := new.getLastD []
      (if line.isEmpty then [] else [line]) ++ new.dropLast ++
        fill overflow limit last (Text.width last) rest

def wrap (overflow : Overflow) (limit : Nat) (text : List Char) : List (List Char) :=
  match words text with
  | [] => [text]
  | ws => fill overflow limit [] 0 ws

/-! ## Lines -/

/-- Drops white space at the end, as far as a line has too many characters. -/
def dropExcess (limit : Nat) (line : List Char) : List Char :=
  line.take (max limit (Text.trimEnd line).length)

def fitting (limit : Nat) : List Text.Cluster → List Char
  | [] => []
  | c :: rest => if c.width ≤ limit then c.chars ++ fitting (limit - c.width) rest else []

def resize (limit : Nat) (line : List Char) : List Char :=
  let kept := if Text.width line ≤ limit then line else fitting limit (Text.clusters line)
  kept ++ spaces (limit - Text.width kept)

/-- A line that is too wide is cut off, with a sign for it where words are not folded. -/
def crop (overflow : Overflow) (limit : Nat) (line : List Char) : List Char :=
  if Text.width line ≤ limit then line
  else
    match overflow with
    | .fold => resize limit line
    | .ellipsis => resize (limit - 1) line ++ ['…']

def layout (overflow : Overflow) (limit : Nat) (text : List Char) : List (List Char) :=
  (Text.parts (· = '\n') text).flatMap fun line =>
    (wrap overflow limit (expandTabs line)).map (dropExcess limit)

def consoleWidth : Nat := 1000

/-! ## Printed lines -/

/-- Takes a line apart at the cuts; it starts at `offset`, and `part` has been begun. -/
def partsAt (cuts : List Nat) (offset : Nat) (part : List Char) : List Char → List (List Char)
  | [] => [part]
  | c :: rest =>
    if cuts.contains offset then part :: partsAt cuts (offset + 1) [c] rest
    else partsAt cuts (offset + 1) (part ++ [c]) rest

/-- The parts that fit into `limit` columns. The first that does not leave some free is the last. -/
def fittingParts (limit : Nat) : List (List Char) → List Char
  | [] => []
  | part :: rest =>
    let width := Text.width part
    if width < limit then part ++ fittingParts (limit - width) rest else resize limit part

/-- A line of parts, each of which is measured by itself. -/
def cropParts (limit : Nat) (parts : List (List Char)) : List Char :=
  if total (parts.map Text.width) ≤ limit then parts.flatten else fittingParts limit parts

def printedLines (cuts : List Nat) (offset : Nat) : List (List Char) → List String
  | [] => []
  | line :: rest =>
    let kept := crop .fold consoleWidth (dropExcess consoleWidth line)
    String.ofList (cropParts consoleWidth (partsAt cuts offset [] kept)) ::
      printedLines cuts (offset + line.length) rest

/-- Where the cuts of a text without line ends are once its tabs are expanded. -/
def expandedCuts (cuts : List Nat) (text : List Char) : List Nat :=
  if text.contains '\t' then cuts.map fun cut => (expandTabs (text.take cut)).length else cuts

/-- Prints texts, the first of which starts at `offset` of the whole, with a line end after each. -/
def printedFrom (cuts : List Nat) (offset : Nat) : List (List Char) → List String
  | [] => []
  | text :: rest =>
    let own := (cuts.filter fun cut => offset ≤ cut && cut < offset + text.length).map (· - offset)
    printedLines (expandedCuts own text) 0 (wrap .fold consoleWidth (expandTabs text)) ++
      printedFrom cuts (offset + text.length + 1) rest

/-- The lines that the console prints of a text which is measured in parts, between the cuts. -/
def printed (cuts : List Nat) (text : List Char) : List String :=
  printedFrom cuts 0 (Text.parts (· = '\n') text)

/-! ## Cells -/

/-- Characters at which the widths of lines are taken apart. -/
def endsMeasure (c : Char) : Bool :=
  ['\n', '\x1c', '\x1d', '\x1e', '\x85', '\u2028', '\u2029'].contains c

/-- The columns that a text asks for. -/
def measure (text : List Char) : Nat :=
  ((Text.parts endsMeasure text).map Text.width).foldl max 0

inductive Alignment where
  | left
  | right
deriving DecidableEq, Repr, Inhabited

def align (alignment : Alignment) (limit : Nat) (line : List Char) : List Char :=
  match alignment with
  | .left =>
    let kept := crop .ellipsis limit line
    kept ++ spaces (limit - Text.width kept)
  | .right =>
    let kept := crop .ellipsis limit (Text.trimEnd line)
    spaces (limit - Text.width kept) ++ kept

/-- The lines of a text in a cell of `limit` columns. Each is measured again once it is aligned,
since a joiner at its end hides the space after it. -/
def cellLines (alignment : Alignment) (limit : Nat) (text : List Char) : List (List Char) :=
  (layout .ellipsis limit text).map fun line => resize limit (align alignment limit line)

end PropTyper.Console
