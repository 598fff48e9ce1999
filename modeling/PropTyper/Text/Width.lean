import PropTyper.Number.Total
import PropTyper.Text.WidthTable

/-! # Columns that a text takes on a console

Two characters change the width of others. A joiner melts the next character into the one before
it, and the sign for coloured pictures makes some narrow characters wide.
-/

namespace PropTyper.Text

def joiner : Char := '\u200d'

def pictureSign : Char := '\ufe0f'

def inRuns (runs : List Run) (c : Char) : Bool :=
  runs.any fun run => run.contains c.toNat

def charWidth (c : Char) : Nat :=
  if 0x20 ≤ c.toNat && c.toNat < 0x7f then 1
  else if inRuns unseen c then 0
  else if inRuns wide c then 2
  else 1

/-- What the sign for coloured pictures adds to the last character that was seen. -/
def pictureGain (last : Option Char) : Nat :=
  match last with
  | some c => if inRuns widening c then 1 else 0
  | none => 0

/-- The width of a text, where `last` is the last character before it that takes a column. -/
def widthFrom (last : Option Char) : List Char → Nat
  | [] => 0
  | c :: rest =>
    if c = joiner then
      match rest with
      | [] => 0
      | _ :: more => widthFrom last more
    else if c = pictureSign then
      pictureGain last + widthFrom (if pictureGain last = 0 then last else none) rest
    else if charWidth c = 0 then widthFrom last rest
    else charWidth c + widthFrom (some c) rest

def width (text : List Char) : Nat :=
  widthFrom none text

/-- Characters that stand in the same columns. -/
structure Cluster where
  chars : List Char
  width : Nat
deriving DecidableEq, Repr, Inhabited

def Cluster.add (more : List Char) (gain : Nat) (cluster : Cluster) : Cluster :=
  ⟨cluster.chars ++ more, cluster.width + gain⟩

/-- The clusters of a text, the one that has been `begun` first. -/
def clustersFrom (begun : Option Cluster) (last : Option Char) : List Char → List Cluster
  | [] => begun.toList
  | c :: rest =>
    match begun with
    | none => clustersFrom (some ⟨[c], charWidth c⟩) (if charWidth c = 0 then last else some c) rest
    | some cluster =>
      if c = joiner then
        match rest with
        | [] => [cluster.add [c] 0]
        | next :: more => clustersFrom (some (cluster.add [c, next] 0)) last more
      else if c = pictureSign then
        clustersFrom (some (cluster.add [c] (pictureGain last)))
          (if pictureGain last = 0 then last else none) rest
      else if charWidth c = 0 then clustersFrom (some (cluster.add [c] 0)) last rest
      else cluster :: clustersFrom (some ⟨[c], charWidth c⟩) (some c) rest

def clusters (text : List Char) : List Cluster :=
  clustersFrom none none text

end PropTyper.Text
