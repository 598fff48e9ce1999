/-! # Runs of code points -/

namespace PropTyper.Text

/-- Every `stride`-th code point from `first` to `last`. -/
structure Run where
  first : Nat
  last : Nat
  stride : Nat
deriving DecidableEq, Repr, Inhabited

def Run.contains (run : Run) (code : Nat) : Bool :=
  run.first ≤ code && code ≤ run.last && (code - run.first) % run.stride = 0

/-- The same distance for all code points of a run. -/
structure Shift where
  run : Run
  offset : Int
deriving DecidableEq, Repr, Inhabited

/-- The code point that a table of shifts sends `code` to. -/
def shifted? (table : List Shift) (code : Nat) : Option Nat :=
  (table.find? fun shift => shift.run.contains code).map fun shift =>
    ((code : Int) + shift.offset).toNat

end PropTyper.Text
