import PropTyper.Text.Utf8

/-! # Splicing edits into bytes -/

namespace PropTyper

/-- Puts `text` in the place of the bytes from `start` up to `stop`; where the two are equal, before
the byte there. -/
structure Edit where
  start : Int
  stop : Int
  text : String
deriving DecidableEq, Repr, Inhabited

namespace Edit

/-- An offset into `length` bytes: below zero it counts from the end, and none leads outside. -/
def offset (length : Nat) (i : Int) : Nat :=
  if i < 0 then ((length : Int) + i).toNat else min i.toNat length

def between (data : List UInt8) (start stop : Int) : List UInt8 :=
  let first := offset data.length start
  (data.drop first).take (offset data.length stop - first)

/-- The edits by their start; those with one start keep their order. -/
def inOrder (edits : List Edit) : List Edit :=
  edits.mergeSort fun a b => decide (a.start ≤ b.start)

/-- Splices ordered edits into what follows `cursor`. An edit that starts before it stands in the
way of the one before, and its start is the fault. -/
def spliceFrom (data : List UInt8) (cursor : Int) : List Edit → Except Int (List UInt8)
  | [] => .ok (between data cursor data.length)
  | e :: rest =>
    if e.start < cursor then .error e.start
    else
      match spliceFrom data e.stop rest with
      | .ok later => .ok (between data cursor e.start ++ Text.Utf8.encode e.text ++ later)
      | .error start => .error start

/-- Splices edits into bytes, those at one offset in the order of the list. -/
def splice (data : List UInt8) (edits : List Edit) : Except Int (List UInt8) :=
  spliceFrom data 0 (inOrder edits)

inductive Fault where
  | overlap (start : Int)
  | undecodable (fault : Text.Utf8.Fault)
deriving DecidableEq, Repr, Inhabited

def Fault.message : Fault → String
  | overlap start => "Overlapping edit at byte " ++ toString start
  | undecodable fault => fault.message

def apply (data : List UInt8) (edits : List Edit) : Except Fault String :=
  match splice data edits with
  | .error start => .error (.overlap start)
  | .ok bytes =>
    match Text.Utf8.decode bytes with
    | .ok text => .ok text
    | .error fault => .error (.undecodable fault)

end Edit

end PropTyper
