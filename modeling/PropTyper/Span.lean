/-! # Byte ranges and scopes -/

namespace PropTyper

/-- The bytes from `start` up to, but not including, `stop`. -/
structure Span where
  start : Nat
  stop : Nat
deriving DecidableEq, Repr, Inhabited

/-- Where a name can be seen. A scope found in a file is a byte range of it; one that is given may
be any pair of numbers. -/
structure Scope where
  start : Int
  stop : Int
deriving DecidableEq, Repr, Inhabited

def Span.toScope (s : Span) : Scope :=
  ⟨s.start, s.stop⟩

end PropTyper
