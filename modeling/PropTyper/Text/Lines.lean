import PropTyper.Text.Utf8

/-! # Line ends -/

namespace PropTyper.Text

/-- A carriage return, with or without a line feed after it, becomes a line feed. -/
def unifyLineEnds : List Char → List Char
  | [] => []
  | '\r' :: '\n' :: rest => '\n' :: unifyLineEnds rest
  | '\r' :: rest => '\n' :: unifyLineEnds rest
  | c :: rest => c :: unifyLineEnds rest

/-- The bytes of a file as text with line feeds only. -/
def ofFile (bytes : List UInt8) : Except Utf8.Fault String :=
  match Utf8.decode bytes with
  | .ok text => .ok (String.ofList (unifyLineEnds text.toList))
  | .error fault => .error fault

end PropTyper.Text
