import PropTyper.Settings.Basic

/-! # Property keys in source text -/

namespace PropTyper.Key

def startsPlain (c : Char) : Bool :=
  ('A' ≤ c && c ≤ 'Z') || ('a' ≤ c && c ≤ 'z') || c = '_' || c = '$'

def continuesPlain (c : Char) : Bool :=
  startsPlain c || ('0' ≤ c && c ≤ '9')

/-- A key that is written without quotes: letters, digits, `_` and `$` of ASCII, no digit first.
One line feed at the end is let through. -/
def isPlain : List Char → Bool
  | [] => false
  | c :: rest =>
    startsPlain c &&
      match rest.dropWhile continuesPlain with
      | [] => true
      | [last] => last = '\n'
      | _ => false

/-- The text between quotes: a backslash and the quote itself get a backslash before them. -/
def escape (quote : Char) (text : List Char) : List Char :=
  text.flatMap fun c => if c = '\\' || c = quote then ['\\', c] else [c]

def quoted (quote : Char) (text : List Char) : List Char :=
  quote :: (escape quote text ++ [quote])

def render (quote : Char) (name : String) : String :=
  if isPlain name.toList then name else String.ofList (quoted quote name.toList)

end PropTyper.Key
