import PropTyper.Json.Basic

/-! # Writing JSON

One item a line, two spaces to a level, nothing inside empty brackets. Strings are written in ASCII
alone, or with only those characters escaped that have to be.
-/

namespace PropTyper.Json

inductive Charset where
  | ascii
  | unicode
deriving DecidableEq, Repr, Inhabited

def hex4 (n : Nat) : List Char :=
  [n / 4096 % 16, n / 256 % 16, n / 16 % 16, n % 16].map Nat.digitChar

/-- A code point by its number, as one unit of UTF-16 or as two. -/
def numbered (n : Nat) : List Char :=
  if n < 0x10000 then '\\' :: 'u' :: hex4 n
  else
    let offset := n - 0x10000
    '\\' :: 'u' :: hex4 (0xd800 + offset / 0x400) ++ '\\' :: 'u' :: hex4 (0xdc00 + offset % 0x400)

def escapeChar (charset : Charset) (c : Char) : List Char :=
  if c = '\x22' then ['\\', '\x22']
  else if c = '\\' then ['\\', '\\']
  else if c = '\n' then ['\\', 'n']
  else if c = '\r' then ['\\', 'r']
  else if c = '\t' then ['\\', 't']
  else if c = '\x0c' then ['\\', 'f']
  else if c = '\x08' then ['\\', 'b']
  else if c.toNat < 0x20 || (charset = .ascii && 0x7f ≤ c.toNat) then numbered c.toNat
  else [c]

/-- Half of a pair can only be written by its number. -/
def escapeSign (charset : Charset) : Sign → List Char
  | .char c => escapeChar charset c
  | .half offset => numbered (Sign.firstHalf + offset.val)

def quoted (charset : Charset) (text : LooseText) : List Char :=
  '\x22' :: (text.flatMap (escapeSign charset) ++ ['\x22'])

def floatText (x : Double) : String :=
  if x.isNaN then "NaN"
  else if x.isInfinite then if x.isNegative then "-Infinity" else "Infinity"
  else x.render

/-- A whole number is not written with more digits than are read. -/
def isShort : Json → Bool
  | int n => (toString n.natAbs).length ≤ maxDigits
  | _ => true

def newline (level : Nat) : List Char :=
  '\n' :: List.replicate (2 * level) ' '

mutual

def render (charset : Charset) (level : Nat) : Json → List Char
  | null => "null".toList
  | bool true => "true".toList
  | bool false => "false".toList
  | int n => (toString n).toList
  | float x => (floatText x).toList
  | str s => quoted charset s
  | list [] => ['[', ']']
  | list (item :: rest) =>
    '[' :: (newline (level + 1) ++ render charset (level + 1) item ++
      renderItems charset (level + 1) rest ++ newline level ++ [']'])
  | object [] => ['\x7b', '\x7d']
  | object ((name, v) :: rest) =>
    '\x7b' :: (newline (level + 1) ++ quoted charset name ++ [':', ' '] ++
      render charset (level + 1) v ++ renderMembers charset (level + 1) rest ++ newline level ++
      ['\x7d'])

def renderItems (charset : Charset) (level : Nat) : List Json → List Char
  | [] => []
  | item :: rest =>
    ',' :: (newline level ++ render charset level item ++ renderItems charset level rest)

def renderMembers (charset : Charset) (level : Nat) : Members → List Char
  | [] => []
  | (name, v) :: rest =>
    ',' :: (newline level ++ quoted charset name ++ [':', ' '] ++ render charset level v ++
      renderMembers charset level rest)

end

def print (charset : Charset) (v : Json) : String :=
  String.ofList (render charset 0 v)

end PropTyper.Json
