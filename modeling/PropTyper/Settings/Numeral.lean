import PropTyper.Text.Blank

/-! # Whole numbers written as text

A numeral is plain: an optional minus sign and digits without zeros in front. Other spellings are
first tidied up and then have to be plain.
-/

namespace PropTyper.Numeral

inductive Fault where
  | malformed
  | tooLong
deriving DecidableEq, Repr, Inhabited

/-- No plain numeral has more digits. -/
def maxDigits : Nat := 4300

def isLeadingDigit (c : Char) : Bool :=
  '1' ≤ c && c ≤ '9'

def digitsValue (digits : List Char) : Nat :=
  digits.foldl (fun value c => value * 10 + (c.toNat - '0'.toNat)) 0

/-- The value of digits without zeros in front. -/
def plainDigits? : List Char → Option Nat
  | ['0'] => some 0
  | c :: rest =>
    if isLeadingDigit c && rest.all Char.isDigit then some (digitsValue (c :: rest)) else none
  | [] => none

def plain? : List Char → Option Int
  | '-' :: digits => (plainDigits? digits).map fun n => -(n : Int)
  | digits => (plainDigits? digits).map fun n => (n : Int)

/-- White space around a numeral; the separators of ASCII do not count. -/
def isMargin (c : Char) : Bool :=
  Text.isBlank c && !(0x1c ≤ c.toNat && c.toNat ≤ 0x1f)

def trim (text : List Char) : List Char :=
  ((text.dropWhile isMargin).reverse.dropWhile isMargin).reverse

/-- Drops zeros in front, and the low lines between them, up to a digit or a minus sign. One
character is kept where nothing but a fraction is left. `last` is the character before. -/
def afterZero? (last : Char) : List Char → Option (List Char)
  | [] => some [last]
  | c :: rest =>
    if c = '0' || c = '_' then afterZero? c rest
    else if isLeadingDigit c || c = '-' then some (c :: rest)
    else if c = '.' then some (last :: c :: rest)
    else none

def withoutZeros? : List Char → Option (List Char)
  | [] => none
  | c :: rest =>
    if c = '0' then afterZero? c rest
    else if isLeadingDigit c then some (c :: rest)
    else none

/-- Drops a fraction of nothing but zeros. -/
def withoutFraction (text : List Char) : List Char :=
  match text.dropWhile (· ≠ '.') with
  | _ :: zeros =>
    if !zeros.isEmpty && zeros.all (· = '0') then text.takeWhile (· ≠ '.') else text
  | [] => text

/-- Low lines stand alone and between other characters. `before` tells whether one of these was
the last. -/
def linesApart (before : Bool) : List Char → Bool
  | [] => before
  | c :: rest => if c = '_' then before && linesApart false rest else linesApart true rest

def withoutLines (text : List Char) : List Char :=
  if linesApart false text then text.filter (· ≠ '_') else text

/-- A numeral without its margins, a plus sign, zeros in front, low lines and an empty fraction. -/
def tidied? (text : List Char) : Option (List Char) :=
  let tidy (unsigned : List Char) : Option (List Char) :=
    (withoutZeros? unsigned).map fun digits => withoutLines (withoutFraction digits)
  match trim text with
  | '+' :: unsigned => tidy unsigned
  | '-' :: unsigned => (tidy unsigned).map ('-' :: ·)
  | unsigned => tidy unsigned

def unsigned : List Char → List Char
  | '-' :: rest => rest
  | text => text

/-- Whether a text begins like a plain numeral, but with too many digits for one. What follows the
digits does not matter. -/
def isOverlong (text : List Char) : Bool :=
  match unsigned text with
  | c :: rest => isLeadingDigit c && maxDigits ≤ (rest.takeWhile Char.isDigit).length
  | [] => false

/-- Only digits that stand at the start of the text as it is are refused for their number. -/
def read (text : List Char) : Except Fault Int :=
  if isOverlong text then .error .tooLong
  else
    match plain? text with
    | some n => .ok n
    | none =>
      match tidied? text with
      | none => .error .malformed
      | some digits =>
        match plain? digits with
        | some n => if isOverlong digits then .error .malformed else .ok n
        | none => .error .malformed

end PropTyper.Numeral
