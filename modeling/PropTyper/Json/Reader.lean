import PropTyper.Json.Basic

/-! # Reading JSON

A fault tells what was expected and where. Places are kept as the rest of the text from there on,
and become line and column numbers only when a fault is put into words.
-/

namespace PropTyper.Json

inductive Expectation where
  | value
  | propertyName
  | colon
  | comma
  | endOfString
  | escape
  | unicodeEscape
  | noControlCharacter
  | endOfText
  | noByteOrderMark
  | fewerDigits (count : Nat)
deriving DecidableEq, Repr, Inhabited

structure Fault where
  expected : Expectation
  rest : List Char
deriving DecidableEq, Repr, Inhabited

def Expectation.message : Expectation → String
  | value => "Expecting value"
  | propertyName => "Expecting property name enclosed in double quotes"
  | colon => "Expecting ':' delimiter"
  | comma => "Expecting ',' delimiter"
  | endOfString => "Unterminated string starting at"
  | escape => "Invalid \\escape"
  | unicodeEscape => "Invalid \\uXXXX escape"
  | noControlCharacter => "Invalid control character at"
  | endOfText => "Extra data"
  | noByteOrderMark => "Unexpected UTF-8 BOM (decode using utf-8-sig)"
  | fewerDigits count =>
    "Exceeds the limit (4300 digits) for integer string conversion: value has " ++ toString count ++
      " digits; use sys.set_int_max_str_digits() to increase the limit"

/-- The words for a fault in a text, with the place as line, column and offset. -/
def Fault.message (f : Fault) (whole : List Char) : String :=
  let before := whole.take (whole.length - f.rest.length)
  let line := before.count '\n' + 1
  let column := (before.reverse.takeWhile (· ≠ '\n')).length + 1
  f.expected.message ++ ": line " ++ toString line ++ " column " ++ toString column ++ " (char " ++
    toString before.length ++ ")"

abbrev Result (α : Type) := Except Fault (α × List Char)

def isSpace (c : Char) : Bool :=
  c = ' ' || c = '\t' || c = '\n' || c = '\r'

def skipSpace (text : List Char) : List Char :=
  text.dropWhile isSpace

def hexValue? (c : Char) : Option Nat :=
  if '0' ≤ c && c ≤ '9' then some (c.toNat - '0'.toNat)
  else if 'a' ≤ c && c ≤ 'f' then some (c.toNat - 'a'.toNat + 10)
  else if 'A' ≤ c && c ≤ 'F' then some (c.toNat - 'A'.toNat + 10)
  else none

def hex4? : List Char → Option Nat
  | a :: b :: c :: d :: _ :: _ =>
    match hexValue? a, hexValue? b, hexValue? c, hexValue? d with
    | some a, some b, some c, some d => some (((a * 16 + b) * 16 + c) * 16 + d)
    | _, _, _, _ => none
  | _ => none

def isHighSurrogate (n : Nat) : Bool :=
  0xd800 ≤ n && n ≤ 0xdbff

def isLowSurrogate (n : Nat) : Bool :=
  0xdc00 ≤ n && n ≤ 0xdfff

/-- The character that a backslash and one more letter stand for. -/
def simpleEscape? : Char → Option Char
  | '\x22' => some '\x22'
  | '\\' => some '\\'
  | '/' => some '/'
  | 'b' => some '\x08'
  | 'f' => some '\x0c'
  | 'n' => some '\n'
  | 'r' => some '\r'
  | 't' => some '\t'
  | _ => none

/-- Reads up to the closing quote. `opening` is the text from the opening one on, `read` what has
been read, the last sign first. -/
def stringFrom (opening : List Char) (read : LooseText) : List Char → Result LooseText
  | [] => .error ⟨.endOfString, opening⟩
  | '\x22' :: rest => .ok (read.reverse, rest)
  | ['\\'] => .error ⟨.endOfString, opening⟩
  | '\\' :: 'u' :: a :: b :: c :: d :: rest =>
    match hex4? (a :: b :: c :: d :: rest) with
    | none => .error ⟨.unicodeEscape, 'u' :: a :: b :: c :: d :: rest⟩
    | some high =>
      match rest with
      | '\\' :: 'u' :: e :: f :: g :: h :: more =>
        if isHighSurrogate high then
          match hex4? (e :: f :: g :: h :: more) with
          | none => .error ⟨.unicodeEscape, 'u' :: e :: f :: g :: h :: more⟩
          | some low =>
            if isLowSurrogate low then
              let code := 0x10000 + (high - 0xd800) * 0x400 + (low - 0xdc00)
              stringFrom opening (Sign.ofNat code :: read) more
            else stringFrom opening (Sign.ofNat high :: read) ('\\' :: 'u' :: e :: f :: g :: h :: more)
        else stringFrom opening (Sign.ofNat high :: read) ('\\' :: 'u' :: e :: f :: g :: h :: more)
      | rest => stringFrom opening (Sign.ofNat high :: read) rest
  | '\\' :: 'u' :: rest => .error ⟨.unicodeEscape, 'u' :: rest⟩
  | '\\' :: c :: rest =>
    match simpleEscape? c with
    | some e => stringFrom opening (.char e :: read) rest
    | none => .error ⟨.escape, '\\' :: c :: rest⟩
  | c :: rest =>
    if c.toNat < 0x20 then .error ⟨.noControlCharacter, c :: rest⟩
    else stringFrom opening (.char c :: read) rest
termination_by text => text.length

def string (opening : List Char) : Result LooseText :=
  stringFrom opening [] (opening.drop 1)

def digits (text : List Char) : List Char × List Char :=
  (text.takeWhile Char.isDigit, text.dropWhile Char.isDigit)

def natOf (digits : List Char) : Nat :=
  digits.foldl (fun n c => n * 10 + (c.toNat - '0'.toNat)) 0

/-- The digits before the point: a zero stands alone. -/
def wholePart (text : List Char) : List Char × List Char :=
  match text with
  | '0' :: rest => (['0'], rest)
  | _ => digits text

/-- The digits after a point; a point without digits does not belong to the number. -/
def fractionPart (text : List Char) : List Char × List Char :=
  match text with
  | '.' :: rest => if (digits rest).1.isEmpty then ([], text) else digits rest
  | _ => ([], text)

/-- A power of ten; a letter without digits does not belong to the number. -/
def exponentPart (text : List Char) : Option Int × List Char :=
  let read (sign : Int) (rest : List Char) : Option Int × List Char :=
    let (ds, more) := digits rest
    if ds.isEmpty then (none, text) else (some (sign * natOf ds), more)
  match text with
  | c :: rest =>
    if c = 'e' || c = 'E' then
      match rest with
      | '+' :: more => read 1 more
      | '-' :: more => read (-1) more
      | _ => read 1 rest
    else (none, text)
  | [] => (none, text)

def number (text : List Char) : Result Json :=
  let (negative, body) :=
    match text with
    | '-' :: rest => (true, rest)
    | _ => (false, text)
  let (whole, afterWhole) := wholePart body
  if whole.isEmpty then .error ⟨.value, text⟩
  else
    let (fraction, afterFraction) := fractionPart afterWhole
    let (exponent, rest) := exponentPart afterFraction
    if fraction.isEmpty && exponent.isNone then
      if whole.length > maxDigits then .error ⟨.fewerDigits whole.length, text⟩
      else
        let n : Int := natOf whole
        .ok (.int (if negative then -n else n), rest)
    else
      let scale : Int := exponent.getD 0 - fraction.length
      .ok (.float (Double.ofDecimal negative (natOf (whole ++ fraction)) scale), rest)

def words : List (List Char × Json) :=
  [("null".toList, .null), ("true".toList, .bool true), ("false".toList, .bool false),
    ("NaN".toList, .float Double.nan), ("Infinity".toList, .float (Double.infinity false)),
    ("-Infinity".toList, .float (Double.infinity true))]

def word? (text : List Char) : Option (Json × List Char) :=
  (words.find? fun w => w.1.isPrefixOf text).map fun w => (w.2, text.drop w.1.length)

mutual

/-- Reads one value, nested in at most `fuel` steps. -/
def value : Nat → List Char → Result Json
  | 0, text => .error ⟨.value, text⟩
  | fuel + 1, text =>
    match text with
    | '\x22' :: _ =>
      match string text with
      | .ok (s, rest) => .ok (.str s, rest)
      | .error fault => .error fault
    | '\x7b' :: rest =>
      match skipSpace rest with
      | '\x7d' :: more => .ok (.object [], more)
      | first => membersFrom fuel [] first
    | '[' :: rest =>
      match skipSpace rest with
      | ']' :: more => .ok (.list [], more)
      | first => itemsFrom fuel [] first
    | _ =>
      match word? text with
      | some found => .ok found
      | none => number text

/-- Reads the items of a list up to its bracket; `read` are those before, the last one first. -/
def itemsFrom : Nat → List Json → List Char → Result Json
  | 0, _, text => .error ⟨.value, text⟩
  | fuel + 1, read, text =>
    match value fuel text with
    | .error fault => .error fault
    | .ok (v, rest) =>
      match skipSpace rest with
      | ']' :: more => .ok (.list (v :: read).reverse, more)
      | ',' :: more => itemsFrom fuel (v :: read) (skipSpace more)
      | other => .error ⟨.comma, other⟩

/-- Reads the members of an object up to its brace. -/
def membersFrom : Nat → Members → List Char → Result Json
  | 0, _, text => .error ⟨.value, text⟩
  | fuel + 1, read, text =>
    match text with
    | '\x22' :: _ =>
      match string text with
      | .error fault => .error fault
      | .ok (name, rest) =>
        match skipSpace rest with
        | ':' :: more =>
          match value fuel (skipSpace more) with
          | .error fault => .error fault
          | .ok (v, rest) =>
            match skipSpace rest with
            | '\x7d' :: more => .ok (.object (distinctMembers ((name, v) :: read).reverse), more)
            | ',' :: more => membersFrom fuel ((name, v) :: read) (skipSpace more)
            | other => .error ⟨.comma, other⟩
        | other => .error ⟨.colon, other⟩
    | other => .error ⟨.propertyName, other⟩

end

def parse (text : List Char) : Except Fault Json :=
  match text with
  | '﻿' :: _ => .error ⟨.noByteOrderMark, text⟩
  | _ =>
    match value (2 * text.length + 2) (skipSpace text) with
    | .error fault => .error fault
    | .ok (v, rest) =>
      match skipSpace rest with
      | [] => .ok v
      | other => .error ⟨.endOfText, other⟩

end PropTyper.Json
