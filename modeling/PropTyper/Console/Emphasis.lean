import PropTyper.Console.Markup
import PropTyper.Text.Width
import PropTyper.Text.WordTable

/-! # Emphasis

The console sets off parts of a text by what they look like: tags, attributes, brackets, addresses,
calls, constants, numbers, paths, quoted texts and links. A part that is set off is measured by
itself, so all that is asked here is where parts begin and end.
-/

namespace PropTyper.Console

/-- A character with what is asked of it over and over. -/
structure Symbol where
  char : Char
  isWord : Bool
  /-- How far a name that goes on here, or starts here, reaches to an opening parenthesis. -/
  toCall : Option Nat
deriving DecidableEq, Repr, Inhabited

def symbols : List Char → List Symbol
  | [] => []
  | c :: rest =>
    let later := symbols rest
    let isWord := Text.isWord c
    let toCall :=
      if c = '(' then some 0
      else if isWord || c = '.' then (later.head?.bind (·.toCall)).map (· + 1)
      else none
    ⟨c, isWord, toCall⟩ :: later

/-- What a rule takes from a text: its length, and the parts in it that are set off. -/
structure Match where
  length : Nat
  parts : List Range
deriving DecidableEq, Repr, Inhabited

/-- A rule looks at a text and at the character before it. -/
abbrev EmphasisRule := Option Symbol → List Symbol → Option Match

namespace Emphasis

def whole (length : Option Nat) : Option Match :=
  length.map fun n => ⟨n, [(0, n)]⟩

def isDigit (s : Symbol) : Bool :=
  s.char.isDigit

def isHex (s : Symbol) : Bool :=
  isDigit s || ('a' ≤ s.char && s.char ≤ 'f') || ('A' ≤ s.char && s.char ≤ 'F')

def startsWith (text : List Symbol) (c : Char) : Bool :=
  text.head?.any (·.char = c)

def startsWithWord (text : List Symbol) : Bool :=
  text.head?.any (·.isWord)

def count (p : Symbol → Bool) (text : List Symbol) : Nat :=
  (text.takeWhile p).length

/-- A group of symbols, as many as there are up to `most`, if these are enough. -/
def group (least most : Nat) (p : Symbol → Bool) (text : List Symbol) : Option Nat :=
  let n := count p (text.take most)
  if least ≤ n then some n else none

def grouped (least most : Nat) (p : Symbol → Bool) (sign : Char) :
    Nat → List Symbol → Option Nat
  | 0, text => group least most p text
  | more + 1, text =>
    match group least most p text with
    | none => none
    | some n =>
      if startsWith (text.drop n) sign then
        (grouped least most p sign more (text.drop (n + 1))).map (n + 1 + ·)
      else none

/-! ## Addresses -/

def dotted : EmphasisRule := fun _ text =>
  whole (grouped 1 3 isDigit '.' 3 text)

def colonGroup (text : List Symbol) : Option Nat :=
  match group 1 4 isHex text with
  | none => none
  | some n =>
    if startsWith (text.drop n) ':' then
      some (if startsWith (text.drop (n + 1)) ':' then n + 2 else n + 1)
    else none

/-- Groups with colons, at most `more`, and a last one without. -/
def colonGroups : Nat → List Symbol → Option Nat
  | 0, text => group 1 4 isHex text
  | more + 1, text =>
    let further :=
      (colonGroup text).bind fun n => (colonGroups more (text.drop n)).map (n + ·)
    further.or (group 1 4 isHex text)

def coloned : EmphasisRule := fun _ text =>
  whole ((colonGroup text).bind fun n => (colonGroups 6 (text.drop n)).map (n + ·))

/-- Device addresses of `pairs` and one more pairs of digits, or of `fours` and one more groups of
four. -/
def device (pairs fours : Nat) : EmphasisRule := fun _ text =>
  whole ((grouped 1 2 isHex '-' pairs text).or ((grouped 1 2 isHex ':' pairs text).or
    (grouped 4 4 isHex '.' fours text)))

def hyphened : List Nat → List Symbol → Option Nat
  | [], _ => none
  | [size], text => group size size isHex text
  | size :: rest, text =>
    match group size size isHex text with
    | none => none
    | some n =>
      if startsWith (text.drop n) '-' then
        (hyphened rest (text.drop (n + 1))).map (n + 1 + ·)
      else none

def identifier : EmphasisRule := fun _ text =>
  whole (hyphened [8, 4, 4, 4, 12] text)

/-! ## Names -/

/-- The name before an opening parenthesis. -/
def call : EmphasisRule := fun _ text =>
  (text.head?.bind (·.toCall)).map fun n => ⟨n + 1, if n = 0 then [] else [(0, n)]⟩

def startsWithText (text : List Symbol) (word : String) : Bool :=
  (text.take word.length).map (·.char) = word.toList

def constant (word : String) : EmphasisRule := fun before text =>
  if startsWithText text word && !before.any (·.isWord) &&
      !startsWithWord (text.drop word.length) then
    whole (some word.length)
  else none

def ellipsis : EmphasisRule := fun _ text =>
  if startsWithText text "..." then whole (some 3) else none

/-! ## Numbers -/

def decimal (text : List Symbol) : Option Nat :=
  match count isDigit text with
  | 0 => none
  | n =>
    if startsWith (text.drop n) '.' then some (n + 1 + count isDigit (text.drop (n + 1)))
    else some n

/-- The length of an exponent; zero where there is none. -/
def exponent (text : List Symbol) : Nat :=
  if startsWith text 'e' then
    let signed := startsWith (text.drop 1) '+' || startsWith (text.drop 1) '-'
    let lead := if signed then 2 else 1
    match count isDigit (text.drop lead) with
    | 0 => 0
    | n => lead + n
  else 0

def scientific (text : List Symbol) : Option Nat :=
  (decimal text).map fun n => n + exponent (text.drop n)

def signLength (text : List Symbol) : Nat :=
  if startsWith text '-' then 1 else 0

/-- One or two numbers before the sign of the imaginary unit. -/
def imaginary : EmphasisRule := fun before text =>
  if before.any (·.isWord) then none
  else
    match scientific (text.drop (signLength text)) with
    | none => none
    | some n =>
      let first := signLength text + n
      let rest := text.drop first
      let second :=
        if startsWith rest '+' || startsWith rest '-' then (scientific (rest.drop 1)).map (1 + ·)
        else none
      let length := first + second.getD 0
      if startsWith (text.drop length) 'j' then whole (some (length + 1)) else none

/-- A number ends where a word does. If it does not with all that belongs to it, it ends after its
point, or else before it. -/
def plainNumber (text : List Symbol) : Option Nat :=
  let sign := signLength text
  match count isDigit (text.drop sign) with
  | 0 => none
  | n =>
    let lead := sign + n
    let pointed := startsWith (text.drop lead) '.'
    let fraction := if pointed then count isDigit (text.drop (lead + 1)) else 0
    let full := if pointed then lead + 1 + fraction else lead
    let power := exponent (text.drop full)
    if power ≠ 0 && !startsWithWord (text.drop (full + power)) then some (full + power)
    else if startsWithWord (text.drop full) = (pointed && fraction = 0) then some full
    else if pointed then some (if fraction = 0 then lead else lead + 1)
    else none

def hexadecimal (text : List Symbol) : Option Nat :=
  if startsWithText text "0x" then some (2 + count isHex (text.drop 2)) else none

def number : EmphasisRule := fun before text =>
  whole ((if before.any (·.isWord) then none else plainNumber text).or (hexadecimal text))

/-! ## Paths, quoted texts and links -/

def isNameSymbol (s : Symbol) : Bool :=
  s.isWord || s.char = '-' || s.char = '.' || s.char = '+'

/-- The part of a path up to its last separator, `done` symbols of which have been read. -/
def directoryLength (done : Nat) : Nat → List Symbol → Nat
  | 0, _ => done
  | fuel + 1, text =>
    let n := count isNameSymbol (text.drop 1)
    if n ≠ 0 && startsWith (text.drop (1 + n)) '/' then
      directoryLength (done + 1 + n) fuel (text.drop (1 + n))
    else done + 1

def path : EmphasisRule := fun before text =>
  if startsWith text '/' && !before.any (·.isWord) then
    let directory := directoryLength 0 text.length text
    let name := count isNameSymbol (text.drop directory)
    some ⟨directory + name,
      (0, directory) :: if name = 0 then [] else [(directory, directory + name)]⟩
  else none

/-- The length of a text up to quotes that end it: `quotes` of them in the same line, and none with a
backslash before. -/
def closing (quotes : List Char) (before : Char) : List Symbol → Option Nat
  | [] => none
  | s :: rest =>
    if before ≠ '\\' && ((s :: rest).take quotes.length).map (·.char) = quotes then
      some quotes.length
    else if s.char = '\n' then none
    else (closing quotes s.char rest).map (· + 1)

def quotedBy (quotes : List Char) (text : List Symbol) : Option Nat :=
  match quotes with
  | [] => none
  | quote :: _ =>
    if (text.take quotes.length).map (·.char) = quotes then
      (closing quotes quote (text.drop quotes.length)).map (quotes.length + ·)
    else none

/-- A text in three or one of either quotes, which a letter may mark. -/
def quoted : EmphasisRule := fun before text =>
  if before.any fun s => s.isWord || s.char = '\\' then none
  else
    let lead := if startsWith text 'b' then 1 else 0
    let inner := text.drop lead
    let single := '\x27'
    let double := '\x22'
    let length := (quotedBy [single, single, single] inner).or ((quotedBy [single] inner).or
      ((quotedBy [double, double, double] inner).or (quotedBy [double] inner)))
    whole (length.map (lead + ·))

def isLinkSymbol (s : Symbol) : Bool :=
  s.char.isAlphanum || "-$_+!\x60(),.?/;:&=%#~@".toList.contains s.char

def link : EmphasisRule := fun _ text =>
  let schemes := ["file://", "https://", "http://", "ws://", "wss://"]
  match schemes.find? (startsWithText text) with
  | some scheme => whole (some (scheme.length + count isLinkSymbol (text.drop scheme.length)))
  | none => none

/-! ## All rules -/

/-- A name with an equals sign, and the value after it if there is one. -/
def assignment : EmphasisRule := fun _ text =>
  match group 1 50 (·.isWord) text with
  | none => none
  | some n =>
    if startsWith (text.drop n) '=' then
      let value := text.drop (n + 1)
      let opened := if startsWith value '\x22' then 1 else 0
      match count (·.isWord) (value.drop opened) with
      | 0 => some ⟨n + 1, [(0, n)]⟩
      | word =>
        let closed := if startsWith (value.drop (opened + word)) '\x22' then 1 else 0
        let length := n + 1 + opened + word + closed
        some ⟨length, [(0, n), (n + 1, length)]⟩
    else none

def bracket : EmphasisRule := fun _ text =>
  if text.head?.any fun s => "[]\x7b\x7d()".toList.contains s.char then whole (some 1) else none

/-- The rules of which one applies at a time, those before others first. -/
def rules : List EmphasisRule :=
  [dotted, coloned, device 7 3, device 5 2, identifier, call, constant "True", constant "False",
    constant "None", ellipsis, imaginary, number, path, quoted, link]

def anyRule : EmphasisRule := fun before text =>
  rules.findSome? fun rule => rule before text

/-- The parts that a rule sets off in a text which starts at `offset`, of which the first `skip`
symbols belong to the last match. -/
def scan (rule : EmphasisRule) (skip offset : Nat) (before : Option Symbol) :
    List Symbol → List Range
  | [] => []
  | s :: rest =>
    if skip ≠ 0 then scan rule (skip - 1) (offset + 1) (some s) rest
    else
      match rule before (s :: rest) with
      | none => scan rule 0 (offset + 1) (some s) rest
      | some m =>
        m.parts.map (fun p => (offset + p.1, offset + p.2)) ++
          scan rule (m.length - 1) (offset + 1) (some s) rest

/-- From the first opening angle bracket to the last closing one: the brackets, the name, the rest. -/
def tagParts (text : List Symbol) : List Range :=
  let start := count (·.char ≠ '<') text
  let after := text.drop (start + 1)
  let inside := after.length - (count (·.char ≠ '>') after.reverse + 1)
  if after.any (·.char = '>') then
    let isTagName (s : Symbol) : Bool := s.isWord || "-.:|".toList.contains s.char
    let name := start + 1 + count isTagName after
    let stop := start + 1 + inside
    [(start, start + 1), (start + 1, name), (name, stop), (stop, stop + 1)]
  else []

def parts (text : List Char) : List Range :=
  let all := symbols text
  tagParts all ++ scan assignment 0 0 none all ++ scan bracket 0 0 none all ++
    scan anyRule 0 0 none all

end Emphasis

/-- The places after the tabs of a text that goes on at `offset`. -/
def tabEnds (offset : Nat) : List Char → List Nat
  | [] => []
  | c :: rest =>
    if c = '\t' then (offset + 1) :: tabEnds (offset + 1) rest else tabEnds (offset + 1) rest

/-- Where the console takes a text apart: where something that a tag encloses or that is set off
begins or ends, and after each tab inside. Only a joiner can tell that it does. -/
def Shown.cuts (s : Shown) : List Nat :=
  if s.text.contains Text.joiner then
    let spans := s.spans ++ Emphasis.parts s.text
    spans.flatMap (fun span => [span.1, span.2]) ++
      (tabEnds 0 s.text).filter fun place => spans.any fun span => span.1 < place && place < span.2
  else []

end PropTyper.Console
