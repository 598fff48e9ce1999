import PropTyper.Console.Picture

/-! # Marked text

A tag is a word in brackets that begins with a small letter or one of a few signs. A backslash
before it takes it for text. The console shows the text without its tags, of which those that close
something have to match one that is open.
-/

namespace PropTyper.Console

/-- Marked text in parts. Each bracket comes with the number of backslashes before it. -/
inductive Piece where
  | char (c : Char)
  | bracket (slashes : Nat)
  | tag (slashes : Nat) (body : List Char)
deriving DecidableEq, Repr, Inhabited

def isTagStart (c : Char) : Bool :=
  ('a' ≤ c && c ≤ 'z') || c = '#' || c = '/' || c = '@'

def isTagChar (c : Char) : Bool :=
  c ≠ '[' && c ≠ ']'

def tag? : List Char → Option (List Char × List Char)
  | [] => none
  | c :: rest =>
    if isTagStart c then
      match rest.dropWhile isTagChar with
      | ']' :: after => some (c :: rest.takeWhile isTagChar, after)
      | _ => none
    else none

theorem length_of_tag? {text body after : List Char} (h : tag? text = some (body, after)) :
    after.length < text.length := by
  cases text with
  | nil => simp [tag?] at h
  | cons c rest =>
    simp only [tag?] at h
    split at h
    · split at h
      · next heq =>
        cases h
        have hle : (rest.dropWhile isTagChar).length ≤ rest.length :=
          (List.dropWhile_sublist _).length_le
        rw [heq] at hle
        simp only [List.length_cons] at hle ⊢
        omega
      · cases h
    · cases h

def backslashes (count : Nat) : List Char :=
  List.replicate count '\\'

/-- The parts of a text, `slashes` backslashes of which have been read. -/
def pieces (slashes : Nat) (text : List Char) : List Piece :=
  match text with
  | [] => (backslashes slashes).map .char
  | '\\' :: rest => pieces (slashes + 1) rest
  | '[' :: rest =>
    match _h : tag? rest with
    | some (body, after) => .tag slashes body :: pieces 0 after
    | none => .bracket slashes :: pieces 0 rest
  | c :: rest => (backslashes slashes).map .char ++ .char c :: pieces 0 rest
termination_by text.length
decreasing_by
  all_goals simp only [List.length_cons]
  · omega
  · have := length_of_tag? _h
    omega
  · omega
  · omega

def Piece.escaped : Piece → List Char
  | char c => [c]
  | bracket slashes => backslashes slashes ++ ['[']
  | tag slashes body => backslashes (2 * slashes + 1) ++ '[' :: body ++ [']']

/-- A text whose tags are taken for text; a single backslash at its end is doubled. -/
def escape (text : String) : String :=
  let marked := (pieces 0 text.toList).flatMap Piece.escaped
  match marked.reverse with
  | ['\\'] => String.ofList (marked ++ ['\\'])
  | '\\' :: c :: _ => String.ofList (if c = '\\' then marked else marked ++ ['\\'])
  | _ => String.ofList marked

/-- Marked text as the console takes it. Names of pictures do not reach over the ends of a part. -/
inductive Segment where
  | text (chars : List Char)
  | opening (name : List Char)
  /-- Without a name it closes what was opened last. -/
  | closing (name : List Char)
deriving DecidableEq, Repr, Inhabited

/-- Names of tags are compared without white space around them and in lower case. -/
def tagName (text : List Char) : List Char :=
  (Text.lower (String.ofList (Text.trimEnd (text.dropWhile Text.isBlank)))).toList

/-- The tag with a given text; what follows an equals sign is not part of its name. -/
def Segment.ofTag (body : List Char) : Segment :=
  match body.takeWhile (· ≠ '=') with
  | '/' :: name => closing (tagName name)
  | name => opening (tagName name)

def Segment.ofText (chars : List Char) : List Segment :=
  if chars.isEmpty then [] else [text chars]

/-- Half of the backslashes before a tag are shown, and the tag itself if one is left over. -/
def Segment.ofTagged (slashes : Nat) (body : List Char) : List Segment :=
  ofText (backslashes (slashes / 2)) ++
    [if slashes % 2 = 1 then text ('[' :: body ++ [']']) else ofTag body]

/-- Joins the characters between tags; `held` are those before, the last one first. -/
def segments (held : List Char) : List Piece → List Segment
  | [] => Segment.ofText held.reverse
  | .char c :: rest => segments (c :: held) rest
  | .bracket slashes :: rest => segments ('[' :: (backslashes (slashes - 1) ++ held)) rest
  | .tag slashes body :: rest =>
    Segment.ofText held.reverse ++ Segment.ofTagged slashes body ++ segments [] rest

structure MarkupFault where
  name : String
deriving DecidableEq, Repr, Inhabited

/-- What is open after a tag. -/
def closeTag (name : List Char) (opened : List (List Char)) :
    Except MarkupFault (List (List Char)) :=
  if name.isEmpty then
    match opened with
    | [] => .error ⟨""⟩
    | _ :: rest => .ok rest
  else if opened.contains name then .ok (opened.erase name)
  else .error ⟨String.ofList name⟩

/-- Checks the tags of a text, before which the tags in `opened` are open, the last one first. -/
def checkTags (opened : List (List Char)) : List Segment → Except MarkupFault Unit
  | [] => .ok ()
  | .text _ :: rest => checkTags opened rest
  | .opening name :: rest => checkTags (name :: opened) rest
  | .closing name :: rest =>
    match closeTag name opened with
    | .ok opened => checkTags opened rest
    | .error fault => .error fault

/-- Control characters that move the cursor are not shown. -/
def isShown (c : Char) : Bool :=
  !([7, 8, 11, 12, 13].contains c.toNat)

/-- Some characters of a text: the number of the first, and of the one after the last. -/
abbrev Range := Nat × Nat

/-- What the console shows of marked text, and what its tags enclose. -/
structure Shown where
  text : List Char
  spans : List Range
deriving DecidableEq, Repr, Inhabited

def Segment.chars : Segment → List Char
  | text chars => (withPictures chars).filter isShown
  | _ => []

/-- What tags enclose in a text that goes on at `offset`. The tags in `opened`, the last one first,
are open there, each from its own offset on. -/
def tagSpans (offset : Nat) (opened : List (List Char × Nat)) : List Segment → List Range
  | [] => opened.map fun o => (o.2, offset)
  | .text chars :: rest => tagSpans (offset + (Segment.text chars).chars.length) opened rest
  | .opening name :: rest => tagSpans offset ((name, offset) :: opened) rest
  | .closing name :: rest =>
    match opened.find? fun o => name.isEmpty || o.1 = name with
    | some o => (o.2, offset) :: tagSpans offset (opened.erase o) rest
    | none => tagSpans offset opened rest

def shown (marked : String) : Except MarkupFault Shown :=
  let parts := segments [] (pieces 0 marked.toList)
  match checkTags [] parts with
  | .ok () => .ok ⟨parts.flatMap Segment.chars, tagSpans 0 [] parts⟩
  | .error fault => .error fault

/-- What is shown of a text, without regard to what its tags enclose. -/
def plain (marked : String) : Except MarkupFault (List Char) :=
  (shown marked).map Shown.text

end PropTyper.Console
