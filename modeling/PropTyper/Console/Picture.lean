import PropTyper.Console.PictureTable
import PropTyper.Text.Blank
import PropTyper.Text.Case

/-! # Pictures by name

A name between colons stands for a picture. An ending of the name asks for the picture in colours,
or as plain as a letter.
-/

namespace PropTyper.Console

/-- The text up to the next colon, and what follows the colon. White space ends the search. -/
def code? (text : List Char) : Option (List Char × List Char) :=
  let isInside (c : Char) : Bool := c ≠ ':' && !Text.isBlank c
  match text.dropWhile isInside with
  | ':' :: after => some (text.takeWhile isInside, after)
  | _ => none

theorem length_of_code? {text body after : List Char} (h : code? text = some (body, after)) :
    after.length < text.length := by
  simp only [code?] at h
  split at h
  · next heq =>
    cases h
    have hle := (List.dropWhile_sublist (l := text) fun c => c ≠ ':' && !Text.isBlank c).length_le
    rw [heq] at hle
    simp only [List.length_cons] at hle
    omega
  · cases h

/-- Endings of a name, each with the sign that it puts after the picture. -/
def endings : List (List Char × List Char) :=
  [("-emoji".toList, ['\ufe0f']), ("-text".toList, ['\ufe0e'])]

def splitEnding (body : List Char) : List Char × List Char :=
  match endings.find? fun e => e.1.isSuffixOf body with
  | some (ending, sign) => (body.take (body.length - ending.length), sign)
  | none => (body, [])

/-- The picture that the text between two colons asks for. -/
def picture? (body : List Char) : Option (List Char) :=
  let (name, sign) := splitEnding body
  (pictures.lookup (Text.lower (String.ofList name))).map fun picture => picture.toList ++ sign

/-- A text with pictures for their names. A name that is not known stays with both its colons. -/
def withPictures (text : List Char) : List Char :=
  match text with
  | [] => []
  | ':' :: rest =>
    match _h : code? rest with
    | some (body, after) => (picture? body).getD (':' :: body ++ [':']) ++ withPictures after
    | none => ':' :: withPictures rest
  | c :: rest => c :: withPictures rest
termination_by text.length
decreasing_by
  · have := length_of_code? _h
    simp only [List.length_cons]
    omega
  · simp only [List.length_cons]
    omega
  · simp only [List.length_cons]
    omega

end PropTyper.Console
