/-! # Parts of a text -/

namespace PropTyper.Text

/-- The parts of a text between the characters at which it is divided; there is always one. -/
def parts (isEnd : Char → Bool) : List Char → List (List Char)
  | [] => [[]]
  | c :: rest =>
    if isEnd c then [] :: parts isEnd rest
    else
      match parts isEnd rest with
      | first :: others => (c :: first) :: others
      | [] => [[c]]

theorem parts_ne_nil (isEnd : Char → Bool) (text : List Char) : parts isEnd text ≠ [] := by
  cases text with
  | nil => simp [parts]
  | cons c rest =>
    unfold parts
    split
    · simp
    · split <;> simp

end PropTyper.Text
