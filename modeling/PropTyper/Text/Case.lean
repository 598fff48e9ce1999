import PropTyper.Text.CaseTable

/-! # Upper and lower case -/

namespace PropTyper.Text

def isUpper (c : Char) : Bool :=
  CaseTable.uppercase.any fun run => run.contains c.toNat

def isCased (c : Char) : Bool :=
  CaseTable.cased.any fun run => run.contains c.toNat

def isCaseIgnorable (c : Char) : Bool :=
  CaseTable.ignorable.any fun run => run.contains c.toNat

/-- A character's form in another case, by the table of single characters, else by the other. -/
def mapped (single : List Shift) (several : List (Nat × List Nat)) (c : Char) : List Char :=
  match several.lookup c.toNat with
  | some codes => codes.map Char.ofNat
  | none =>
    match shifted? single c.toNat with
    | some code => [Char.ofNat code]
    | none => [c]

/-- The first character that is not ignored beside letters is a letter with case. -/
def meetsCased (text : List Char) : Bool :=
  match text.dropWhile isCaseIgnorable with
  | c :: _ => isCased c
  | [] => false

/-- Lower case after the characters `before`, the last one first. A sigma that ends a word has a
form of its own. -/
def lowerFrom (before : List Char) : List Char → List Char
  | [] => []
  | c :: rest =>
    let form :=
      if c.toNat = 0x3a3 then
        [Char.ofNat (if meetsCased before && !meetsCased rest then 0x3c2 else 0x3c3)]
      else mapped CaseTable.toLower CaseTable.toLowerSeveral c
    form ++ lowerFrom (c :: before) rest

def lower (text : String) : String :=
  String.ofList (lowerFrom [] text.toList)

def upper (text : String) : String :=
  String.ofList (text.toList.flatMap (mapped CaseTable.toUpper CaseTable.toUpperSeveral))

end PropTyper.Text
