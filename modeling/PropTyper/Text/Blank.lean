/-! # White space -/

namespace PropTyper.Text

/-- Unicode white space, and the four separators of ASCII. -/
def isBlank (c : Char) : Bool :=
  let n := c.toNat
  (0x9 ≤ n && n ≤ 0xd) || (0x1c ≤ n && n ≤ 0x20) || n = 0x85 || n = 0xa0 || n = 0x1680 ||
    (0x2000 ≤ n && n ≤ 0x200a) || n = 0x2028 || n = 0x2029 || n = 0x202f || n = 0x205f || n = 0x3000

def withoutBlanks (text : String) : String :=
  String.ofList (text.toList.filter fun c => !isBlank c)

def isAllBlank (text : String) : Bool :=
  text.toList.all isBlank

def trimEnd (text : List Char) : List Char :=
  (text.reverse.dropWhile isBlank).reverse

def trim (text : List Char) : List Char :=
  trimEnd (text.dropWhile isBlank)

end PropTyper.Text
