import PropTyper.Text.Loose
import PropTyper.Text.Printable

/-! # Texts in quotes

A text as a report shows it: in single quotes, or in double quotes if it holds single ones only.
Characters that cannot be printed are shown by their number.
-/

namespace PropTyper.Text

/-- The last `count` hexadecimal digits of a number. -/
def hex : Nat → Nat → List Char
  | 0, _ => []
  | count + 1, n => hex count (n / 16) ++ [Nat.digitChar (n % 16)]

def shownChar (quote c : Char) : List Char :=
  if c = quote || c = '\\' then ['\\', c]
  else if c = '\n' then ['\\', 'n']
  else if c = '\r' then ['\\', 'r']
  else if c = '\t' then ['\\', 't']
  else if isPrintable c then [c]
  else if c.toNat < 0x100 then '\\' :: 'x' :: hex 2 c.toNat
  else if c.toNat < 0x10000 then '\\' :: 'u' :: hex 4 c.toNat
  else '\\' :: 'U' :: hex 8 c.toNat

def quoteFor (text : List Char) : Char :=
  if text.contains '\x27' && !text.contains '\x22' then '\x22' else '\x27'

def shownSign (quote : Char) : Sign → List Char
  | .char c => shownChar quote c
  | .half offset => '\\' :: 'u' :: hex 4 (Sign.firstHalf + offset.val)

def shown (text : LooseText) : String :=
  let quote := quoteFor (text.filterMap Sign.char?)
  String.ofList (quote :: (text.flatMap (shownSign quote) ++ [quote]))

end PropTyper.Text
