/-!
# Blank and control characters

`isBlank` is the Unicode `White_Space` property (twenty-five code points), `isControl` the
general category `Cc`. `trimBlank` drops blanks at both ends of a text, which is how every
address and table line is cleaned before it is read.
-/

namespace SplitDns.Text

/-- A character with the Unicode `White_Space` property. -/
def isBlank (c : Char) : Bool :=
  let n := c.toNat
  (0x09 ≤ n && n ≤ 0x0D) || n == 0x20 || n == 0x85 || n == 0xA0 || n == 0x1680 ||
    (0x2000 ≤ n && n ≤ 0x200A) || n == 0x2028 || n == 0x2029 || n == 0x202F ||
    n == 0x205F || n == 0x3000

/-- A character of the Unicode general category `Cc`. -/
def isControl (c : Char) : Bool :=
  c.toNat < 0x20 || (0x7F ≤ c.toNat && c.toNat ≤ 0x9F)

/-- Drops blanks from the front of a character list. -/
def dropBlank (cs : List Char) : List Char := cs.dropWhile isBlank

/-- Drops blanks at both ends of a character list. -/
def trimBlankList (cs : List Char) : List Char :=
  (dropBlank (dropBlank cs).reverse).reverse

/-- Drops blanks at both ends of a text. -/
def trimBlank (s : String) : String := String.ofList (trimBlankList s.toList)

end SplitDns.Text
