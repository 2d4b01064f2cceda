import SplitDns.Unicode.Runs
import SplitDns.Unicode.CategoryData
/-!
# Character classes

The few classes of the Unicode general category and the grapheme-extend property that text
handling here asks about: whether a character is a mark, a number, extends the grapheme before
it, or is shown as itself when text is quoted. A character is shown as itself unless it is a
control, a format character, a surrogate, private use, unassigned, or a separator other than
the space; past the first two planes only the code points left unassigned between the
ideograph blocks, and the planes from the variation selectors on, are not.
-/

namespace SplitDns
namespace Unicode

/-- The class of a character. -/
inductive CharClass where
  | extendingMark
  | extendingOther
  | mark
  | number
  | unprintable
  | other
  deriving DecidableEq, Repr, Inhabited

/-- The class a letter of the data stands for. -/
def CharClass.ofLetter : List Char → CharClass
  | 'E' :: _ => .extendingMark
  | 'F' :: _ => .extendingOther
  | 'M' :: _ => .mark
  | 'N' :: _ => .number
  | 'X' :: _ => .unprintable
  | _ => .other

/-- The class of every code point. -/
def classTable : RunTable CharClass := RunTable.ofText CharClass.ofLetter categoryRuns

/-- The class of a character. -/
def charClass (c : Char) : CharClass := classTable.get c.toNat

/-- A mark: general category `Mn`, `Mc` or `Me`. -/
def isMark (c : Char) : Bool :=
  match charClass c with
  | .extendingMark | .mark => true
  | _ => false

/-- A number: general category `Nd`, `Nl` or `No`. -/
def isNumeric (c : Char) : Bool := charClass c == .number

/-- A character with the grapheme-extend property. -/
def isGraphemeExtend (c : Char) : Bool :=
  match charClass c with
  | .extendingMark | .extendingOther => true
  | _ => false

/-- The code points past the first two planes that are not shown as themselves. -/
def unshownHigh : List (Nat × Nat) :=
  [(0x2A6E0, 0x2A700), (0x2B73A, 0x2B740), (0x2B81E, 0x2B820), (0x2CEA2, 0x2CEB0),
   (0x2EBE1, 0x2EBF0), (0x2EE5E, 0x2F800), (0x2FA1E, 0x30000), (0x3134B, 0x31350),
   (0x323B0, 0xE0100), (0xE01F0, 0x110000)]

/-- Whether a character is shown as itself when text is quoted. -/
def isPrintable (c : Char) : Bool :=
  let n := c.toNat
  if n < 0x20 then false
  else if n < 0x7F then true
  else if n < 0x20000 then charClass c != .unprintable
  else !unshownHigh.any fun (lo, hi) => lo ≤ n && n < hi

end Unicode
end SplitDns
