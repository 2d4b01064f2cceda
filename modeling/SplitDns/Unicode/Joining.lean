import SplitDns.Unicode.Runs
import SplitDns.Unicode.JoiningData
/-!
# Joining types

The joining type of a character, which decides where a zero-width non-joiner may stand between
letters of a joining script.
-/

namespace SplitDns
namespace Unicode

/-- A joining type. -/
inductive JoiningType where
  | causing
  | dual
  | left
  | right
  | transparent
  | none
  deriving DecidableEq, Repr, Inhabited

/-- The type a letter of the data stands for. -/
def JoiningType.ofLetter : List Char → JoiningType
  | 'C' :: _ => .causing
  | 'D' :: _ => .dual
  | 'L' :: _ => .left
  | 'R' :: _ => .right
  | 'T' :: _ => .transparent
  | _ => .none

/-- The joining type of every code point. -/
def joiningTable : RunTable JoiningType := RunTable.ofText JoiningType.ofLetter joiningRuns

/-- The joining type of a character. -/
def joiningType (c : Char) : JoiningType := joiningTable.get c.toNat

end Unicode
end SplitDns
