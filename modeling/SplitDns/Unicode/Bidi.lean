import SplitDns.Unicode.Runs
import SplitDns.Unicode.BidiData
/-!
# Bidirectional classes

The bidirectional class of a character, as the rule for right-to-left labels needs it.
-/

namespace SplitDns
namespace Unicode

/-- A bidirectional class. -/
inductive BidiClass where
  | leftToRight
  | rightToLeft
  | arabicLetter
  | europeanNumber
  | europeanSeparator
  | europeanTerminator
  | arabicNumber
  | commonSeparator
  | nonspacingMark
  | boundaryNeutral
  | otherNeutral
  | other
  deriving DecidableEq, Repr, Inhabited

/-- The class an abbreviation of the data stands for; the classes the label rule does not
name are together `other`. -/
def BidiClass.ofAbbrev (cs : List Char) : BidiClass :=
  match String.ofList (cs.drop 1) with
  | "L" => .leftToRight
  | "R" => .rightToLeft
  | "AL" => .arabicLetter
  | "EN" => .europeanNumber
  | "ES" => .europeanSeparator
  | "ET" => .europeanTerminator
  | "AN" => .arabicNumber
  | "CS" => .commonSeparator
  | "NSM" => .nonspacingMark
  | "BN" => .boundaryNeutral
  | "ON" => .otherNeutral
  | _ => .other

/-- The class of every code point. -/
def bidiTable : RunTable BidiClass := RunTable.ofText BidiClass.ofAbbrev bidiRuns

/-- The bidirectional class of a character. -/
def bidiClass (c : Char) : BidiClass := bidiTable.get c.toNat

end Unicode
end SplitDns
