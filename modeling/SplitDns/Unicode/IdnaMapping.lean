import SplitDns.Unicode.Runs
import SplitDns.Unicode.IdnaData
/-!
# Internationalised domain name mapping

The UTS #46 status of a character: valid, a deviation kept as it is, ignored, disallowed, or
mapped to other characters.
-/

namespace SplitDns
namespace Unicode

/-- What the mapping does with a character. -/
inductive IdnaStatus where
  | valid
  | deviation
  | ignored
  | disallowed
  | mapped (image : List Nat)
  deriving DecidableEq, Repr, Inhabited

/-- The status an entry of the data stands for. -/
def IdnaStatus.ofEntry : List Char → IdnaStatus
  | 'V' :: _ => .valid
  | 'D' :: _ => .deviation
  | 'I' :: _ => .ignored
  | 'M' :: rest => .mapped (readHexList rest)
  | _ => .disallowed

/-- The status of every code point. -/
def idnaTable : RunTable IdnaStatus := RunTable.ofText IdnaStatus.ofEntry idnaRuns

/-- The status of a character. -/
def idnaStatus (c : Char) : IdnaStatus := idnaTable.get c.toNat

end Unicode
end SplitDns
