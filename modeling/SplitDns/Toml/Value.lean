import SplitDns.Toml.Fault
import SplitDns.Text.Binary64
/-!
# TOML values

The values of a document: strings, integers of any size, floats, booleans, date-times kept as
their text, arrays and tables, every value inside a table or an array with the range it was
read from. A float is kept as its binary64 value, rounded to nearest, ties to even, with
subnormal values below the least normal one; a literal beyond the largest finite value is kept
as overflowed, for whoever reads it to refuse.

A table records how it came to be, as far as later keys and headers care: whether it only
exists on the way to a deeper key (implicit), whether dotted keys made it, and whether it was
written inline. An array records whether headers made it, as an array of tables.
-/

namespace SplitDns
namespace Toml

/-- A binary64 value: finite with a sign and a magnitude (none for zero), infinite, not a
number, or a literal too large for any finite value. -/
inductive TomlFloat where
  | finite (negative : Bool) (magnitude : Option Binary64)
  | infinite (negative : Bool)
  | nan (negative : Bool)
  | overflowed
  deriving DecidableEq, Repr

/-- How a table came to be. -/
structure TableFlags where
  /-- Made on the way to a deeper key and not defined itself. -/
  implicit : Bool := false
  /-- Made by a dotted key. -/
  dotted : Bool := false
  /-- Written inline, and closed to later keys. -/
  inline : Bool := false
  deriving DecidableEq, Repr

/-- A TOML value; every value inside a table or an array keeps the range it was read from. -/
inductive Value where
  | string (s : String)
  | integer (v : Int)
  | float (x : TomlFloat)
  | boolean (b : Bool)
  | datetime (text : String)
  | array (items : List (Value × Span)) (ofTables : Bool)
  | table (entries : List (String × Value × Span)) (flags : TableFlags)
  deriving Repr

/-- The entries of a table. -/
abbrev Entries := List (String × Value × Span)

/-- The name of the kind of a value, as a fault about extending it names it. -/
def Value.kindName : Value → String
  | .string _ => "string"
  | .integer _ => "integer"
  | .float _ => "float"
  | .boolean _ => "boolean"
  | .datetime _ => "datetime"
  | .array _ _ => "array"
  | .table _ flags => if flags.inline then "inline table" else "table"

/-- The greatest exponent of a finite binary64 value with a 53-bit mantissa. -/
def maxExponent : Int := 971

/-- The number of decimal digits of a natural. -/
def decimalLength (n : Nat) : Nat := (Nat.toDigits 10 n).length

/-- A decimal `digits * 10 ^ exponent` rounded to binary64: overflowed past the largest finite
value, zero below half the least subnormal one. Decimals far outside the range are decided by
their order of magnitude alone. -/
def decimalToFloat (negative : Bool) (digits : Nat) (exponent : Int) : TomlFloat :=
  if digits = 0 then .finite negative none
  else
    let order : Int := decimalLength digits + exponent
    if order > 310 then .overflowed
    else if order < -330 then .finite negative none
    else
      let (p, q) := if exponent ≥ 0 then (digits * Nat.pow 10 exponent.toNat, 1)
        else (digits, Nat.pow 10 (-exponent).toNat)
      let x := Binary64.round p q 0
      if x.exponent > maxExponent then .overflowed
      else if x.mantissa = 0 then .finite negative none
      else .finite negative (some x)

end Toml
end SplitDns
