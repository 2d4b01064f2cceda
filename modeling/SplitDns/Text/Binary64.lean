/-!
# Binary64 values and their shortest decimal form

The hit rate of the answer cache is a binary64 quotient scaled by a hundred, printed as the
shortest decimal that reads back to the same value. Both steps are done here exactly, on
naturals. A positive value is `mantissa * 2 ^ exponent` with a mantissa of 53 bits, or of fewer
at the least exponent (a subnormal value), and rounding goes to the nearest such value, ties to
an even mantissa. The shortest form is the
decimal with the fewest significant digits inside the rounding interval of the value (its
ends included when the mantissa is even, as reading rounds ties to even), and among those the
one closest to the value.
-/

namespace SplitDns

/-- A positive binary64 value `mantissa * 2 ^ exponent`, with `2 ^ 52 ≤ mantissa < 2 ^ 53`, or
with a smaller mantissa at the least exponent. -/
structure Binary64 where
  mantissa : Nat
  exponent : Int
  deriving DecidableEq, Repr

/-- A decimal `digits * 10 ^ exponent`. -/
structure Decimal where
  digits : Nat
  exponent : Int
  deriving DecidableEq, Repr

namespace Binary64

/-- `n * 2 ^ e` as a numerator and a denominator. -/
def fraction (n : Nat) (e : Int) : Nat × Nat :=
  if e < 0 then (n, Nat.pow 2 (-e).toNat) else (n * Nat.pow 2 e.toNat, 1)

/-- The least exponent of a binary64 value. -/
def minExponent : Int := -1074

/-- Rounds `p / q * 2 ^ e`, for positive `p` and `q`, to 53 significant bits, ties to even, or
to a multiple of `2 ^ minExponent` below the least normal value. The first exponent guess puts
the scaled quotient strictly between `2 ^ 51` and `2 ^ 53`, so at most one step down brings it
to `2 ^ 52` or above; the exponent is then kept at or above the least. The mantissa is zero
when the value is below half the least subnormal one. -/
def round (p q : Nat) (e : Int) : Binary64 :=
  let guess : Int := (Nat.log2 p : Int) - Nat.log2 q - 52
  let (a, b) := fraction p (-guess)
  let s := if a < Nat.pow 2 52 * (b * q) then guess - 1 else guess
  let s := max s (minExponent - e)
  let (a, b) := fraction p (-s)
  let d := b * q
  let m := a / d
  let r := a % d
  let m := if 2 * r > d ∨ (2 * r = d ∧ m % 2 = 1) then m + 1 else m
  if m = Nat.pow 2 53 then ⟨Nat.pow 2 52, s + 1 + e⟩ else ⟨m, s + e⟩

/-- The binary64 quotient of two naturals, the first positive. -/
def ofQuotient (p q : Nat) : Binary64 := round p q 0

/-- The binary64 product of a value and a positive natural. -/
def scale (x : Binary64) (k : Nat) : Binary64 := round (x.mantissa * k) 1 x.exponent

/-- The binary64 sum of two values: the exact sum, over the smaller exponent, rounded. -/
def add (x y : Binary64) : Binary64 :=
  let e := min x.exponent y.exponent
  let a := x.mantissa * Nat.pow 2 (x.exponent - e).toNat
  let b := y.mantissa * Nat.pow 2 (y.exponent - e).toNat
  round (a + b) 1 e

/-- The binary64 quotient of a value by a positive natural. -/
def divide (x : Binary64) (k : Nat) : Binary64 := round x.mantissa k x.exponent

/-- Whether one value is below another. Mantissas all have 53 bits, so the exponent decides
first. -/
def lt (x y : Binary64) : Bool :=
  x.exponent < y.exponent || (x.exponent == y.exponent && x.mantissa < y.mantissa)

/-- Compares `c * 10 ^ k` with `n * 2 ^ t`. -/
def compareScaled (c : Nat) (k : Int) (n : Nat) (t : Int) : Ordering :=
  compare (c * Nat.pow 10 k.toNat * Nat.pow 2 (-t).toNat)
    (n * Nat.pow 2 t.toNat * Nat.pow 10 (-k).toNat)

/-- `n * 2 ^ t / 10 ^ k` as a numerator and a denominator. -/
def overPower (n : Nat) (t k : Int) : Nat × Nat :=
  (n * Nat.pow 2 t.toNat * Nat.pow 10 (-k).toNat, Nat.pow 2 (-t).toNat * Nat.pow 10 k.toNat)

/-- The number of decimal digits of a positive natural, less one. -/
def decimalOrder (n : Nat) : Nat := (Nat.toDigits 10 n).length - 1

/-- The decimal order of magnitude of the value: `10 ^ o ≤ v < 10 ^ (o + 1)`. -/
def order (x : Binary64) : Int :=
  let (num, den) := fraction x.mantissa x.exponent
  let guess : Int := (decimalOrder num : Int) - decimalOrder den
  if compareScaled 1 guess x.mantissa x.exponent = .gt then guess - 1 else guess

/-- The multiples `c * 10 ^ k` inside the rounding interval, given by the least and greatest
`c`, when there is one. The interval is `[4m - 2, 4m + 2] * Nat.pow 2 (e - 2)`, narrower below when
the mantissa is the least of its binade above the least exponent. -/
def candidates (x : Binary64) (k : Int) : Option (Nat × Nat) :=
  let t := x.exponent - 2
  let low := if x.mantissa = Nat.pow 2 52 ∧ x.exponent > minExponent then 4 * x.mantissa - 1
    else 4 * x.mantissa - 2
  let high := 4 * x.mantissa + 2
  let inclusive := x.mantissa % 2 = 0
  let (ln, ld) := overPower low t k
  let (hn, hd) := overPower high t k
  let first := if ln % ld = 0 then (if inclusive then ln / ld else ln / ld + 1) else ln / ld + 1
  let last := if hn % hd = 0 then (if inclusive then hn / hd else hn / hd - 1) else hn / hd
  if first ≤ last then some (first, last) else none

/-- The multiple of `10 ^ k` nearest the value, ties to even, kept within `[first, last]`. -/
def nearest (x : Binary64) (k : Int) (first last : Nat) : Nat :=
  let (n, d) := overPower (4 * x.mantissa) (x.exponent - 2) k
  let c := n / d
  let r := n % d
  let c := if 2 * r > d ∨ (2 * r = d ∧ c % 2 = 1) then c + 1 else c
  max first (min last c)

/-- The shortest decimal that reads back to the value. Digit positions are tried from just
above the value's order of magnitude downwards; seventeen significant digits always suffice. -/
def shortest (x : Binary64) : Decimal :=
  let o := order x
  let positions := (List.range 19).map fun (i : Nat) => o + 1 - (i : Int)
  match positions.findSome? fun k => (candidates x k).map fun (first, last) => (k, first, last) with
  | some (k, first, last) => ⟨nearest x k first last, k⟩
  | none => ⟨nearest x (o - 16) 0 (Nat.pow 10 17), o - 16⟩

end Binary64

namespace Decimal

/-- Zero. -/
def zero : Decimal := ⟨0, 0⟩

/-- The form of a decimal in plain notation when its point falls among or near its digits,
and in exponent notation otherwise; a whole number keeps a `.0`. -/
def toText (d : Decimal) : String :=
  if d.digits = 0 then "0.0"
  else
    let s := toString d.digits
    let n : Int := s.length
    let point := n + d.exponent
    if 0 ≤ d.exponent ∧ point ≤ 16 then
      s ++ String.ofList (List.replicate d.exponent.toNat '0') ++ ".0"
    else if 0 < point ∧ point ≤ 16 then
      String.ofList (s.toList.take point.toNat) ++ "." ++ String.ofList (s.toList.drop point.toNat)
    else if -5 < point ∧ point ≤ 0 then
      "0." ++ String.ofList (List.replicate (-point).toNat '0') ++ s
    else
      let mant := if n = 1 then s
        else String.ofList (s.toList.take 1) ++ "." ++ String.ofList (s.toList.drop 1)
      mant ++ "e" ++ toString (point - 1)

/-- The plain decimal notation of a decimal, never with an exponent, and with `.0` when no
digit follows the point. -/
def plainText (d : Decimal) : String :=
  let s := toString d.digits
  if d.exponent ≥ 0 then
    (if d.digits = 0 then "0" else s ++ String.ofList (List.replicate d.exponent.toNat '0')) ++ ".0"
  else
    let k := (-d.exponent).toNat
    let padded := String.ofList (List.replicate (k + 1 - min (k + 1) s.length) '0') ++ s
    let cut := padded.length - k
    String.ofList (padded.toList.take cut) ++ "." ++ String.ofList (padded.toList.drop cut)

end Decimal

/-- The share of hits among lookups in percent, as a binary64 quotient times a hundred; zero
when there were no hits. -/
def hitPercentage (hits lookups : Nat) : Decimal :=
  if hits = 0 ∨ lookups = 0 then Decimal.zero
  else ((Binary64.ofQuotient hits lookups).scale 100).shortest

end SplitDns
