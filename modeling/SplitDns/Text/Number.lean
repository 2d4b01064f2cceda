/-!
# Numbers in text

Reading an unsigned integer the way a strict decimal reader does: an optional `+`, then one or
more ASCII digits, leading zeros allowed, and a value below a bound. Writing numbers in
lowercase hexadecimal, in octal and in binary.
-/

namespace SplitDns.Text

/-- The value of an ASCII digit in a radix of at most 36, letters in either case. -/
def digitValue (radix : Nat) (c : Char) : Option Nat :=
  let n := c.toNat
  let v :=
    if 0x30 ≤ n ∧ n ≤ 0x39 then some (n - 0x30)
    else if 0x61 ≤ n ∧ n ≤ 0x7A then some (n - 0x61 + 10)
    else if 0x41 ≤ n ∧ n ≤ 0x5A then some (n - 0x41 + 10)
    else none
  match v with
  | some d => if d < radix then some d else none
  | none => none

/-- The value of a nonempty list of digits, most significant first. -/
def digitsValue (radix : Nat) : List Char → Option Nat
  | [] => none
  | c :: cs => go cs <$> (digitValue radix c)
where
  go (cs : List Char) (acc : Nat) : Nat :=
    cs.foldl (fun a d => a * radix + (digitValue radix d).getD 0) acc

/-- Every character is a digit of the radix. -/
def allDigits (radix : Nat) (cs : List Char) : Bool :=
  cs.all fun c => (digitValue radix c).isSome

/-- Reads an unsigned decimal below `bound`: an optional `+`, then ASCII digits only. -/
def readUnsigned (bound : Nat) (s : String) : Option Nat :=
  let cs := s.toList
  let body := match cs with
    | '+' :: rest => rest
    | _ => cs
  if body.isEmpty || !allDigits 10 body then none
  else match digitsValue 10 body with
    | some v => if v < bound then some v else none
    | none => none

/-- The digits of `n` in a radix from 2 to 16, most significant first, lowercase. -/
def toDigitsIn (radix : Nat) (n : Nat) : List Char :=
  (Nat.toDigits radix n)

/-- Lowercase hexadecimal without leading zeros. -/
def hex (n : Nat) : String := String.ofList (toDigitsIn 16 n)

/-- Binary without leading zeros. -/
def binary (n : Nat) : String := String.ofList (toDigitsIn 2 n)

/-- Three octal digits, for a byte. -/
def octal3 (n : Nat) : String :=
  String.ofList [Char.ofNat (0x30 + n / 64 % 8), Char.ofNat (0x30 + n / 8 % 8),
    Char.ofNat (0x30 + n % 8)]

/-- Two lowercase hexadecimal digits of a byte. -/
def hexByte (b : UInt8) : String :=
  let d := "0123456789abcdef".toList
  String.ofList [d.getD (b.toNat / 16) '0', d.getD (b.toNat % 16) '0']

/-- A byte string as lowercase hexadecimal, two digits a byte. -/
def hexOfBytes (bs : ByteArray) : String :=
  bs.data.foldl (fun acc b => acc ++ hexByte b) ""

/-- Reads hexadecimal pairs into bytes; odd length or a non-digit gives none. -/
def bytesOfHex (s : String) : Option ByteArray :=
  let rec go : List Char → Option (List UInt8)
    | [] => some []
    | [_] => none
    | a :: b :: rest =>
      match digitValue 16 a, digitValue 16 b, go rest with
      | some x, some y, some tail => some (UInt8.ofNat (x * 16 + y) :: tail)
      | _, _, _ => none
  (go s.toList).map fun l => ByteArray.mk l.toArray

end SplitDns.Text
