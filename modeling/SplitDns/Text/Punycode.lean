/-!
# Punycode

The bootstring encoding of RFC 3492 with the parameters of internationalised domain names:
base 36, `tmin` 1, `tmax` 26, skew 38, damp 700, initial bias 72 and initial code point 128.
`encode` writes the basic (ASCII) code points first, a `-` if there were any, then the
deltas of the others as variable-length base-36 numbers; `decode` undoes it and fails on a
bad digit, a number that overflows 32 bits, a code point that is no character, or a basic part
that is not ASCII.
-/

namespace SplitDns.Punycode

def base : Nat := 36
def tMin : Nat := 1
def tMax : Nat := 26
def skew : Nat := 38
def damp : Nat := 700
def initialBias : Nat := 72
def initialN : Nat := 128

/-- The bias after a delta, as RFC 3492 section 6.1 adapts it. -/
def adapt (delta numPoints : Nat) (firstTime : Bool) : Nat :=
  let delta := if firstTime then delta / damp else delta / 2
  let delta := delta + delta / numPoints
  let rec shrink (fuel delta k : Nat) : Nat × Nat :=
    match fuel with
    | 0 => (delta, k)
    | fuel + 1 =>
      if delta > (base - tMin) * tMax / 2 then shrink fuel (delta / (base - tMin)) (k + base)
      else (delta, k)
  let (delta, k) := shrink 64 delta 0
  k + (base - tMin + 1) * delta / (delta + skew)

/-- The threshold of digit position `k` under `bias`. -/
def threshold (k bias : Nat) : Nat :=
  if k ≤ bias then tMin else if k ≥ bias + tMax then tMax else k - bias

/-- The character of a base-36 digit: `a` to `z`, then `0` to `9`. -/
def digitChar (d : Nat) : Char :=
  if d < 26 then Char.ofNat (0x61 + d) else Char.ofNat (0x30 + d - 26)

/-- The value of a base-36 digit character, letters in either case. -/
def digitOf (c : Char) : Option Nat :=
  let n := c.toNat
  if 0x61 ≤ n ∧ n ≤ 0x7A then some (n - 0x61)
  else if 0x41 ≤ n ∧ n ≤ 0x5A then some (n - 0x41)
  else if 0x30 ≤ n ∧ n ≤ 0x39 then some (n - 0x30 + 26)
  else none

/-- The digits of a variable-length number `q` under `bias`. -/
def numberDigits (q bias : Nat) : List Char :=
  go 32 q base
where
  go : Nat → Nat → Nat → List Char
    | 0, q, _ => [digitChar q]
    | fuel + 1, q, k =>
      let t := threshold k bias
      if q < t then [digitChar q]
      else digitChar (t + (q - t) % (base - t)) :: go fuel ((q - t) / (base - t)) (k + base)

/-- Encodes code points; the result holds no `xn--` mark. -/
def encode (input : List Char) : String :=
  let cps := input.map Char.toNat
  let basic := input.filter fun c => c.toNat < 0x80
  let b := basic.length
  let start := if b > 0 then basic ++ ['-'] else basic
  -- each round finds the next code point `m` not yet handled and emits its deltas
  let rec rounds (fuel : Nat) (n delta bias h : Nat) (out : List Char) : List Char :=
    match fuel with
    | 0 => out
    | fuel + 1 =>
      if h ≥ cps.length then out
      else
        let m := (cps.filter (· ≥ n)).foldl min (0x110000)
        let delta := delta + (m - n) * (h + 1)
        let step := fun (st : Nat × Nat × Nat × List Char) (c : Nat) =>
          let (delta, bias, h, out) := st
          if c < m then (delta + 1, bias, h, out)
          else if c = m then
            let out := out ++ numberDigits delta bias
            (0, adapt delta (h + 1) (h == b), h + 1, out)
          else (delta, bias, h, out)
        let (delta, bias, h, out) := cps.foldl step (delta, bias, h, out)
        rounds fuel (m + 1) (delta + 1) bias h out
  String.ofList (rounds (cps.length + 1) initialN 0 initialBias b start)

/-- Reads one variable-length number from the digits; gives the value added to `i`, the
digits left, or none on a bad digit, a missing digit or an overflow. -/
def readNumber (bias : Nat) (i : Nat) (ds : List Char) : Option (Nat × List Char) :=
  go 32 i 1 base ds
where
  go : Nat → Nat → Nat → Nat → List Char → Option (Nat × List Char)
    | 0, _, _, _, _ => none
    | fuel + 1, i, w, k, ds =>
      match ds with
      | [] => none
      | c :: rest => do
        let d ← digitOf c
        let i := i + d * w
        if i ≥ Nat.pow 2 32 then none
        else
          let t := threshold k bias
          if d < t then some (i, rest)
          else
            let w := w * (base - t)
            if w ≥ Nat.pow 2 32 then none else go fuel i w (k + base) rest

/-- Decodes the part after `xn--`. -/
def decode (input : String) : Option String :=
  let cs := input.toList
  let (basic, rest) :=
    match cs.reverse.findIdx? (· = '-') with
    | none => ([], cs)
    | some j =>
      let pos := cs.length - 1 - j
      if pos > 0 then (cs.take pos, cs.drop (pos + 1)) else ([], cs)
  if basic.any (fun c => c.toNat ≥ 0x80) then none
  else
    let rec loop (fuel : Nat) (n i bias : Nat) (out : List Char) (ds : List Char) :
        Option (List Char) :=
      match fuel with
      | 0 => none
      | fuel + 1 =>
        match ds with
        | [] => some out
        | _ => do
          let (i', ds') ← readNumber bias i ds
          let len := out.length + 1
          let bias := adapt (i' - i) len (i == 0)
          let n := n + i' / len
          let i := i' % len
          if n ≥ 0x110000 ∨ (0xD800 ≤ n ∧ n ≤ 0xDFFF) then none
          else loop fuel n (i + 1) bias (out.take i ++ [Char.ofNat n] ++ out.drop i) ds'
    (loop (rest.length + 1) initialN 0 initialBias basic rest).map String.ofList

end SplitDns.Punycode
