import SplitDns.Wire.Encode
/-!
# Type bitmaps

A set of record types as written in `CSYNC` data: for each window of 256 types that holds one,
the window number, the length of its bitmap, and the bitmap, whose bits stand for the types of
the window in order, most significant bit first. Reading walks the octets one by one; a bitmap
position past the 32 octets a window has is refused, as is a bit in a window of length zero.
Writing gives the windows in increasing order, each as long as its highest type needs.
-/

namespace SplitDns
namespace TypeBitmap

open Decoder

/-- Where the reader of a bitmap stands: before a window number, before a bitmap length, or
inside a bitmap with its length and the octets left. -/
inductive ReadState where
  | window
  | length (window : Nat)
  | bits (window length left : Nat)

/-- The types an octet of a bitmap marks, the octet being number `block` of its window. -/
def typesOfOctet (window block : Nat) (b : UInt8) : Except WireError (List Nat) :=
  let marked := (List.range 8).filter fun i => (b.toNat >>> (7 - i)) % 2 = 1
  if marked.isEmpty then .ok []
  else if block ≥ 32 then
    .error (.other "block len or left out of bounds in NSEC(3)")
  else .ok (marked.map fun i => window * 256 + block * 8 + i)

/-- Reads `n` octets of bitmaps. -/
def read (n : Nat) : Decoder (List Nat) :=
  go n .window []
where
  go : Nat → ReadState → List Nat → Decoder (List Nat)
    | 0, _, acc => pure acc
    | k + 1, st, acc => do
      let b ← pop
      match st with
      | .window => go k (.length b.toNat) acc
      | .length w => go k (.bits w b.toNat b.toNat) acc
      | .bits w len left =>
        match typesOfOctet w (len - left) b with
        | .error e => fail e
        | .ok ts =>
          if left = 0 then fail (.other "block left out of bounds in NSEC(3)")
          else if left = 1 then go k .window (acc ++ ts)
          else go k (.bits w len (left - 1)) (acc ++ ts)

/-- The bitmap octets of the types of one window. -/
def windowOctets (lows : List Nat) : List UInt8 :=
  let size := lows.foldl (fun m t => max m (t / 8 + 1)) 0
  (List.range size).map fun block =>
    (lows.filter (· / 8 = block)).foldl (fun acc t => acc ||| (0x80 >>> (t % 8)).toUInt8) 0

/-- The octets of a set of types: each window that holds one, in increasing order. -/
def octets (types : List Nat) : List UInt8 :=
  let windows := (List.range 256).filter fun w => types.any (· / 256 = w)
  windows.foldl (fun acc w =>
    let bits := windowOctets ((types.filter (· / 256 = w)).map (· % 256))
    acc ++ [w.toUInt8, bits.length.toUInt8] ++ bits) []

end TypeBitmap
end SplitDns
