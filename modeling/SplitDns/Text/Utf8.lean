/-!
# Lossy UTF-8

Decoding octets as UTF-8 where every fault becomes one replacement character `U+FFFD`. A fault
covers the longest start of a well-formed sequence found before the octet that breaks it: a
lead octet with the continuation octets that were still allowed, or a lone octet that cannot
start a sequence. Well-formed means shortest form and no surrogates, so the second octet's
range depends on the lead octet.
-/

namespace SplitDns
namespace Text

/-- The number of octets that follow a lead octet, and the range its first follower must lie
in; none for an octet that cannot lead. -/
def leadShape (b : Nat) : Option (Nat × Nat × Nat) :=
  if 0xC2 ≤ b ∧ b ≤ 0xDF then some (1, 0x80, 0xBF)
  else if b = 0xE0 then some (2, 0xA0, 0xBF)
  else if b = 0xED then some (2, 0x80, 0x9F)
  else if 0xE1 ≤ b ∧ b ≤ 0xEF then some (2, 0x80, 0xBF)
  else if b = 0xF0 then some (3, 0x90, 0xBF)
  else if b = 0xF4 then some (3, 0x80, 0x8F)
  else if 0xF1 ≤ b ∧ b ≤ 0xF3 then some (3, 0x80, 0xBF)
  else none

/-- How many of the octets after a lead continue its sequence: the first within `lo..hi`,
the others within `0x80..0xBF`, at most `need` of them. -/
def followers (need lo hi : Nat) : List UInt8 → Nat
  | [] => 0
  | b :: rest =>
    if need = 0 then 0
    else if lo ≤ b.toNat ∧ b.toNat ≤ hi then 1 + followers (need - 1) 0x80 0xBF rest
    else 0

/-- The value of a well-formed sequence from its lead octet and followers. -/
def sequenceValue (lead : Nat) (need : Nat) (fs : List UInt8) : Nat :=
  let first := match need with
    | 1 => lead % 0x20
    | 2 => lead % 0x10
    | _ => lead % 0x08
  fs.foldl (fun acc b => acc * 64 + b.toNat % 64) first

/-- Decodes octets, replacing each fault with `U+FFFD`. -/
def decodeLossy (bs : List UInt8) : String :=
  String.ofList (go bs.length bs [])
where
  go : Nat → List UInt8 → List Char → List Char
    | 0, _, acc => acc.reverse
    | _, [], acc => acc.reverse
    | fuel + 1, b :: rest, acc =>
      if b.toNat < 0x80 then go fuel rest (Char.ofNat b.toNat :: acc)
      else match leadShape b.toNat with
        | none => go fuel rest ('�' :: acc)
        | some (need, lo, hi) =>
          let k := followers need lo hi rest
          if k = need then
            go fuel (rest.drop k) (Char.ofNat (sequenceValue b.toNat need (rest.take k)) :: acc)
          else go fuel (rest.drop k) ('�' :: acc)

end Text
end SplitDns
