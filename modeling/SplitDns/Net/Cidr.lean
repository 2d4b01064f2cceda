import SplitDns.Net.Address
import SplitDns.Net.Span
/-!
# Networks in CIDR text

A network is an address and a mask length: `a.b.c.d/len`, `a.b.c.d/m.m.m.m` (a contiguous
netmask) or `v6addr/len`, and a bare address is a network of one address. At most one `/` may
appear; the IPv4 reading is tried first. A network covers the range from its address with the
host bits cleared to the address with them set.
-/

namespace SplitDns

/-- A network of either family. -/
inductive Cidr where
  | v4 (addr : BitVec 32) (len : Nat)
  | v6 (addr : BitVec 128) (len : Nat)
  deriving DecidableEq, Repr

namespace Cidr

/-- The address part and the mask part of a text; none when it has two slashes. -/
def parts (s : String) : Option (String × Option String) :=
  match s.splitOn "/" with
  | [a] => some (a, none)
  | [a, m] => some (a, some m)
  | _ => none

/-- The mask length of a contiguous IPv4 netmask. -/
def netmaskLength (m : BitVec 32) : Option Nat :=
  let n := m.toNat
  let len := ((List.range 33).filter fun k => n = Nat.pow 2 32 - Nat.pow 2 (32 - k)).head?
  len

/-- Reads an IPv4 network. -/
def parseV4 (a : String) (m : Option String) : Option Cidr := do
  let addr ← Address.whole Address.ipv4 a
  let len ← match m with
    | none => some 32
    | some t =>
      match Address.whole Address.ipv4 t with
      | some mask => netmaskLength mask
      | none => (Text.readUnsigned 256 t).bind fun k => if k ≤ 32 then some k else none
  pure (.v4 addr len)

/-- Reads an IPv6 network. -/
def parseV6 (a : String) (m : Option String) : Option Cidr := do
  let addr ← Address.whole Address.ipv6 a
  let len ← match m with
    | none => some 128
    | some t => (Text.readUnsigned 256 t).bind fun k => if k ≤ 128 then some k else none
  pure (.v6 addr len)

/-- Reads a network text. -/
def parse? (s : String) : Option Cidr := do
  let (a, m) ← parts s
  match parseV4 a m with
  | some c => some c
  | none => parseV6 a m

/-- The range of `w`-bit values a network of mask length `len` covers. -/
def spanOf {w : Nat} (addr : BitVec w) (len : Nat) : Span w :=
  let size := Nat.pow 2 (w - len)
  let first := addr.toNat / size * size
  ⟨BitVec.ofNat w first, BitVec.ofNat w (first + size - 1)⟩

end Cidr
end SplitDns
