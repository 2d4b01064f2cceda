import SplitDns.Text.Number
/-!
# IP addresses

An IPv4 address is 32 bits and an IPv6 address 128 bits. The text of an address is the
dotted quad, or for IPv6 the compressed form of RFC 5952: lowercase hexadecimal groups without
leading zeros, the longest run of two or more zero groups (the first of equal runs) written
`::`, and an IPv4-mapped address (`::ffff:0:0/96`) written `::ffff:a.b.c.d`.
-/

namespace SplitDns

/-- An IP address of either family. -/
inductive IpAddr where
  | v4 (bits : BitVec 32)
  | v6 (bits : BitVec 128)
  deriving DecidableEq, Repr, Inhabited

namespace IpAddr

/-- The four octets of an IPv4 address, most significant first. -/
def octets (b : BitVec 32) : List Nat :=
  [b.toNat / Nat.pow 2 24 % 256, b.toNat / Nat.pow 2 16 % 256, b.toNat / Nat.pow 2 8 % 256,
    b.toNat % 256]

/-- The eight 16-bit groups of an IPv6 address, most significant first. -/
def groups (b : BitVec 128) : List Nat :=
  (List.range 8).map fun i => b.toNat / Nat.pow 2 (16 * (7 - i)) % 65536

/-- An IPv4 address from four octets. -/
def ofOctets (a b c d : Nat) : BitVec 32 :=
  BitVec.ofNat 32 (((a * 256 + b) * 256 + c) * 256 + d)

/-- An IPv6 address from its groups, most significant first. -/
def ofGroups (gs : List Nat) : BitVec 128 :=
  BitVec.ofNat 128 (gs.foldl (fun acc g => acc * 65536 + g) 0)

/-- The IPv4 address an IPv4-mapped IPv6 address carries (`::ffff:a.b.c.d`). -/
def mappedV4? (b : BitVec 128) : Option (BitVec 32) :=
  if b.toNat / Nat.pow 2 32 = 0xFFFF then some (BitVec.ofNat 32 (b.toNat % Nat.pow 2 32)) else none

/-- The dotted quad. -/
def v4Text (b : BitVec 32) : String :=
  ".".intercalate ((octets b).map toString)

/-- The longest run of zero groups, as its start and length; the first of equal runs wins. -/
def longestZeroRun (gs : List Nat) : Nat × Nat :=
  let step := fun (st : (Nat × Nat) × (Nat × Nat) × Nat) (g : Nat) =>
    let (best, cur, i) := st
    if g = 0 then
      let cur := if cur.2 = 0 then (i, 1) else (cur.1, cur.2 + 1)
      let best := if cur.2 > best.2 then cur else best
      (best, cur, i + 1)
    else (best, (0, 0), i + 1)
  (gs.foldl step ((0, 0), (0, 0), 0)).1

/-- Groups in hexadecimal, joined by colons. -/
def groupsText (gs : List Nat) : String := ":".intercalate (gs.map Text.hex)

/-- The RFC 5952 text of an IPv6 address, with the IPv4-mapped form kept dotted. -/
def v6Text (b : BitVec 128) : String :=
  match mappedV4? b with
  | some inner => "::ffff:" ++ v4Text inner
  | none =>
    let gs := groups b
    let (start, len) := longestZeroRun gs
    if len > 1 then
      groupsText (gs.take start) ++ "::" ++ groupsText (gs.drop (start + len))
    else groupsText gs

/-- The text of an address. -/
def toText : IpAddr → String
  | .v4 b => v4Text b
  | .v6 b => v6Text b

instance : ToString IpAddr := ⟨toText⟩

/-- Whether the address is IPv6. -/
def isV6 : IpAddr → Bool
  | .v4 _ => false
  | .v6 _ => true

end IpAddr

/-- An IP address with a port; IPv6 ones may carry a scope. -/
structure SocketAddr where
  ip : IpAddr
  port : UInt16
  scope : UInt32 := 0
  deriving DecidableEq, Repr, Inhabited

namespace SocketAddr

/-- `a.b.c.d:p`, or `[v6]:p` with `%scope` inside the brackets when the scope is not zero. -/
def toText (s : SocketAddr) : String :=
  match s.ip with
  | .v4 b => IpAddr.v4Text b ++ ":" ++ toString s.port.toNat
  | .v6 b =>
    let scope := if s.scope = 0 then "" else "%" ++ toString s.scope.toNat
    "[" ++ IpAddr.v6Text b ++ scope ++ "]:" ++ toString s.port.toNat

end SocketAddr
end SplitDns
