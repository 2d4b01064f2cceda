import SplitDns.Net.Ip
import SplitDns.Text.Blank
/-!
# Reading addresses

The grammar of address texts. An IPv4 address is four decimal octets of one to three digits,
with no leading zero. An IPv6 address is up to eight hexadecimal groups of one to four digits,
one `::` standing for at least one zero group, and an IPv4 address allowed in place of the last
two groups. A socket address is `ipv4:port` or `[ipv6%scope]:port`, the port decimal with
leading zeros allowed. A text is read whole or not at all.
-/

namespace SplitDns

namespace Address

/-- A reader of a prefix of a character list: the value and the rest, or none. -/
abbrev Reader (α : Type) := List Char → Option (α × List Char)

/-- Reads one given character. -/
def char (c : Char) : Reader Unit
  | d :: rest => if c = d then some ((), rest) else none
  | [] => none

/-- Reads a run of digits of `radix` below `bound`, of at most `maxDigits` digits when given;
a leading zero is refused in a run of two or more unless `zeroPrefix`. -/
def number (radix : Nat) (maxDigits : Option Nat) (zeroPrefix : Bool) (bound : Nat) :
    Reader Nat := fun cs =>
  let run := cs.takeWhile fun c => (Text.digitValue radix c).isSome
  let rest := cs.dropWhile fun c => (Text.digitValue radix c).isSome
  let tooLong := match maxDigits with
    | some m => run.length > m
    | none => false
  if run.isEmpty || tooLong then none
  else if !zeroPrefix && run.head? = some '0' && run.length > 1 then none
  else match Text.digitsValue radix run with
    | some v => if v < bound then some (v, rest) else none
    | none => none

/-- Reads an IPv4 address. -/
def ipv4 : Reader (BitVec 32) := fun cs => do
  let octet := number 10 (some 3) false 256
  let (a, cs) ← octet cs
  let ((), cs) ← char '.' cs
  let (b, cs) ← octet cs
  let ((), cs) ← char '.' cs
  let (c, cs) ← octet cs
  let ((), cs) ← char '.' cs
  let (d, cs) ← octet cs
  pure (IpAddr.ofOctets a b c d, cs)

/-- Reads the separator before item `i` (none before the first), then the item. -/
def separated {α : Type} (i : Nat) (item : Reader α) : Reader α := fun cs =>
  if i = 0 then item cs
  else match char ':' cs with
    | some ((), rest) => item rest
    | none => none

/-- Reads up to `limit` colon-separated groups; an embedded IPv4 address may stand where at
least two groups are left, and ends the run. Gives the groups and whether an IPv4 address
ended them. -/
def groupsUpTo (limit : Nat) (cs : List Char) : List Nat × Bool × List Char :=
  go limit 0 [] cs
where
  go : Nat → Nat → List Nat → List Char → List Nat × Bool × List Char
    | 0, _, acc, cs => (acc.reverse, false, cs)
    | left + 1, i, acc, cs =>
      let v4 := if left ≥ 1 then separated i ipv4 cs else none
      match v4 with
      | some (b, rest) =>
        let n := b.toNat
        ((n % 65536 :: n / 65536 :: acc).reverse, true, rest)
      | none =>
        match separated i (number 16 (some 4) true 65536) cs with
        | some (g, rest) => go left (i + 1) (g :: acc) rest
        | none => (acc.reverse, false, cs)

/-- Reads an IPv6 address. -/
def ipv6 : Reader (BitVec 128) := fun cs =>
  let (head, headV4, cs) := groupsUpTo 8 cs
  if head.length = 8 then some (IpAddr.ofGroups head, cs)
  else if headV4 then none
  else match char ':' cs with
    | none => none
    | some ((), cs) =>
      match char ':' cs with
      | none => none
      | some ((), cs) =>
        let (tail, _, cs) := groupsUpTo (7 - head.length) cs
        let zeros := List.replicate (8 - head.length - tail.length) 0
        some (IpAddr.ofGroups (head ++ zeros ++ tail), cs)

/-- Reads an address of either family, IPv4 first. -/
def ip : Reader IpAddr := fun cs =>
  match ipv4 cs with
  | some (b, rest) => some (.v4 b, rest)
  | none => (ipv6 cs).map fun (b, rest) => (.v6 b, rest)

/-- Reads `:port`. -/
def port : Reader Nat := fun cs => do
  let ((), cs) ← char ':' cs
  number 10 none true 65536 cs

/-- Reads `ipv4:port` or `[ipv6%scope]:port`. -/
def socket : Reader SocketAddr := fun cs =>
  let v4 : Option (SocketAddr × List Char) := do
    let (b, cs) ← ipv4 cs
    let (p, cs) ← port cs
    pure ({ ip := .v4 b, port := p.toUInt16 }, cs)
  match v4 with
  | some r => some r
  | none => do
    let ((), cs) ← char '[' cs
    let (b, cs) ← ipv6 cs
    let (scope, cs) := match char '%' cs with
      | some ((), rest) =>
        match number 10 none true (Nat.pow 2 32) rest with
        | some (s, rest) => (s, rest)
        | none => (0, cs)
      | none => (0, cs)
    let ((), cs) ← char ']' cs
    let (p, cs) ← port cs
    pure ({ ip := .v6 b, port := p.toUInt16, scope := scope.toUInt32 }, cs)

/-- Runs a reader over a whole text. -/
def whole {α : Type} (r : Reader α) (s : String) : Option α :=
  match r s.toList with
  | some (v, []) => some v
  | _ => none

end Address

/-- Reads an IP address text. -/
def IpAddr.parse? (s : String) : Option IpAddr := Address.whole Address.ip s

/-- Reads a socket address text. -/
def SocketAddr.parse? (s : String) : Option SocketAddr := Address.whole Address.socket s

/-- An address text with blanks trimmed; a bare IP gets port 53, and any other text is kept
as it is, so that checking it later reports the text that was given. -/
def SocketAddr.normalize (s : String) : String :=
  let t := Text.trimBlank s
  match SocketAddr.parse? t with
  | some _ => t
  | none =>
    match IpAddr.parse? t with
    | some ip => SocketAddr.toText { ip, port := 53 }
    | none => t

end SplitDns
