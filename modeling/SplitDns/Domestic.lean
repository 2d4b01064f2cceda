import SplitDns.Net.Cidr
import SplitDns.Error
/-!
# The domestic address table

The table of domestic networks, kept as merged ranges for each family. A table text holds one
network a line; `#` starts a comment, blanks around a line are dropped and empty lines skipped.
An IPv4-mapped IPv6 address is looked up among the IPv4 ranges, any other IPv6 address among
the IPv6 ranges.
-/

namespace SplitDns

/-- Domestic address ranges, merged, for each family. -/
structure DomesticTable where
  v4 : Array (Span 32) := #[]
  v6 : Array (Span 128) := #[]
  deriving Inhabited

namespace DomesticTable

/-- The significant lines of a table text: each cut at its first `#` and trimmed. -/
def lines (text : String) : List String :=
  (text.splitOn "\n").filterMap fun line =>
    let body := Text.trimBlank (String.ofList (line.toList.takeWhile (· ≠ '#')))
    if body.isEmpty then none else some body

/-- The table covering a list of networks. -/
def ofNetworks (ns : List Cidr) : DomesticTable :=
  let v4 := ns.filterMap fun
    | .v4 a l => some (Cidr.spanOf a l)
    | .v6 _ _ => none
  let v6 := ns.filterMap fun
    | .v6 a l => some (Cidr.spanOf a l)
    | .v4 _ _ => none
  { v4 := (Span.merge v4).toArray, v6 := (Span.merge v6).toArray }

/-- Reads a table text; the first line that is no network is the error. -/
def ofText (text : String) : Except DomainError DomesticTable := do
  let ns ← (lines text).mapM fun line =>
    match Cidr.parse? line with
    | some c => .ok c
    | none => .error (.invalidIpRange (line ++ ": invalid address: " ++ line))
  pure (ofNetworks ns)

/-- Whether an address is domestic. -/
def isDomestic (t : DomesticTable) : IpAddr → Bool
  | .v4 b => Span.mem t.v4 b
  | .v6 b =>
    match IpAddr.mappedV4? b with
    | some inner => Span.mem t.v4 inner
    | none => Span.mem t.v6 b

/-- The number of merged ranges of both families. -/
def size (t : DomesticTable) : Nat := t.v4.size + t.v6.size

/-- The first and last address of every range, IPv4 first. -/
def ranges (t : DomesticTable) : List (IpAddr × IpAddr) :=
  t.v4.toList.map (fun s => (.v4 s.first, .v4 s.last)) ++
    t.v6.toList.map (fun s => (.v6 s.first, .v6 s.last))

/-- Reads a table from a named file of a file store, where absent files have no text. -/
def ofFile (files : String → Option String) (path : String) :
    Except DomainError DomesticTable :=
  match files path with
  | some text => ofText text
  | none => .error (.ioError (path ++ ": No such file or directory (os error 2)"))

end DomesticTable
end SplitDns
