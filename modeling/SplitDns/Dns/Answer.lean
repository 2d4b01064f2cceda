import SplitDns.Dns.RecordType
import SplitDns.Dns.Class
import SplitDns.Net.Ip
/-!
# Records, answers and questions

A record keeps what the forwarder needs of a resource record: owner name, type, TTL and, for
`A` and `AAAA` data, the address. An answer is a response code, its answer records and the
response message it came from. `Answer.effectiveTtl` is the least record TTL when that is
positive, and the floor otherwise, also when there are no records.
-/

namespace SplitDns

/-- One answer record. -/
structure Record where
  name : String
  type : RecordType
  ttl : UInt32
  address : Option IpAddr := none
  deriving DecidableEq, Repr, Inhabited

namespace Record

/-- A record holding an address; its type follows the family. -/
def ofAddress (name : String) (ttl : UInt32) (ip : IpAddr) : Record :=
  { name, ttl, address := some ip, type := if ip.isV6 then RecordType.aaaa else RecordType.a }

/-- A record is expired once `elapsed` seconds reach its TTL. -/
def isExpired (r : Record) (elapsed : UInt32) : Bool := elapsed ≥ r.ttl

/-- The TTL left after `elapsed` seconds, never below zero. -/
def remainingTtl (r : Record) (elapsed : UInt32) : UInt32 :=
  if elapsed ≥ r.ttl then 0 else r.ttl - elapsed

end Record

/-- A resolver's answer to one question. -/
structure Answer where
  status : Rcode
  records : List Record := []
  message : ByteArray := ByteArray.empty

instance : Inhabited Answer := ⟨{ status := Rcode.noError }⟩

namespace Answer

/-- The answer the forwarder gives when no resolver could be reached. -/
def serverFailure : Answer := { status := Rcode.servFail }

/-- Whether the response code is `NOERROR`. -/
def isSuccess (a : Answer) : Bool := a.status.isSuccess

/-- The addresses of the records, in record order. -/
def addresses (a : Answer) : List IpAddr := a.records.filterMap (·.address)

/-- Whether some record holds an address. -/
def hasAddresses (a : Answer) : Bool := !a.addresses.isEmpty

/-- The least TTL of the records. -/
def minTtl? (a : Answer) : Option UInt32 :=
  a.records.foldl (fun acc r => match acc with
    | none => some r.ttl
    | some m => some (if r.ttl < m then r.ttl else m)) none

/-- How long the answer may be kept: the least TTL if positive, else `floor`. -/
def effectiveTtl (a : Answer) (floor : Nat) : Nat :=
  match a.minTtl? with
  | some m => if m > 0 then m.toNat else floor
  | none => floor

end Answer

/-- How a question reached the forwarder. -/
inductive Transport where
  | datagram
  | stream
  deriving DecidableEq, Repr, Inhabited, Hashable

/-- The lowercase protocol word of a transport. -/
def Transport.word : Transport → String
  | .datagram => "udp"
  | .stream => "tcp"

/-- A question as the forwarder keys it: the domain text as given, type, class, the
recursion-desired flag and the transport. -/
structure Query where
  domain : String
  type : RecordType
  klass : DnsClass := DnsClass.internet
  recursionDesired : Bool := true
  transport : Transport := .datagram
  deriving DecidableEq, Repr, Inhabited, Hashable

/-- Which resolver, or the cache, an answer came from. -/
inductive Source where
  | fast
  | clean
  | cache
  deriving DecidableEq, Repr, Inhabited

/-- The lowercase word of a source. -/
def Source.word : Source → String
  | .fast => "fast"
  | .clean => "clean"
  | .cache => "cache"

end SplitDns
