/-!
# Classes and response codes

A class is its 16-bit code: `IN`, `CH`, `HS`, `NONE` and `ANY` have names, others are written
`CLASS<n>`. A response code is the full 12-bit code that a message carries in its header and
in its EDNS record; codes 0 to 5 have names and the rest read `UNKNOWN`.
-/

namespace SplitDns

/-- A DNS class, identified by its 16-bit code. -/
structure DnsClass where
  code : UInt16
  deriving DecidableEq, Repr, Inhabited, Hashable

namespace DnsClass

/-- The Internet class, the default. -/
def internet : DnsClass := ⟨1⟩

/-- The name, or `CLASS` and the code. -/
def display (c : DnsClass) : String :=
  match c.code.toNat with
  | 1 => "IN"
  | 3 => "CH"
  | 4 => "HS"
  | 254 => "NONE"
  | 255 => "ANY"
  | n => "CLASS" ++ toString n

/-- Only the Internet class is the default. -/
def isDefault (c : DnsClass) : Bool := c.code == 1

end DnsClass

/-- A response code: the header's four bits together with the EDNS high bits. -/
structure Rcode where
  code : UInt16
  deriving DecidableEq, Repr, Inhabited, Hashable

namespace Rcode

def noError : Rcode := ⟨0⟩
def formErr : Rcode := ⟨1⟩
def servFail : Rcode := ⟨2⟩

/-- The name of codes 0 to 5, else `UNKNOWN`. -/
def asStr (r : Rcode) : String :=
  match r.code.toNat with
  | 0 => "NOERROR"
  | 1 => "FORMERR"
  | 2 => "SERVFAIL"
  | 3 => "NXDOMAIN"
  | 4 => "NOTIMP"
  | 5 => "REFUSED"
  | _ => "UNKNOWN"

/-- Only `NOERROR` is a success. -/
def isSuccess (r : Rcode) : Bool := r.code == 0

/-- The four bits a header holds. -/
def low (r : Rcode) : Nat := r.code.toNat % 16

/-- The eight bits an EDNS record holds. -/
def high (r : Rcode) : Nat := r.code.toNat / 16 % 256

end Rcode
end SplitDns
