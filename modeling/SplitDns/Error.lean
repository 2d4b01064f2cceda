/-!
# Errors of the forwarder

Each failure is a cause with its data; `DomainError.message` holds all the wording.
`isTransport` singles out failures of the network path (a timeout, a socket error, a file
that could not be read) from failures of the payload.
-/

namespace SplitDns

/-- Why an operation of the forwarder failed. -/
inductive DomainError where
  /-- A domain text that is no DNS name, or a question that could not be written. -/
  | invalidDomainName (detail : String)
  /-- A line of an address table that is no network. -/
  | invalidIpRange (detail : String)
  /-- A response that could not be read. -/
  | invalidDnsResponse (detail : String)
  /-- A response to another question than the one sent. -/
  | mismatchedResponseId (expected received : UInt16)
  /-- No response before the deadline. -/
  | transportTimeout (server : String)
  /-- A socket failure. -/
  | transportIo (server reason : String)
  /-- A file that could not be read. -/
  | ioError (detail : String)
  deriving DecidableEq, Repr, Inhabited

namespace DomainError

/-- The kind of the error, as a word. -/
def kind : DomainError → String
  | .invalidDomainName _ => "InvalidDomainName"
  | .invalidIpRange _ => "InvalidIpRange"
  | .invalidDnsResponse _ => "InvalidDnsResponse"
  | .mismatchedResponseId _ _ => "MismatchedResponseId"
  | .transportTimeout _ => "TransportTimeout"
  | .transportIo _ _ => "TransportIo"
  | .ioError _ => "IoError"

/-- The text of the error. -/
def message : DomainError → String
  | .invalidDomainName d => "Invalid domain name: " ++ d
  | .invalidIpRange d => "Invalid IP range: " ++ d
  | .invalidDnsResponse d => "Invalid DNS response: " ++ d
  | .mismatchedResponseId e r =>
    "Response id " ++ toString r.toNat ++ " does not match query id " ++ toString e.toNat
  | .transportTimeout s => "Query to " ++ s ++ " timed out"
  | .transportIo s r => "Transport error talking to " ++ s ++ ": " ++ r
  | .ioError d => "I/O error: " ++ d

/-- Failures of the network path rather than of the payload. -/
def isTransport : DomainError → Bool
  | .transportTimeout _ | .transportIo _ _ | .ioError _ => true
  | _ => false

end DomainError
end SplitDns
