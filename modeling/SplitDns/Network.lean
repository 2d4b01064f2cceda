import SplitDns.Exchange
import SplitDns.Scripted
import SplitDns.Transport
/-!
# Resolvers over a network

A resolver reached over the network: the query is written with a message id, sent over the
query's transport, and the reply read and checked against that id. A network is what carries a
message to a server and a reply back, or the reason it could not: a timeout, or a socket
error; the transports over a client's sockets make one (`Sockets.toward`). On a host with no
usable route every send and connect fails at once with the error of an unreachable network, so
no server, scripted or proxy, ever sees a request and no client ever gets a reply.
-/

namespace SplitDns

/-- A network: carries a message to a server (named by its address text) over a transport and
gives the reply. -/
abbrev Network := String → Transport → ByteArray → Except PathFault ByteArray

/-- The network a client's sockets make: every message goes to the resolver at `server`. -/
def Sockets.toward (s : Sockets) (server : SocketAddr) : Network := fun _ => s.exchange server

/-- A network on which every send and every connect fails. Nothing arrives on it, so the
address a reply would be compared with is never read, and any will do. -/
def Network.unreachable : Network := Sockets.unreachable.toward default

/-- The protocol name of a transport. -/
def Transport.protocolName : Transport → String
  | .datagram => "UDP"
  | .stream => "TCP"

/-- Sends raw octets to a server over a transport, giving the reply octets. -/
def sendOver (net : Network) (server : String) (t : Transport) (bytes : ByteArray) :
    Except DomainError ByteArray :=
  match net server t bytes with
  | .ok reply => .ok reply
  | .error .timeout => .error (.transportTimeout server)
  | .error (.io reason) => .error (.transportIo server reason)

/-- A resolver at a network address. -/
structure UpstreamServer where
  /-- The address text of the server. -/
  address : String
  /-- How long a reply is waited for, in milliseconds. -/
  timeoutMs : Nat

/-- The resolver at a socket address. -/
def UpstreamServer.ofAddr (addr : SocketAddr) (timeoutMs : Nat) : UpstreamServer :=
  { address := addr.toText, timeoutMs }

/-- Asks the server a query: the query message with id `id` goes over the query's transport,
and the reply must carry the same id. -/
def UpstreamServer.query (s : UpstreamServer) (net : Network) (id : Nat) (q : Query) :
    Except DomainError Answer := do
  let message ← q.message id
  let reply ← sendOver net s.address q.transport message
  let r ← Answer.ofResponse reply
  if r.id = id then pure r.answer
  else throw (.mismatchedResponseId id.toUInt16 r.id.toUInt16)

/-- The outcome of an exchange with a scripted server over a network: the result and how many
requests reached the server. -/
structure Exchanged (α : Type) where
  result : Except DomainError α
  serverQueries : Nat

/-- A query to a scripted server over a network on which every send fails. -/
def queryUnreachable (s : UpstreamServer) (id : Nat) (q : Query) : Exchanged Answer :=
  { result := s.query Network.unreachable id q, serverQueries := 0 }

/-- Raw octets to a scripted server over a network on which every send fails. -/
def sendUnreachable (server : String) (t : Transport) (bytes : ByteArray) :
    Exchanged ByteArray :=
  { result := sendOver Network.unreachable server t bytes, serverQueries := 0 }

/-- What a client of the forwarder saw for one request: the reply, if one came, the queries
each scripted resolver received so far and the cache size. -/
structure ServeOutcome where
  reply : Option ByteArray
  fastQueries : Nat
  cleanQueries : Nat
  cacheLen : Nat

/-- Requests sent to a forwarder over a network on which every send fails: the forwarder never
sees them, so none gets a reply, no resolver is asked and the cache stays empty. -/
def serveUnreachable (requests : List (Transport × ByteArray)) : List ServeOutcome :=
  requests.map fun _ => { reply := none, fastQueries := 0, cleanQueries := 0, cacheLen := 0 }

end SplitDns
