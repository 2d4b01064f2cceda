import SplitDns.Dns.Answer
/-!
# Datagram and stream transports

How a message reaches a resolver and its reply comes back. Over datagrams a fresh socket sends
the message to the resolver's address and then takes what arrives until the deadline: a
datagram from any other source is dropped, and the first from the resolver's exact address is
the reply, cut to the 4096 octets it is read into. Over a stream the message is written after
its length in two big-endian octets, so it holds at most 65535 of them, and the reply is read
the same way: two octets of length, then exactly that many. A socket error at any point fails
the exchange, and so does a stream that is closed, or still open at the deadline, before the
reply is whole.

What the sockets meet is given, not computed (`Sockets`): whether binding a socket or
connecting fails, what sending does, what arrives on the datagram socket and what the stream
brings back for the octets written to it.
-/

namespace SplitDns

/-- Why an exchange brought no reply. -/
inductive PathFault where
  | timeout
  | io (reason : String)
  deriving DecidableEq, Repr

/-- The octets a datagram reply is read into. -/
def datagramBuffer : Nat := 4096

/-- What reaches a datagram socket while it waits, in order of arrival. -/
inductive Arrival where
  /-- A datagram and the address it came from. -/
  | datagram (source : SocketAddr) (payload : ByteArray)
  /-- A socket error. -/
  | fault (reason : String)

/-- Waits for the reply of the resolver at `server`: a datagram from any other source is
dropped, and the first from `server` is the reply, cut to the buffer. -/
def receiveFrom (server : SocketAddr) : List Arrival → Except PathFault ByteArray
  | [] => .error .timeout
  | .datagram source payload :: rest =>
    if source = server then .ok (payload.extract 0 datagramBuffer) else receiveFrom server rest
  | .fault reason :: _ => .error (.io reason)

/-- Two octets holding `n`, big-endian. -/
def be16 (n : Nat) : List UInt8 := [(n / 256).toUInt8, (n % 256).toUInt8]

/-- A message as it is written to a stream: its length, then its octets. -/
def frame (m : ByteArray) : List UInt8 := be16 m.size ++ m.data.toList

/-- How a stream ended after the octets it brought. -/
inductive StreamEnd where
  /-- The resolver closed it. -/
  | closed
  /-- It was still open at the deadline. -/
  | open
  /-- A socket error. -/
  | fault (reason : String)

/-- Why a read from a stream that ended too early failed; `eof` is the error of a closed one. -/
def StreamEnd.cutShort (e : StreamEnd) (eof : String) : PathFault :=
  match e with
  | .closed => .io eof
  | .open => .timeout
  | .fault reason => .io reason

/-- What a stream brings back: the octets that came, and how it ended. -/
structure StreamReply where
  octets : List UInt8
  ending : StreamEnd

/-- Reads a reply from a stream: two octets of length, big-endian, then exactly that many. -/
def StreamReply.read (r : StreamReply) : Except PathFault ByteArray :=
  match r.octets with
  | hi :: lo :: rest =>
    let n := hi.toNat * 256 + lo.toNat
    if n ≤ rest.length then .ok ⟨(rest.take n).toArray⟩
    else .error (r.ending.cutShort "early eof")
  | _ => .error (r.ending.cutShort "unexpected end of file")

/-- What a client's sockets meet when they talk to one resolver. -/
structure Sockets where
  /-- The error binding a fresh datagram socket, if that fails. -/
  bindFault : Option String
  /-- How sending these octets as a datagram fails, if it does. -/
  sendFault : ByteArray → Option PathFault
  /-- What arrives on the datagram socket, until the deadline, after these octets were sent. -/
  arrivals : ByteArray → List Arrival
  /-- How connecting a stream fails, if it does. -/
  connectFault : Option PathFault
  /-- What the stream brings back, until the deadline, after these octets were written. -/
  replyTo : List UInt8 → StreamReply

/-- The socket error of a host without a usable route. -/
def unreachableReason : String := "Network is unreachable (os error 101)"

namespace Sockets

/-- The longest message a stream carries: its length must fit two octets. -/
def maxStreamMessage : Nat := 65535

/-- A datagram exchange with the resolver at `server`. -/
def datagramExchange (s : Sockets) (server : SocketAddr) (m : ByteArray) :
    Except PathFault ByteArray :=
  match s.bindFault, s.sendFault m with
  | some reason, _ => .error (.io reason)
  | none, some f => .error f
  | none, none => receiveFrom server (s.arrivals m)

/-- A stream exchange; a message too long for its length prefix is refused before connecting. -/
def streamExchange (s : Sockets) (m : ByteArray) : Except PathFault ByteArray :=
  if maxStreamMessage < m.size then .error (.io "DNS message too large for TCP")
  else
    match s.connectFault with
    | some f => .error f
    | none => (s.replyTo (frame m)).read

/-- An exchange with the resolver at `server` over a transport. -/
def exchange (s : Sockets) (server : SocketAddr) : Transport → ByteArray →
    Except PathFault ByteArray
  | .datagram => s.datagramExchange server
  | .stream => s.streamExchange

/-- The sockets of a host with no usable route: every send and every connect fails with the
error of an unreachable network, and nothing arrives. -/
def unreachable : Sockets where
  bindFault := none
  sendFault := fun _ => some (.io unreachableReason)
  arrivals := fun _ => []
  connectFault := some (.io unreachableReason)
  replyTo := fun _ => ⟨[], .closed⟩

end Sockets

end SplitDns
