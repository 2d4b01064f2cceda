import SplitDns.Forwarder
import SplitDns.Exchange
/-!
# Serving requests

The server side of the forwarder. A request is read whole; it must carry exactly one question,
which is checked before the records after it are read, and anything wrong after its header is
reported as a format error. The question becomes the
query the forwarder handles: its name in lowercase text, its type and class, the request's
recursion-desired flag and the transport it came by. The reply keeps the request's id, opcode,
recursion-desired and checking-disabled flags, offers recursion, and carries the answer's
status; its question section is the request's, octet for octet. Its records are those of the
upstream message the answer was read from, written again with compression, without the
upstream EDNS record, and with the upstream truncation flag. A reply over datagrams holds at
most 4096 octets and over a stream 65535: records that do not fit are left out and the reply
marked truncated. A reply that cannot be written at all is replaced by a bare server failure.
-/

namespace SplitDns

/-- A request as the server reads it. -/
structure Request where
  header : Header
  question : Question
  /-- The question section as received. -/
  questionOctets : ByteArray

namespace Request

open Decoder

/-- Reads a request. -/
def decode (bs : ByteArray) : Except String Request :=
  match Header.read.runAt bs 0 with
  | .error (e, _) => .error e.message
  | .ok (h, start) =>
    let body : Decoder (Question × Nat) := do
      let qs ← Message.readMany Question.read h.questionCount
      let stop ← index
      match qs with
      | [q] =>
        let _ ← Message.readMany ResourceRecord.read h.answerCount
        let _ ← Message.readMany ResourceRecord.read h.authorityCount
        let _ ← Message.readAdditional h.additionalCount none []
        pure (q, stop)
      | _ => fail (.badQueryCount qs.length)
    match body.runAt bs start with
    | .error (e, _) => .error ("message format error: " ++ e.message)
    | .ok ((q, stop), _) =>
      .ok { header := h, question := q, questionOctets := bs.extract start stop }

/-- The query the forwarder handles for a request. -/
def query (r : Request) (transport : Transport) : Query :=
  { domain := r.question.name.toLower.toText, type := ⟨r.question.type.toUInt16⟩,
    klass := ⟨r.question.klass.toUInt16⟩, recursionDesired := r.header.recursionDesired,
    transport }

/-- Writes the request's question section again, remembering where its name starts so that
later names can point to it. -/
def writeQuestion (r : Request) (e : Encoder) : Except EncodeFault (Encoder × Nat) := do
  let start := e.offset
  let e ← Encoder.bytes r.questionOctets.data.toList e
  let stop := start + Name.countedLength r.question.name.labels
  let e := if e.offset < 0x3FFF then
      { e with pointers := e.pointers ++ [(start, (e.buffer.extract start stop).data.toList)] }
    else e
  pure (e, 1)

end Request

/-- The most octets of a reply over a transport. -/
def Transport.replyLimit : Transport → Nat
  | .datagram => 4096
  | .stream => 65535

/-- The bare server failure sent when a reply cannot be written. -/
def fallbackReply (id : Nat) : ByteArray × Header :=
  let h : Header := { id, rcode := 2 }
  (ByteArray.mk h.octets.toArray, h)

/-- The reply to a request with an answer, and the header it was sent with. -/
def replyTo (r : Request) (transport : Transport) (a : Answer) : ByteArray × Header :=
  let upstream : Option Message :=
    if a.message.isEmpty then none
    else match Message.decode a.message with
      | .ok m => some m
      | .error _ => none
  let header := { r.header.replyTo with
    recursionAvailable := true, rcode := a.status.code.toNat,
    truncated := match upstream with
      | some m => m.header.truncated
      | none => false }
  let m : Message := match upstream with
    | some u => { header, answers := u.answers, authority := u.authority,
                  additional := u.additional }
    | none => { header }
  match m.encodeWith r.writeQuestion transport.replyLimit with
  | .ok out => out
  | .error _ => fallbackReply r.header.id

/-- The header reported when the reply could not be sent. -/
def sendFailure (r : Request) : Header := { r.header.replyTo with rcode := 2 }

end SplitDns
