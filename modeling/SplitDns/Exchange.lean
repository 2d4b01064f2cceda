import SplitDns.Wire.Message
import SplitDns.Dns.Answer
import SplitDns.Error
/-!
# Questions out, answers in

`Query.message` writes the query message a resolver is sent: the given id, opcode query, the
recursion-desired flag of the question, and one question whose name is read from the domain
text. `Answer.ofResponse` reads a response message into an answer: the full response code,
each answer record with its owner name as text, its type and TTL, and the address of `A` and
`AAAA` data; the message itself is kept.
-/

namespace SplitDns

/-- The wire name of a question's domain text. -/
def Query.wireName (q : Query) : Except DomainError Name :=
  match Name.ofText q.domain with
  | .ok n => .ok n
  | .error e => .error (.invalidDomainName ("Invalid domain '" ++ q.domain ++ "': " ++ e.message))

/-- The wire question of a query. -/
def Query.question (q : Query) : Except DomainError Question := do
  pure { name := ← q.wireName, type := q.type.code.toNat, klass := q.klass.code.toNat }

/-- The query message for a question, with message id `id`. -/
def Query.message (q : Query) (id : Nat) : Except DomainError ByteArray := do
  let question ← q.question
  let m : Message := { header := { id, recursionDesired := q.recursionDesired },
                       questions := [question] }
  match m.encode 65535 with
  | .ok (bs, _) => pure bs
  | .error e => throw (.invalidDomainName ("Failed to serialize DNS message: " ++ e.message))

/-- A client's request message for a query: the id, the recursion-desired flag, one question,
and with `edns` an EDNS record offering payloads of 1232 octets. -/
def Query.request (q : Query) (id : Nat) (edns : Bool) : Except DomainError ByteArray := do
  let question ← q.question
  let m : Message := { header := { id, recursionDesired := q.recursionDesired },
                       questions := [question],
                       edns := if edns then some { maxPayload := 1232 } else none }
  match m.encode 65535 with
  | .ok (bs, _) => pure bs
  | .error e => throw (.invalidDomainName ("Failed to serialize DNS message: " ++ e.message))

/-- The answer record a resource record gives. -/
def Record.ofResource (r : ResourceRecord) : Record :=
  let name := r.name.toText
  match r.data with
  | some (.a addr) => Record.ofAddress name r.ttl.toUInt32 (.v4 addr)
  | some (.aaaa addr) => Record.ofAddress name r.ttl.toUInt32 (.v6 addr)
  | _ => { name, type := ⟨r.type.toUInt16⟩, ttl := r.ttl.toUInt32 }

/-- What a response message says: its id, whether it was truncated, and the answer. -/
structure Response where
  id : Nat
  truncated : Bool
  answer : Answer

/-- Reads a response message. -/
def Answer.ofResponse (bs : ByteArray) : Except DomainError Response :=
  match Message.decode bs with
  | .error e =>
    .error (.invalidDnsResponse ("Failed to parse DNS response: " ++ e.message))
  | .ok m =>
    .ok { id := m.header.id, truncated := m.header.truncated,
          answer := { status := ⟨m.header.rcode.toUInt16⟩,
                      records := m.answers.map Record.ofResource, message := bs } }

end SplitDns
