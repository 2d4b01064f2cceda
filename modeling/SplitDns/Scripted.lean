import SplitDns.Exchange
import SplitDns.Arbiter
import SplitDns.Net.Address
/-!
# Scripted name servers and resolvers

Stand-ins for the resolvers the forwarder talks to, driven by a script: a table from a name
(or `*` for any other name) to what to do. A scripted name server reads a request and answers
it from its plan: the request's id (or the next one, to test id checks), its opcode and
recursion-desired flag, the recursion-available flag, the planned truncation flag and response
code, the question echoed, then an optional `CNAME` from the question name, one address record
per planned address (owned by the `CNAME` target when there is one), one `NS` record per
authority host and one address record per additional host; a plan with a name or address that
does not read gives no reply. It may also stay silent, send
octets as they are, or send octets with the request's id put in front. A scripted resolver
answers a query from its table directly, fails, or hands the query message to a scripted
name server and reads the reply.
-/

namespace SplitDns

/-- How a reply is delivered on a network path; only a real network path tells them apart. -/
inductive Delivery where
  | plain
  /-- Over a stream: a length prefix ten octets too large, then the connection closes. -/
  | shortFrame
  /-- Over datagrams: the reply is first sent from another port. -/
  | stranger
  deriving DecidableEq, Repr, Inhabited

/-- What a scripted name server puts in a reply. -/
structure ReplyPlan where
  wrongId : Bool := false
  truncated : Bool := false
  rcode : Nat := 0
  cname : Option String := none
  addresses : List String := []
  authority : List String := []
  additional : List (String × String) := []
  ttl : Nat := 300
  delivery : Delivery := .plain
  deriving Inhabited

/-- What a scripted name server does with a request. -/
inductive ServerAction where
  | silent
  /-- Over a stream: the connection is closed once the request is read. -/
  | close
  | garbage (octets : ByteArray)
  /-- The octets, with the request's id over their first two. -/
  | raw (octets : ByteArray)
  | reply (plan : ReplyPlan)
  deriving Inhabited

/-- A script: what to do for a name, with `*` for every other name. -/
abbrev Script (α : Type) := List (String × α)

/-- The entry of a script for a name: its own, else the one for `*`. -/
def Script.find? {α : Type} (s : Script α) (name : String) : Option α :=
  match List.find? (·.1 = name) s with
  | some (_, a) => some a
  | none => (List.find? (·.1 = "*") s).map (·.2)

/-- Octets with their first two replaced by a 16-bit number. -/
def withId (id : Nat) (bs : ByteArray) : ByteArray :=
  if bs.size < 2 then bs
  else (bs.set! 0 (id / 256 % 256).toUInt8).set! 1 (id % 256).toUInt8

namespace ReplyPlan

/-- The address record of an address. -/
def addressRecord (owner : Name) (ttl : Nat) : IpAddr → ResourceRecord
  | .v4 a => { name := owner, type := 1, klass := 1, ttl, data := some (.a a) }
  | .v6 a => { name := owner, type := 28, klass := 1, ttl, data := some (.aaaa a) }

/-- The reply message to a request; none when a name or an address of the plan does not
read. -/
def message (p : ReplyPlan) (request : Message) : Option Message := do
  let qname := match request.questions with
    | q :: _ => q.name
    | [] => Name.root
  let ttl := p.ttl % Nat.pow 2 32
  let host := fun (s : String) => (Name.ofText s).toOption
  let (chain, owner) ← match p.cname with
    | some c => do
      let target ← host c
      pure ([({ name := qname, type := 5, klass := 1, ttl, data := some (.name target) } :
          ResourceRecord)], target)
    | none => pure ([], qname)
  let addresses ← p.addresses.mapM IpAddr.parse?
  let answers := chain ++ addresses.map (addressRecord owner ttl)
  let authority ← p.authority.mapM fun h => do
    let n ← host h
    pure ({ name := qname, type := 2, klass := 1, ttl, data := some (.name n) } : ResourceRecord)
  let additional ← p.additional.mapM fun (h, ip) => do
    pure (addressRecord (← host h) ttl (← IpAddr.parse? ip))
  pure { header := { id := (request.header.id + (if p.wrongId then 1 else 0)) % 65536,
                     response := true, opcode := request.header.opcode,
                     recursionDesired := request.header.recursionDesired,
                     recursionAvailable := true, truncated := p.truncated, rcode := p.rcode % 16 },
         questions := request.questions, answers, authority, additional }

end ReplyPlan

/-- The question name of a request as a scripted name server matches it: lowercase text. -/
def Message.questionText (m : Message) : Option String :=
  match m.questions with
  | q :: _ => some q.name.toLower.toText
  | [] => none

/-- What a server action sends back for a request, if anything. -/
def ServerAction.respond (a : ServerAction) (request : ByteArray) : Option ByteArray :=
  match a with
  | .silent | .close => none
  | .garbage bs => some bs
  | .raw bs =>
    match Message.decode request with
    | .ok m => some (withId m.header.id bs)
    | .error _ => none
  | .reply p =>
    match Message.decode request with
    | .ok m =>
      match p.message m with
      | some out =>
        match out.encode 65535 with
        | .ok (bs, _) => some bs
        | .error _ => none
      | none => none
    | .error _ => none

/-- What a scripted name server sends back for a request: the action for its question name. -/
def serverReply (s : Script ServerAction) (request : ByteArray) : Option ByteArray :=
  match Message.decode request with
  | .error _ => none
  | .ok m =>
    match m.questionText >>= s.find? with
    | some a => a.respond request
    | none => none

/-- What a scripted resolver does with a query. -/
inductive ResolverAction where
  | timeout
  | failure (reason : String)
  | answer (a : Answer)
  /-- The query message goes to a scripted name server with this action. -/
  | server (a : ServerAction)
  deriving Inhabited

/-- The name a scripted resolver gives for itself in errors. -/
def scriptedServer : String := "scripted"

/-- A scripted resolver: the action for the query's domain text. The reply of a scripted
name server has its id cleared before it is read, as ids are not checked here. -/
def scriptedResolver (s : Script ResolverAction) : Resolver := fun q =>
  match s.find? q.domain with
  | none => .error (.transportIo scriptedServer "no script for the domain")
  | some .timeout => .error (.transportTimeout scriptedServer)
  | some (.failure r) => .error (.transportIo scriptedServer r)
  | some (.answer a) => .ok a
  | some (.server a) => do
    let request ← q.message 0
    match a.respond request with
    | none => .error (.transportTimeout scriptedServer)
    | some reply => return (← Answer.ofResponse (withId 0 reply)).answer

end SplitDns
