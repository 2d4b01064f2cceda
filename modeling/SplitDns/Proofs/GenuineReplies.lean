import Mathlib
import SplitDns.Network
/-!
# A resolver accepts only its genuine reply

A query goes to a resolver in a message that carries an id, and the client takes as the answer
only a reply that came from the resolver and carries the same id.

Over datagrams, "came from the resolver" is the source address: of what arrives on the socket,
datagrams from any other source are dropped, and the reply is the first datagram from the
resolver's exact address, cut to 4096 octets (`receiveFrom_eq_ok_iff`). Over a stream it is the
connection, and the framing: the message goes out after its length in two big-endian octets,
and the reply is exactly as many octets as the two octets before them say; a stream that ends
before they are all there gives no reply (`StreamReply.read_eq_ok_iff`).

The reply then has to read as a response, and its id has to be the query's
(`UpstreamServer.query_eq_ok_iff`). Each way of failing has its own error
(`UpstreamServer.query_eq_error_iff`): a name that cannot be written, a timeout, a socket error,
a reply that does not read, and a reply with another id. `query_accepts_only_genuine_reply`
states all of it for a resolver at a socket address.
-/

namespace SplitDns

/-! ## Waiting for a datagram -/

/-- The reply to a datagram is the first datagram from the resolver's address: everything before
it is a datagram from some other source. -/
theorem receiveFrom_eq_ok_iff (server : SocketAddr) (as : List Arrival) (reply : ByteArray) :
    receiveFrom server as = .ok reply ↔
      ∃ pre payload post, as = pre ++ .datagram server payload :: post ∧
        (∀ x ∈ pre, ∃ source p, x = .datagram source p ∧ source ≠ server) ∧
        reply = payload.extract 0 datagramBuffer := by
  induction as with
  | nil => simp [receiveFrom]
  | cons a as ih =>
    cases a with
    | fault reason =>
      -- a socket error ends the wait, and it is no datagram to drop
      simp [receiveFrom, List.cons_eq_append_iff]
    | datagram source payload =>
      by_cases hs : source = server
      · -- the first datagram from the server is the reply
        subst hs
        simp only [receiveFrom, if_true, Except.ok.injEq]
        constructor
        · rintro rfl
          exact ⟨[], payload, as, rfl, by simp, rfl⟩
        · rintro ⟨pre, p, post, heq, hpre, rfl⟩
          rcases List.cons_eq_append_iff.1 heq with ⟨rfl, heq⟩ | ⟨pre', rfl, -⟩
          · cases heq
            rfl
          · obtain ⟨_, _, hx, hne⟩ := hpre _ List.mem_cons_self
            cases hx
            exact absurd rfl hne
      · -- a datagram from elsewhere is dropped
        simp only [receiveFrom, hs, if_false, ih]
        constructor
        · rintro ⟨pre, p, post, rfl, hpre, rfl⟩
          refine ⟨.datagram source payload :: pre, p, post, rfl, ?_, rfl⟩
          intro x hx
          rcases List.mem_cons.1 hx with rfl | hx
          · exact ⟨source, payload, rfl, hs⟩
          · exact hpre x hx
        · rintro ⟨pre, p, post, heq, hpre, rfl⟩
          rcases List.cons_eq_append_iff.1 heq with ⟨rfl, heq⟩ | ⟨pre', rfl, htail⟩
          · cases heq
            exact absurd rfl hs
          · exact ⟨pre', p, post, htail, fun x hx => hpre x (List.mem_cons_of_mem _ hx), rfl⟩

/-! ## Reading a stream -/

theorem be16_value {n : Nat} (hn : n ≤ 65535) :
    (n / 256).toUInt8.toNat * 256 + (n % 256).toUInt8.toNat = n := by
  simp only [Nat.toUInt8_eq, UInt8.toNat_ofNat']
  omega

theorem be16_of_octets (hi lo : UInt8) : be16 (hi.toNat * 256 + lo.toNat) = [hi, lo] := by
  have hhi := hi.toNat_lt
  have hlo := lo.toNat_lt
  simp only [be16, List.cons.injEq, and_true]
  constructor
  · apply UInt8.toNat_inj.1
    simp only [Nat.toUInt8_eq, UInt8.toNat_ofNat']
    omega
  · apply UInt8.toNat_inj.1
    simp only [Nat.toUInt8_eq, UInt8.toNat_ofNat']
    omega

/-- A reply is read from a stream exactly when the stream brought two octets of length and then
at least that many: the reply is the octets after the length, as many as it says. -/
theorem StreamReply.read_eq_ok_iff (r : StreamReply) (reply : ByteArray) :
    r.read = .ok reply ↔
      reply.size ≤ 65535 ∧ ∃ rest, r.octets = be16 reply.size ++ reply.data.toList ++ rest := by
  unfold StreamReply.read
  match h : r.octets with
  | [] => simp [be16]
  | [_] => simp [be16]
  | hi :: lo :: rest =>
    have hhi := hi.toNat_lt
    have hlo := lo.toNat_lt
    simp only
    split_ifs with hn
    · -- the octets after the length, as many as it says
      simp only [Except.ok.injEq]
      constructor
      · rintro rfl
        have hsize : (ByteArray.mk (rest.take (hi.toNat * 256 + lo.toNat)).toArray).size =
            hi.toNat * 256 + lo.toNat := by
          show (rest.take _).toArray.size = _
          simp [hn]
        refine ⟨by omega, rest.drop (hi.toNat * 256 + lo.toNat), ?_⟩
        rw [hsize, be16_of_octets]
        simp
      · rintro ⟨hle, rest', heq⟩
        simp only [be16, List.cons_append, List.nil_append, List.cons.injEq] at heq
        obtain ⟨rfl, rfl, rfl⟩ := heq
        rw [be16_value hle, List.take_left' (by simp)]
    · -- the stream ended before the reply was whole
      simp only [false_iff, not_and, not_exists]
      intro hle rest' heq
      simp only [be16, List.cons_append, List.nil_append, List.cons.injEq] at heq
      obtain ⟨rfl, rfl, rfl⟩ := heq
      rw [be16_value hle] at hn
      simp at hn

/-! ## Exchanges over the sockets -/

namespace Sockets

variable (s : Sockets) (server : SocketAddr) (m reply : ByteArray)

theorem datagramExchange_eq_ok_iff :
    s.datagramExchange server m = .ok reply ↔
      s.bindFault = none ∧ s.sendFault m = none ∧
        receiveFrom server (s.arrivals m) = .ok reply := by
  unfold datagramExchange
  split <;> simp_all

theorem streamExchange_eq_ok_iff :
    s.streamExchange m = .ok reply ↔
      m.size ≤ maxStreamMessage ∧ s.connectFault = none ∧
        (s.replyTo (frame m)).read = .ok reply := by
  unfold streamExchange
  split_ifs with hlong
  · simp only [false_iff, not_and]
    omega
  · cases s.connectFault <;> simp [Nat.le_of_not_lt hlong]

@[simp] theorem toward_apply (text : String) (t : Transport) :
    s.toward server text t m = s.exchange server t m := rfl

end Sockets

/-! ## Queries -/

theorem Except.bind_eq_ok_iff {ε α β : Type} {x : Except ε α} {f : α → Except ε β} {b : β} :
    x >>= f = .ok b ↔ ∃ a, x = .ok a ∧ f a = .ok b := by
  cases x <;> simp [bind, Except.bind]

theorem Except.bind_eq_error_iff {ε α β : Type} {x : Except ε α} {f : α → Except ε β} {e : ε} :
    x >>= f = .error e ↔ x = .error e ∨ ∃ a, x = .ok a ∧ f a = .error e := by
  cases x <;> simp [bind, Except.bind]

theorem sendOver_eq_ok_iff (net : Network) (server : String) (t : Transport)
    (bytes reply : ByteArray) :
    sendOver net server t bytes = .ok reply ↔ net server t bytes = .ok reply := by
  unfold sendOver
  split <;> simp_all

theorem sendOver_eq_error_iff (net : Network) (server : String) (t : Transport)
    (bytes : ByteArray) (e : DomainError) :
    sendOver net server t bytes = .error e ↔
      (net server t bytes = .error .timeout ∧ e = .transportTimeout server) ∨
      ∃ reason, net server t bytes = .error (.io reason) ∧ e = .transportIo server reason := by
  unfold sendOver
  split <;> simp_all [eq_comm]

namespace Query

variable {q : Query} {id : Nat} {e : DomainError}

theorem wireName_error (h : q.wireName = .error e) : ∃ d, e = .invalidDomainName d := by
  unfold wireName at h
  split at h
  · cases h
  · cases h
    exact ⟨_, rfl⟩

theorem question_error (h : q.question = .error e) : q.wireName = .error e := by
  unfold question at h
  rcases Except.bind_eq_error_iff.1 h with h | ⟨_, -, h⟩
  · exact h
  · cases h

theorem message_error (h : q.message id = .error e) : ∃ d, e = .invalidDomainName d := by
  unfold message at h
  rcases Except.bind_eq_error_iff.1 h with h | ⟨_, -, h⟩
  · exact wireName_error (question_error h)
  · dsimp only at h
    split at h
    · cases h
    · cases h
      exact ⟨_, rfl⟩

theorem message_of_ofText_error {err : Name.TextError} (h : Name.ofText q.domain = .error err) :
    q.message id = .error (.invalidDomainName
      ("Invalid domain '" ++ q.domain ++ "': " ++ err.message)) := by
  have hname : q.wireName = .error (.invalidDomainName
      ("Invalid domain '" ++ q.domain ++ "': " ++ err.message)) := by
    simp [wireName, h]
  simp [message, question, hname, bind, Except.bind]

end Query

theorem Answer.ofResponse_message {bs : ByteArray} {r : Response}
    (h : Answer.ofResponse bs = .ok r) : r.answer.message = bs := by
  unfold Answer.ofResponse at h
  split at h
  · cases h
  · cases h
    rfl

theorem Answer.ofResponse_error {bs : ByteArray} {e : DomainError}
    (h : Answer.ofResponse bs = .error e) : ∃ d, e = .invalidDnsResponse d := by
  unfold Answer.ofResponse at h
  split at h
  · cases h
    exact ⟨_, rfl⟩
  · cases h

namespace UpstreamServer

variable (up : UpstreamServer) (net : Network) (id : Nat) (q : Query)

theorem idCheck_eq_ok_iff (r : Response) (a : Answer) :
    (if r.id = id then pure r.answer
      else throw (.mismatchedResponseId id.toUInt16 r.id.toUInt16) : Except DomainError Answer) =
        .ok a ↔ r.id = id ∧ a = r.answer := by
  by_cases hid : r.id = id <;>
    simp [hid, pure, Except.pure, throw, throwThe, MonadExceptOf.throw, eq_comm]

theorem idCheck_eq_error_iff (r : Response) (e : DomainError) :
    (if r.id = id then pure r.answer
      else throw (.mismatchedResponseId id.toUInt16 r.id.toUInt16) : Except DomainError Answer) =
        .error e ↔ r.id ≠ id ∧ e = .mismatchedResponseId id.toUInt16 r.id.toUInt16 := by
  by_cases hid : r.id = id <;>
    simp [hid, pure, Except.pure, throw, throwThe, MonadExceptOf.throw, eq_comm]

theorem query_eq_ok_iff (a : Answer) :
    up.query net id q = .ok a ↔
      ∃ m bytes r, q.message id = .ok m ∧ net up.address q.transport m = .ok bytes ∧
        Answer.ofResponse bytes = .ok r ∧ r.id = id ∧ a = r.answer := by
  unfold query
  simp only [Except.bind_eq_ok_iff, sendOver_eq_ok_iff, idCheck_eq_ok_iff, exists_and_left]

theorem query_eq_error_iff (e : DomainError) :
    up.query net id q = .error e ↔
      q.message id = .error e ∨
      ∃ m, q.message id = .ok m ∧
        ((net up.address q.transport m = .error .timeout ∧ e = .transportTimeout up.address) ∨
         (∃ reason, net up.address q.transport m = .error (.io reason) ∧
            e = .transportIo up.address reason) ∨
         ∃ bytes, net up.address q.transport m = .ok bytes ∧
           (Answer.ofResponse bytes = .error e ∨
            ∃ r, Answer.ofResponse bytes = .ok r ∧ r.id ≠ id ∧
              e = .mismatchedResponseId id.toUInt16 r.id.toUInt16)) := by
  unfold query
  simp only [Except.bind_eq_error_iff, sendOver_eq_ok_iff, sendOver_eq_error_iff,
    idCheck_eq_error_iff, or_assoc]

end UpstreamServer

/-- A resolver at a socket address, asked over a client's sockets with message id `id`:

* over datagrams the reply is the first datagram from the resolver's exact address, cut to 4096
  octets, and every datagram before it came from elsewhere;
* over a stream the message goes out after its length in two big-endian octets, and the reply is
  the octets after the two that give its length, all of them;
* the query is answered exactly when that reply reads as a response with the query's id, and the
  answer keeps the reply's octets;
* otherwise the error says why: a name that cannot be written, a timeout or a socket error
  naming the resolver, a reply that does not read, or a reply with another id. -/
theorem query_accepts_only_genuine_reply (server : SocketAddr) (timeoutMs : Nat) (s : Sockets)
    (id : UInt16) (q : Query) :
    let result := (UpstreamServer.ofAddr server timeoutMs).query (s.toward server) id.toNat q
    (∀ m reply, s.exchange server .datagram m = .ok reply ↔
      s.bindFault = none ∧ s.sendFault m = none ∧
      ∃ pre payload post, s.arrivals m = pre ++ .datagram server payload :: post ∧
        (∀ x ∈ pre, ∃ source p, x = .datagram source p ∧ source ≠ server) ∧
        reply = payload.extract 0 4096) ∧
    (∀ m reply, s.exchange server .stream m = .ok reply ↔
      m.size ≤ 65535 ∧ s.connectFault = none ∧ reply.size ≤ 65535 ∧
      ∃ rest, (s.replyTo (be16 m.size ++ m.data.toList)).octets =
        be16 reply.size ++ reply.data.toList ++ rest) ∧
    (∀ a, result = .ok a ↔
      ∃ m bytes r, q.message id.toNat = .ok m ∧ s.exchange server q.transport m = .ok bytes ∧
        Answer.ofResponse bytes = .ok r ∧ r.id = id.toNat ∧ a = r.answer ∧
        a.message = bytes) ∧
    (∀ e, result = .error e ↔
      q.message id.toNat = .error e ∨
      ∃ m, q.message id.toNat = .ok m ∧
        ((s.exchange server q.transport m = .error .timeout ∧
            e = .transportTimeout server.toText) ∨
         (∃ reason, s.exchange server q.transport m = .error (.io reason) ∧
            e = .transportIo server.toText reason) ∨
         ∃ bytes, s.exchange server q.transport m = .ok bytes ∧
           (Answer.ofResponse bytes = .error e ∨
            ∃ r, Answer.ofResponse bytes = .ok r ∧ r.id ≠ id.toNat ∧
              e = .mismatchedResponseId id r.id.toUInt16))) ∧
    (∀ err, Name.ofText q.domain = .error err →
      result = .error (.invalidDomainName
        ("Invalid domain '" ++ q.domain ++ "': " ++ err.message))) ∧
    (∀ e, q.message id.toNat = .error e → ∃ d, e = .invalidDomainName d) ∧
    (∀ bytes e, Answer.ofResponse bytes = .error e → ∃ d, e = .invalidDnsResponse d) := by
  intro result
  refine ⟨fun m reply => ?_, fun m reply => ?_, fun a => ?_, fun e => ?_, fun err h => ?_,
    fun e h => Query.message_error h, fun bytes e h => Answer.ofResponse_error h⟩
  · rw [Sockets.exchange, Sockets.datagramExchange_eq_ok_iff, receiveFrom_eq_ok_iff]
    rfl
  · rw [Sockets.exchange, Sockets.streamExchange_eq_ok_iff, StreamReply.read_eq_ok_iff]
    rfl
  · -- the answer keeps the octets of the reply it was read from
    simp only [result, UpstreamServer.query_eq_ok_iff, Sockets.toward_apply]
    constructor
    · rintro ⟨m, bytes, r, hm, hx, hr, hid, rfl⟩
      exact ⟨m, bytes, r, hm, hx, hr, hid, rfl, Answer.ofResponse_message hr⟩
    · rintro ⟨m, bytes, r, hm, hx, hr, hid, rfl, -⟩
      exact ⟨m, bytes, r, hm, hx, hr, hid, rfl⟩
  · simp only [result, UpstreamServer.query_eq_error_iff, Sockets.toward_apply,
      UpstreamServer.ofAddr, UInt16.ofNat_toNat]
  · simp only [result, UpstreamServer.query_eq_error_iff]
    exact .inl (Query.message_of_ofText_error h)


/-- Over datagrams, a datagram from another port of the resolver's host is dropped, and the one
after it, from the resolver's own address, is the reply. -/
theorem query_accepts_only_genuine_reply_after_stranger :
    let server : SocketAddr := { ip := .v4 0x7f000001, port := 53 }
    let s : Sockets :=
      { bindFault := none, sendFault := fun _ => none,
        arrivals := fun _ =>
          [.datagram { server with port := 5353 } ⟨#[1]⟩, .datagram server ⟨#[2]⟩],
        connectFault := none, replyTo := fun _ => ⟨[], .closed⟩ }
    s.exchange server .datagram ByteArray.empty = .ok ⟨#[2]⟩ := by
  intro server s
  have hquery := query_accepts_only_genuine_reply server 200 s 0
    { domain := "example.", type := RecordType.a }
  refine (hquery.1 _ _).2 ⟨rfl, rfl, [.datagram { server with port := 5353 } ⟨#[1]⟩], ⟨#[2]⟩, [],
    rfl, ?_, ?_⟩
  · -- the stranger differs from the resolver in its port
    intro x hx
    rw [List.mem_singleton.1 hx]
    exact ⟨_, _, rfl, by decide⟩
  · decide

end SplitDns
