import SplitDns.Wire.Rdata
/-!
# Messages

A message is a header, its questions and three sections of resource records. The EDNS record
(`OPT`) of the additional section is kept apart: its TTL field carries the high eight bits of
the response code and its class the largest payload the sender takes. Reading a message reads
the header (refusing opcodes other than query, status, notify and update), the questions and the
records in order; a record's data must use exactly its declared length, and that check wins
over a fault inside the data. Writing a message writes the header last, with the counts of what
was written; a record that does not fit the size limit is left out and the message marked
truncated.
-/

namespace SplitDns

/-- The fixed header of a message. -/
structure Header where
  id : Nat := 0
  response : Bool := false
  opcode : Nat := 0
  authoritative : Bool := false
  truncated : Bool := false
  recursionDesired : Bool := false
  recursionAvailable : Bool := false
  authenticData : Bool := false
  checkingDisabled : Bool := false
  /-- The full response code; the header holds its low four bits. -/
  rcode : Nat := 0
  questionCount : Nat := 0
  answerCount : Nat := 0
  authorityCount : Nat := 0
  additionalCount : Nat := 0
  deriving DecidableEq, Repr, Inhabited

/-- A question: name, type and class. -/
structure Question where
  name : Name
  type : Nat
  klass : Nat
  deriving DecidableEq, Repr, Inhabited

/-- A resource record; `data` is none for empty data. -/
structure ResourceRecord where
  name : Name
  type : Nat
  klass : Nat
  ttl : Nat
  data : Option Rdata
  deriving DecidableEq, Repr, Inhabited

/-- The EDNS information of a message. -/
structure Edns where
  rcodeHigh : Nat := 0
  version : Nat := 0
  dnssecOk : Bool := false
  maxPayload : Nat := 512
  options : List (Nat × EdnsOption) := []
  deriving DecidableEq, Repr, Inhabited

/-- A whole message. -/
structure Message where
  header : Header := {}
  questions : List Question := []
  answers : List ResourceRecord := []
  authority : List ResourceRecord := []
  additional : List ResourceRecord := []
  edns : Option Edns := none
  deriving Repr, Inhabited

namespace Header

open Decoder

/-- The opcodes a message may carry. -/
def knownOpcode (n : Nat) : Bool := n = 0 ∨ n = 2 ∨ n = 4 ∨ n = 5

/-- Reads a header. -/
def read : Decoder Header := do
  let id ← u16
  let b1 := (← pop).toNat
  let opcode := (b1 &&& 0x78) >>> 3
  if !knownOpcode opcode then fail (.unknownOpcode opcode)
  else
    let b2 := (← pop).toNat
    let qd ← u16
    let an ← u16
    let ns ← u16
    let ar ← u16
    pure { id, response := b1 &&& 0x80 != 0, opcode, authoritative := b1 &&& 4 != 0,
           truncated := b1 &&& 2 != 0, recursionDesired := b1 &&& 1 != 0,
           recursionAvailable := b2 &&& 0x80 != 0, authenticData := b2 &&& 0x20 != 0,
           checkingDisabled := b2 &&& 0x10 != 0, rcode := b2 &&& 0xF,
           questionCount := qd, answerCount := an, authorityCount := ns, additionalCount := ar }

/-- The two flag octets of a header. -/
def flags (h : Header) : Nat × Nat :=
  let b1 := (if h.response then 0x80 else 0) ||| ((h.opcode % 16) <<< 3) |||
    (if h.authoritative then 4 else 0) ||| (if h.truncated then 2 else 0) |||
    (if h.recursionDesired then 1 else 0)
  let b2 := (if h.recursionAvailable then 0x80 else 0) ||| (if h.authenticData then 0x20 else 0) |||
    (if h.checkingDisabled then 0x10 else 0) ||| (h.rcode % 16)
  (b1, b2)

/-- The twelve octets of a header. -/
def octets (h : Header) : List UInt8 :=
  let (b1, b2) := h.flags
  let w := fun (n : Nat) => [(n / 256 % 256).toUInt8, (n % 256).toUInt8]
  w h.id ++ [b1.toUInt8, b2.toUInt8] ++ w h.questionCount ++ w h.answerCount ++
    w h.authorityCount ++ w h.additionalCount

/-- The header of a reply to a request: the id, opcode, recursion-desired and
checking-disabled flags are kept, everything else cleared. -/
def replyTo (h : Header) : Header :=
  { id := h.id, response := true, opcode := h.opcode, recursionDesired := h.recursionDesired,
    checkingDisabled := h.checkingDisabled }

end Header

namespace Question

open Decoder

/-- Reads a question. -/
def read : Decoder Question := do
  let name ← Decoder.name
  let type ← u16
  let klass ← u16
  pure { name, type, klass }

/-- Writes a question. -/
def write (q : Question) : Encoder.Step := fun e => do
  let e ← Encoder.name q.name e
  let e ← Encoder.u16 q.type e
  Encoder.u16 q.klass e

end Question

namespace ResourceRecord

open Decoder

/-- Reads a resource record. -/
def read : Decoder ResourceRecord := do
  let name ← Decoder.name
  let type ← u16
  if type = 41 && !name.isRoot then fail (.ednsNotRoot name.toText)
  else
    let klass ← u16
    let klass := if type = 41 then max klass 512 else klass
    let ttl ← u32
    let len ← u16
    let left ← remaining
    if len > left then fail (.rdataTooLong len left)
    else if len = 0 then pure { name, type, klass, ttl, data := none }
    else if type = 251 ∨ type = 252 ∨ type = 255 then fail (.unknownTypeValue type)
    else
      let bs ← input
      let start ← index
      -- the data reader runs, then the length it used is checked before its outcome counts
      match (Rdata.read type len).runAt bs start with
      | .ok (d, stop) =>
        set stop
        if stop - start ≠ len then fail (.rdataLength (stop - start) len)
        else pure { name, type, klass, ttl, data := some d }
      | .error (e, stop) =>
        set stop
        if stop - start ≠ len then fail (.rdataLength (stop - start) len)
        else fail e

/-- Writes a resource record; its data length is filled in once the data is written. -/
def write (r : ResourceRecord) : Encoder.Step := fun e => do
  let e ← Encoder.name r.name e
  let e ← Encoder.u16 r.type e
  let e ← Encoder.u16 r.klass e
  let e ← Encoder.u32 r.ttl e
  let (e, lenAt) ← Encoder.reserve 2 e
  let e ← match r.data with
    | some d => Rdata.write d e
    | none => pure e
  pure (Encoder.fill lenAt (Encoder.be16 (e.offset - lenAt - 2)) e)

/-- The EDNS information an `OPT` record carries. -/
def edns (r : ResourceRecord) : Edns :=
  { rcodeHigh := r.ttl / Nat.pow 2 24 % 256, version := r.ttl / Nat.pow 2 16 % 256,
    dnssecOk := r.ttl &&& 0x8000 != 0, maxPayload := max r.klass 512,
    options := match r.data with
      | some (.opt os) => os
      | _ => [] }

/-- The `OPT` record of EDNS information. -/
def ofEdns (x : Edns) : ResourceRecord :=
  { name := Name.root, type := 41, klass := x.maxPayload,
    ttl := x.rcodeHigh * Nat.pow 2 24 + x.version * Nat.pow 2 16 +
      (if x.dnssecOk then 0x8000 else 0),
    data := if x.options.isEmpty then none else some (.opt x.options) }

end ResourceRecord

namespace Message

open Decoder

/-- Reads `n` items in order. -/
def readMany {α : Type} (d : Decoder α) : Nat → Decoder (List α)
  | 0 => pure []
  | n + 1 => do
    let x ← d
    let rest ← readMany d n
    pure (x :: rest)

/-- Reads the additional section, setting the EDNS record apart. -/
def readAdditional : Nat → Option Edns → List ResourceRecord →
    Decoder (List ResourceRecord × Option Edns)
  | 0, edns, acc => pure (acc.reverse, edns)
  | n + 1, edns, acc => do
    let r ← ResourceRecord.read
    if r.type = 41 then
      if edns.isSome then fail .twoEdns
      else readAdditional n (some r.edns) acc
    else readAdditional n edns (r :: acc)

/-- Reads the sections after a header. -/
def readBody (h : Header) : Decoder Message := do
  let questions ← readMany Question.read h.questionCount
  let answers ← readMany ResourceRecord.read h.answerCount
  let authority ← readMany ResourceRecord.read h.authorityCount
  let (additional, edns) ← readAdditional h.additionalCount none []
  let rcode := match edns with
    | some x => x.rcodeHigh * 16 + h.rcode % 16
    | none => h.rcode
  pure { header := { h with rcode }, questions, answers, authority, additional, edns }

/-- Reads a whole message; octets after it are ignored. -/
def read : Decoder Message := do
  let h ← Header.read
  readBody h

/-- Decodes a message from its octets. -/
def decode (bs : ByteArray) : Except WireError Message :=
  match read.runAt bs 0 with
  | .ok (m, _) => .ok m
  | .error (e, _) => .error e

/-- Writes records while they fit; gives the encoder, how many were written and whether one
did not fit. A record that does not fit is taken back and the rest are not tried. -/
def writeRecords (rs : List ResourceRecord) (e : Encoder) :
    Except EncodeFault (Encoder × Nat × Bool) :=
  go rs e 0
where
  go : List ResourceRecord → Encoder → Nat → Except EncodeFault (Encoder × Nat × Bool)
    | [], e, n => .ok (e, n, false)
    | r :: rest, e, n =>
      match r.write e with
      | .ok e' => go rest e' (n + 1)
      | .error { error := .bufferFull _, state } => .ok (Encoder.rollback e state, n, true)
      | .error f => .error f

/-- Writes a message under a size limit, with counts taken from what was written. The
questions are written by `questions`, which gives how many it wrote; the EDNS record, if any,
carries the high bits of the response code. The header is filled in last. -/
def encodeWith (m : Message) (questions : Encoder → Except EncodeFault (Encoder × Nat))
    (maxSize : Nat) : Except WireError (ByteArray × Header) :=
  let run : Except EncodeFault (ByteArray × Header) := do
    let (e, headerAt) ← Encoder.reserve 12 { maxSize }
    let (e, qd) ← questions e
    let (e, an, t1) ← writeRecords m.answers e
    let (e, ns, t2) ← writeRecords m.authority e
    let (e, ar, t3) ← writeRecords m.additional e
    let (e, ar, t4) ← match m.edns with
      | some x =>
        let x := { x with rcodeHigh := m.header.rcode / 16 % 256 }
        let (e, k, t) ← writeRecords [ResourceRecord.ofEdns x] e
        pure (e, ar + k, t)
      | none => pure (e, ar, false)
    let h := { m.header with
      questionCount := qd, answerCount := an, authorityCount := ns, additionalCount := ar,
      truncated := m.header.truncated || t1 || t2 || t3 || t4 }
    pure ((Encoder.fill headerAt h.octets e).buffer, h)
  match run with
  | .ok out => .ok out
  | .error f => .error f.error

/-- Writes a message with its own questions. -/
def encode (m : Message) (maxSize : Nat) : Except WireError (ByteArray × Header) :=
  encodeWith m (fun e => do
    let e ← m.questions.foldlM (fun e q => q.write e) e
    pure (e, m.questions.length)) maxSize

end Message
end SplitDns
