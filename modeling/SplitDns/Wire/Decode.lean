import SplitDns.Wire.Name
/-!
# Reading wire data

A `Decoder` reads from a message at a position and moves forward; when it fails it reports
the error together with the position it had reached, because a record's data is checked
against its declared length by how far its reader got. `Decoder.name` reads a name with
compression: a pointer must point before the start of the name being read, so following
pointers always ends, and the part it leads to must end before that start. A name over 255 counted octets is refused.
-/

namespace SplitDns

/-- Why wire data could not be read. -/
inductive WireError where
  | endOfInput
  | pointerNotPrior (idx ptr : Nat)
  | overlapping (label other : Nat)
  | labelCode (byte : Nat)
  | nameTooLong (size : Nat)
  | labelTooLong (size : Nat)
  | rdataTooLong (need remain : Nat)
  | rdataLength (read expected : Nat)
  | unknownOpcode (code : Nat)
  | ednsNotRoot (name : String)
  | twoEdns
  | unknownTypeValue (code : Nat)
  | badQueryCount (count : Nat)
  | bufferFull (max : Nat)
  | other (text : String)
  deriving DecidableEq, Repr, Inhabited

/-- The text of a wire error. -/
def WireError.message : WireError → String
  | .endOfInput => "unexpected end of input reached"
  | .pointerNotPrior i p =>
    "label points to data not prior to idx: " ++ toString i ++ " ptr: " ++ toString p
  | .overlapping l o => "overlapping labels name " ++ toString l ++ " other " ++ toString o
  | .labelCode b => "unrecognized label code: " ++ Text.binary b
  | .nameTooLong n => "name label data exceed 255: " ++ toString n
  | .labelTooLong n => "label bytes exceed 63: " ++ toString n
  | .rdataTooLong n r =>
    "rdata length too large for remaining bytes, need: " ++ toString n ++ " remain: " ++ toString r
  | .rdataLength r e => "incorrect rdata length read: " ++ toString r ++ " expected: " ++ toString e
  | .unknownOpcode c => "unknown OpCode: " ++ toString c
  | .ednsNotRoot n => "edns resource record label must be the root label (.): " ++ n
  | .twoEdns => "more than one edns record present"
  | .unknownTypeValue c => "record type value unknown: " ++ toString c
  | .badQueryCount n => "there should only be one query per request, got: " ++ toString n
  | .bufferFull m => "MaxBufferSizeExceeded: " ++ toString m
  | .other t => t

/-- A reader of a message from a position: the value and the next position, or the error and
the position reached. -/
abbrev Decoder := ReaderT ByteArray (StateT Nat (Except (WireError × Nat)))

namespace Decoder

/-- Fails at the current position. -/
def fail {α : Type} (e : WireError) : Decoder α := do
  throw (e, ← get)

/-- The number of octets left. -/
def remaining : Decoder Nat := do
  return (← read).size - (← get)

/-- The current position. -/
def index : Decoder Nat := get

/-- The whole message being read. -/
def input : Decoder ByteArray := read

/-- Reads one octet. -/
def pop : Decoder UInt8 := do
  let bs ← read
  let p ← get
  if h : p < bs.size then
    set (p + 1)
    return bs[p]
  else fail .endOfInput

/-- Reads `n` octets, or fails without moving. -/
def slice (n : Nat) : Decoder (List UInt8) := do
  let bs ← read
  let p ← get
  if p + n ≤ bs.size then
    set (p + n)
    return (bs.extract p (p + n)).data.toList
  else fail .endOfInput

/-- The big-endian value of octets. -/
def beValue (l : List UInt8) : Nat := l.foldl (fun acc b => acc * 256 + b.toNat) 0

/-- Reads a big-endian 16-bit number. -/
def u16 : Decoder Nat := do return beValue (← slice 2)

/-- Reads a big-endian 32-bit number. -/
def u32 : Decoder Nat := do return beValue (← slice 4)

/-- Reads a length octet and that many octets. -/
def charData : Decoder (List UInt8) := do
  let n ← pop
  slice n.toNat

/-- Runs a decoder from a position over a message. -/
def runAt {α : Type} (d : Decoder α) (bs : ByteArray) (p : Nat) :
    Except (WireError × Nat) (α × Nat) :=
  (d.run bs).run p

/-- Reads the labels of a name from position `pos`, where the name (or the part a pointer led
to) starts at `start`, after the labels `acc` already read. A part reached through a pointer
must end before `limit`, the start of the name that pointed to it. Gives the labels and the
position after the name, or the error and the position reached. -/
def nameLabels (bs : ByteArray) (start pos : Nat) (limit : Option Nat) (acc : List Label) :
    Except (WireError × Nat) (List Label × Nat) :=
  if limit.any (pos ≥ ·) then .error (.overlapping start (limit.getD 0), pos)
  else if h : pos < bs.size then
    let b := bs[pos].toNat
    if b = 0 then .ok (acc, pos + 1)
    else if b &&& 0xC0 = 0xC0 then
      if h2 : pos + 1 < bs.size then
        let ptr := (b &&& 0x3F) * 256 + bs[pos + 1].toNat
        if hp : ptr < start then
          match nameLabels bs ptr ptr (some start) acc with
          | .ok (labels, _) => .ok (labels, pos + 2)
          | .error (e, _) => .error (e, pos + 2)
        else .error (.pointerNotPrior pos ptr, pos)
      else .error (.endOfInput, pos)
    else if b &&& 0xC0 = 0 then
      if pos + 1 + b ≤ bs.size then
        let label := (bs.extract (pos + 1) (pos + 1 + b)).data.toList
        let next := acc ++ [label]
        if Name.countedLength next > 255 then .error (.nameTooLong b, pos + 1 + b)
        else nameLabels bs start (pos + 1 + b) limit next
      else .error (.endOfInput, pos + 1)
    else .error (.labelCode b, pos)
  else .error (.endOfInput, pos)
termination_by (start, bs.size - pos)

/-- Reads a name. -/
def name : Decoder Name := do
  let bs ← read
  let p ← get
  match nameLabels bs p p none [] with
  | .ok (labels, q) =>
    set q
    let len := Name.countedLength labels
    if len ≥ 255 then fail (.nameTooLong len)
    else return { labels, fqdn := true }
  | .error (e, q) =>
    set q
    fail e

end Decoder
end SplitDns
