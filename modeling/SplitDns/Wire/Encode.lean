import SplitDns.Wire.Decode
/-!
# Writing wire data

An `Encoder` writes octets into a buffer at an offset, under a size limit, and remembers where
each label sequence of a name it wrote starts. Octets go to the end of the buffer, and only
there is the limit checked. Taking a record back moves the offset back without shortening
the buffer, so the octets after it stay until they are written over, and the message is the
whole buffer. `Encoder.name` writes a name's labels, then looks for the longest suffix already
written: it replaces that suffix by a pointer to it, or, if none is found, ends the name with
the root label and records every suffix. `Encoder.canonicalName` writes a name in full, in
small letters. A name written out in full takes at most 255 octets.
-/

namespace SplitDns

/-- A message being written. -/
structure Encoder where
  buffer : ByteArray := ByteArray.empty
  /-- Where the next octet goes: the end of the buffer, or before it after a record was taken
  back. -/
  offset : Nat := 0
  /-- Where each written label sequence starts, with its octets up to the end of its name. -/
  pointers : List (Nat × List UInt8) := []
  maxSize : Nat := 65535

/-- A refused write: the error, and the encoder as it stood when the write was refused. -/
structure EncodeFault where
  error : WireError
  state : Encoder

namespace Encoder

/-- A writing step: the encoder after it, or the fault. -/
abbrev Step := Encoder → Except EncodeFault Encoder

/-- Fails a step. -/
def refuse {α : Type} (err : WireError) (e : Encoder) : Except EncodeFault α :=
  .error { error := err, state := e }

/-- The buffer with octets written from a position, over what was there and past its end. -/
def overwrite (buf : ByteArray) (pos : Nat) (l : List UInt8) : ByteArray :=
  buf.extract 0 pos ++ ByteArray.mk l.toArray ++ buf.extract (pos + l.length) buf.size

/-- Writes octets at the offset: over earlier octets when the offset lies inside the buffer,
else at its end if they fit under the limit. -/
def bytes (l : List UInt8) : Step := fun e =>
  if e.offset < e.buffer.size then
    .ok { e with buffer := overwrite e.buffer e.offset l, offset := e.offset + l.length }
  else if e.buffer.size + l.length > e.maxSize then refuse (.bufferFull e.maxSize) e
  else .ok { e with buffer := e.buffer ++ ByteArray.mk l.toArray, offset := e.offset + l.length }

/-- Writes one octet. -/
def u8 (b : Nat) : Step := bytes [b.toUInt8]

/-- The two octets of a big-endian 16-bit number. -/
def be16 (n : Nat) : List UInt8 := [(n / 256 % 256).toUInt8, (n % 256).toUInt8]

/-- Writes a big-endian 16-bit number. -/
def u16 (n : Nat) : Step := bytes (be16 n)

/-- Writes a big-endian 32-bit number. -/
def u32 (n : Nat) : Step :=
  bytes [(n / Nat.pow 2 24 % 256).toUInt8, (n / Nat.pow 2 16 % 256).toUInt8,
    (n / 256 % 256).toUInt8, (n % 256).toUInt8]

/-- Writes a length octet and the octets. -/
def charData (l : List UInt8) : Step := fun e =>
  if l.length > 255 then
    refuse (.other ("char data length exceeds 255: " ++ toString l.length)) e
  else (u8 l.length e).bind (bytes l)

/-- The buffer cut or padded with zeros to `n` octets. -/
def resize (buf : ByteArray) (n : Nat) : ByteArray :=
  if n ≤ buf.size then buf.extract 0 n
  else buf ++ ByteArray.mk (List.replicate (n - buf.size) (0 : UInt8)).toArray

/-- Keeps room for `n` octets at the offset, to be filled in later; gives where they start.
The buffer ends right after the room. -/
def reserve (n : Nat) (e : Encoder) : Except EncodeFault (Encoder × Nat) :=
  if e.buffer.size + n > e.maxSize then refuse (.bufferFull e.maxSize) e
  else .ok ({ e with buffer := resize e.buffer (e.offset + n), offset := e.offset + n }, e.offset)

/-- Fills in octets at an earlier position, keeping the offset. -/
def fill (pos : Nat) (l : List UInt8) (e : Encoder) : Encoder :=
  { e with buffer := overwrite e.buffer pos l }

/-- Cuts the message back to `pos`, forgetting label sequences that started at or after it. -/
def truncate (pos : Nat) (e : Encoder) : Encoder :=
  { e with buffer := e.buffer.extract 0 pos, offset := pos,
           pointers := e.pointers.filter (·.1 < pos) }

/-- Takes back what was written since an earlier state: the offset returns to it, while the
buffer keeps its octets and the label sequences stay remembered until a pointer cuts the buffer
back before them. -/
def rollback (earlier e : Encoder) : Encoder :=
  { e with offset := earlier.offset }

/-- Writes the labels of a name, giving where each starts. -/
def labels : List Label → Encoder → Except EncodeFault (Encoder × List Nat)
  | [], e => .ok (e, [])
  | l :: rest, e =>
    if l.length > 63 then refuse (.labelTooLong l.length) e
    else do
      let e' ← charData l e
      let (e'', starts) ← labels rest e'
      pure (e'', e.offset :: starts)

/-- Ends a name with the root label; a name over 255 octets from `before` is refused. -/
def finishName (before : Nat) : Step := fun e => do
  let e ← u8 0 e
  let len := e.buffer.size - before
  if len > 255 then refuse (.nameTooLong len) e else pure e

/-- Writes a name with compression. -/
def name (n : Name) : Step := fun e0 => do
  let before := e0.buffer.size
  let (e, starts) ← labels n.labels e0
  let stop := e.offset
  let rec scan : List Nat → Encoder → Except EncodeFault Encoder
    | [], e => finishName before e
    | pos :: rest, e =>
      let suffix := (e.buffer.extract pos stop).data.toList
      match e.pointers.find? (·.2 == suffix) with
      | some (target, _) => u16 (0xC000 + target % 0x4000) (truncate pos e)
      | none =>
        let e := if e.offset < 0x3FFF then { e with pointers := e.pointers ++ [(pos, suffix)] }
          else e
        scan rest e
  scan starts e

/-- Writes a name in canonical form: its letters made small and all its labels written out.
Its label sequences not met before are remembered, so later names may point to them. -/
def canonicalName (n : Name) : Step := fun e0 => do
  let before := e0.buffer.size
  let (e, starts) ← labels n.toLower.labels e0
  let stop := e.offset
  let remember := fun (e : Encoder) (pos : Nat) =>
    let suffix := (e.buffer.extract pos stop).data.toList
    if (e.pointers.find? (·.2 == suffix)).isSome || e.offset ≥ 0x3FFF then e
    else { e with pointers := e.pointers ++ [(pos, suffix)] }
  finishName before (starts.foldl remember e)

end Encoder
end SplitDns
