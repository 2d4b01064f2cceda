import SplitDns.Wire.ServiceParams
import SplitDns.Wire.TypeBitmap
import SplitDns.Wire.Caa
/-!
# Record data

The data of a resource record, by type. Addresses, names (for `NS`, `CNAME`, `PTR`), mail
exchangers, zone authorities, services, text strings, naming-authority pointers, service
bindings, child synchronisation, authority authorisations and EDNS options are kept decoded;
everything else as its octets. `Rdata.read` reads the data of a type from the whole message,
so names may point back into it; many types check their content and fail where it is wrong.
EDNS options are kept one per code, the last of a code winning; a client subnet option is read
into its family, prefixes and address. Writing a record's data gives its canonical octets:
names compressed against the message written so far, except service and naming-authority
targets, which are written in full and in small letters.
-/

namespace SplitDns

/-- An EDNS option: a client subnet (its family, source and scope prefix lengths, and address
octets), or the octets of any other option. -/
inductive EdnsOption where
  | subnet (v6 : Bool) (source scope : Nat) (address : List UInt8)
  | raw (data : List UInt8)
  deriving DecidableEq, Repr, Inhabited

/-- Record data. -/
inductive Rdata where
  | a (addr : BitVec 32)
  | aaaa (addr : BitVec 128)
  | name (target : Name)
  | mx (preference : Nat) (exchange : Name)
  | soa (mname rname : Name) (serial refresh retry expire minimum : Nat)
  | srv (priority weight port : Nat) (target : Name)
  | txt (strings : List (List UInt8))
  | naptr (order preference : Nat) (flags services regexp : List UInt8) (replacement : Name)
  | hinfo (cpu os : List UInt8)
  | svcb (priority : Nat) (target : Name) (params : List (Nat × SvcValue))
  | csync (serial : Nat) (immediate soaMinimum : Bool) (types : List Nat)
  | caa (critical : Bool) (tag : CaaTag) (value : CaaValue)
  | opt (options : List (Nat × EdnsOption))
  | octets (data : List UInt8)
  deriving DecidableEq, Repr, Inhabited

namespace EdnsOption

open Decoder

/-- The largest number of address octets of a family: four for IPv4, sixteen for IPv6. -/
def familySize (family : Nat) : Option Nat :=
  if family = 1 then some 4 else if family = 2 then some 16 else none

/-- Reads a client subnet option from its octets: the family, the source and scope prefix
lengths, and as many address octets as the source prefix covers. -/
def readSubnet : Decoder EdnsOption := do
  let family ← u16
  let source := (← pop).toNat
  let scope := (← pop).toNat
  let size := (source + 7) / 8
  let addr ← slice size
  match familySize family with
  | none => fail (.other "Invalid family type.")
  | some max =>
    if size > max then fail (.other "Invalid address length")
    else pure (.subnet (family = 2) source scope (addr ++ List.replicate (max - size) 0))

/-- Reads the option of a code from its octets. -/
def ofOctets (code : Nat) (data : List UInt8) : Except WireError EdnsOption :=
  if code = 8 then
    match readSubnet.runAt (ByteArray.mk data.toArray) 0 with
    | .ok (o, _) => .ok o
    | .error (e, _) => .error e
  else .ok (.raw data)

/-- The octets of an option. -/
def octets : EdnsOption → List UInt8
  | .subnet v6 source scope addr =>
    Encoder.be16 (if v6 then 2 else 1) ++ [source.toUInt8, scope.toUInt8] ++
      addr.take ((source + 7) / 8)
  | .raw data => data

/-- Puts an option into a list kept one per code: a later option of a code replaces the
earlier one in its place. -/
def put (options : List (Nat × EdnsOption)) (code : Nat) (o : EdnsOption) :
    List (Nat × EdnsOption) :=
  if options.any (·.1 == code) then options.map fun (c, x) => if c == code then (c, o) else (c, x)
  else options ++ [(code, o)]

end EdnsOption

namespace Rdata

open Decoder

/-- The types whose data is a single name. -/
def nameTypes : List Nat := [2, 5, 12, 65305]

/-- Reads text strings until `length` octets from `start` are used. -/
def readStrings (start length : Nat) : Nat → Decoder (List (List UInt8))
  | 0 => pure []
  | fuel + 1 => do
    if (← index) - start < length then
      let s ← charData
      let rest ← readStrings start length fuel
      pure (s :: rest)
    else pure []

/-- Reads EDNS options until `length` octets from `start` are used. An option whose data runs
past the end is dropped with all the others, as a broken option list carries nothing. -/
def readOptions (start length : Nat) :
    Nat → List (Nat × EdnsOption) → Decoder (List (Nat × EdnsOption))
  | 0, acc => pure acc
  | fuel + 1, acc => do
    if (← index) - start < length then
      let code ← u16
      if (← index) - start < length then
        let len ← u16
        if len > length then fail (.other "OPT value length exceeds rdata length")
        else
          -- the data is read octet by octet while the record has room
          let rec collect : Nat → List UInt8 → Decoder (Option (List UInt8))
            | 0, got => pure (some got.reverse)
            | k + 1, got => do
              if (← index) - start < length then collect k ((← pop) :: got)
              else pure none
          match ← collect len [] with
          | some data =>
            match EdnsOption.ofOctets code data with
            | .ok o => readOptions start length fuel (EdnsOption.put acc code o)
            | .error e => fail e
          | none => pure []
      else pure []
    else pure acc

/-- Reads the data of a `CAA` record of `length` octets. -/
def readCaa (length : Nat) : Decoder Rdata := do
  let critical := (← pop).toNat &&& 0x80 != 0
  let tagLen := (← pop).toNat
  if length < tagLen + 2 then fail (.other "CAA tag character(s) out of bounds")
  else
    let tag := CaaTag.ofText (← CaaValue.readTag tagLen)
    let octets ← slice (length - tagLen - 2)
    match CaaValue.ofOctets tag octets with
    | .ok v => pure (.caa critical tag v)
    | .error e => fail (.other e)

/-- Reads the data of a `CSYNC` record of `length` octets: a serial, flags of which only the
two low bits may be set, and a bitmap of types. -/
def readCsync (length : Nat) : Decoder Rdata := do
  let start ← index
  let serial ← u32
  let flags ← u16
  if flags &&& 0xFC != 0 then
    fail (.other ("csync flags should be 0b000000**: " ++ Text.binary flags))
  else
    let used := (← index) - start
    if used > length then fail (.other "invalid rdata length in CSYNC")
    else
      let types ← TypeBitmap.read (length - used)
      pure (.csync serial (flags &&& 1 != 0) (flags &&& 2 != 0) types)

/-- Reads the data of a record of type `t` and declared length `length`. -/
def read (t length : Nat) : Decoder Rdata := do
  if t = 1 then
    let a ← pop
    let b ← pop
    let c ← pop
    let d ← pop
    pure (.a (IpAddr.ofOctets a.toNat b.toNat c.toNat d.toNat))
  else if t = 28 then
    let mut gs : List Nat := []
    for _ in [0:8] do
      gs := gs ++ [← u16]
    pure (.aaaa (IpAddr.ofGroups gs))
  else if t ∈ nameTypes then
    pure (.name (← Decoder.name))
  else if t = 15 then
    let p ← u16
    pure (.mx p (← Decoder.name))
  else if t = 6 then
    let m ← Decoder.name
    let r ← Decoder.name
    let s ← u32
    let rf ← u32
    let rt ← u32
    let ex ← u32
    let mn ← u32
    pure (.soa m r s rf rt ex mn)
  else if t = 33 then
    let p ← u16
    let w ← u16
    let port ← u16
    pure (.srv p w port (← Decoder.name))
  else if t = 16 then
    let start ← index
    pure (.txt (← readStrings start length (length + 1)))
  else if t = 35 then
    let o ← u16
    let p ← u16
    let flags ← charData
    if !flags.all (fun b => (Char.ofNat b.toNat).isAlphanum) then
      fail (.other "flags are not within range [a-zA-Z0-9]")
    else
      let services ← charData
      let regexp ← charData
      pure (.naptr o p flags services regexp (← Decoder.name))
  else if t = 13 then
    let cpu ← charData
    pure (.hinfo cpu (← charData))
  else if t = 41 then
    let start ← index
    pure (.opt (← readOptions start length (length + 1) []))
  else if t = 257 then
    readCaa length
  else if t = 44 ∨ t = 52 then
    let fixed := if t = 44 then 2 else 3
    let start ← index
    for _ in [0:fixed] do
      let _ ← pop
    if length < fixed then
      fail (.other ("invalid rdata length in " ++ (if t = 44 then "SSHFP" else "TLSA")))
    else
      let _ ← slice (length - fixed)
      let bs ← input
      pure (.octets (bs.extract start (start + length)).data.toList)
  else if t = 62 then
    readCsync length
  else if t = 64 ∨ t = 65 then
    let start ← index
    let priority ← u16
    let target ← Decoder.name
    let params ← SvcValue.readParams start length (length + 1) []
    pure (.svcb priority target params)
  else if t = 0 then
    pure (.octets [])
  else
    pure (.octets (← slice length))

/-- Writes record data. -/
def write (d : Rdata) : Encoder.Step := fun e =>
  match d with
  | .a addr => Encoder.bytes ((IpAddr.octets addr).map Nat.toUInt8) e
  | .aaaa addr => (IpAddr.groups addr).foldlM (fun e g => Encoder.u16 g e) e
  | .name n => Encoder.name n e
  | .mx p x => (Encoder.u16 p e).bind (Encoder.name x)
  | .soa m r s rf rt ex mn => do
    let e ← Encoder.name m e
    let e ← Encoder.name r e
    [s, rf, rt, ex, mn].foldlM (fun e n => Encoder.u32 n e) e
  | .srv p w port target => do
    let e ← Encoder.u16 p e
    let e ← Encoder.u16 w e
    let e ← Encoder.u16 port e
    Encoder.canonicalName target e
  | .txt ss => ss.foldlM (fun e s => Encoder.charData s e) e
  | .naptr o p f s r repl => do
    let e ← Encoder.u16 o e
    let e ← Encoder.u16 p e
    let e ← Encoder.charData f e
    let e ← Encoder.charData s e
    let e ← Encoder.charData r e
    Encoder.canonicalName repl e
  | .hinfo c o => (Encoder.charData c e).bind (Encoder.charData o)
  | .svcb priority target params => do
    let e ← Encoder.u16 priority e
    let e ← Encoder.name target e
    SvcValue.writeParams params e
  | .csync serial immediate soaMinimum types => do
    let e ← Encoder.u32 serial e
    let e ← Encoder.u16 ((if immediate then 1 else 0) + (if soaMinimum then 2 else 0)) e
    Encoder.bytes (TypeBitmap.octets types) e
  | .caa critical tag value => do
    let e ← Encoder.u8 (if critical then 0x80 else 0) e
    let e ← Encoder.charData tag.text.toUTF8.data.toList e
    Encoder.bytes value.octets e
  | .opt options => options.foldlM (fun e (code, o) => do
      let data := o.octets
      let e ← Encoder.u16 code e
      let e ← Encoder.u16 data.length e
      Encoder.bytes data e) e
  | .octets data => Encoder.bytes data e

end Rdata
end SplitDns
