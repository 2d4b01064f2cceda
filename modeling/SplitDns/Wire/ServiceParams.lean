import SplitDns.Wire.Encode
import SplitDns.Net.Ip
/-!
# Service parameters

The parameters of a service binding record (`SVCB`, `HTTPS`): a key, then a value of a length
given in two octets. Each value is read from exactly its own octets, so a value reader that
stops early leaves the rest unread and one that needs more fails. The named keys have values
of their own shape: the mandatory keys, the application protocols, the empty no-default flag,
a port, address hints, and an encrypted client hello configuration with its own two-octet
length. Other keys keep their octets, which are written back as one length-prefixed string.
Keys must come in strictly increasing numeric order.
-/

namespace SplitDns

/-- The value of a service parameter. -/
inductive SvcValue where
  | mandatory (keys : List Nat)
  | alpn (protocols : List (List UInt8))
  | noDefaultAlpn
  | port (n : Nat)
  | ipv4Hint (addrs : List (BitVec 32))
  | echConfig (config : List UInt8)
  | ipv6Hint (addrs : List (BitVec 128))
  | raw (data : List UInt8)
  deriving DecidableEq, Repr, Inhabited

namespace SvcValue

open Decoder

/-- Whether key `a` may not come before key `b`: keys go in increasing numeric order. -/
def notBefore (a b : Nat) : Bool := a ≥ b

/-- Reads items while octets are left; the fuel bounds the count. -/
def readAll {α : Type} (item : Decoder α) : Nat → Decoder (List α)
  | 0 => pure []
  | fuel + 1 => do
    if (← remaining) = 0 then pure []
    else
      let x ← item
      let rest ← readAll item fuel
      pure (x :: rest)

/-- Reads a string that must be UTF-8. -/
def utf8String : Decoder (List UInt8) := do
  let s ← charData
  match String.fromUTF8? (ByteArray.mk s.toArray) with
  | some _ => pure s
  | none => fail (.other "error parsing utf8 string")

/-- Reads a value of a key from the octets of that value alone. -/
def readOf (key : Nat) : Decoder SvcValue := do
  let size ← remaining
  match key with
  | 0 =>
    if size = 0 then fail (.other "Mandatory expects at least one value")
    else pure (.mandatory (← readAll u16 size))
  | 1 =>
    let ids ← readAll utf8String size
    if ids.isEmpty then fail (.other "Alpn expects at least one value")
    else pure (.alpn ids)
  | 2 =>
    if size > 0 then fail (.other "Alpn expects at least one value") else pure .noDefaultAlpn
  | 3 => pure (.port (← u16))
  | 4 => pure (.ipv4Hint (← readAll (do
      let o ← slice 4
      pure (IpAddr.ofOctets (o.getD 0 0).toNat (o.getD 1 0).toNat (o.getD 2 0).toNat
        (o.getD 3 0).toNat)) size))
  | 5 =>
    let len ← u16
    if len > (← remaining) then fail (.other "ECH value length exceeds max size of u16::MAX")
    else pure (.echConfig (← slice len))
  | 6 => pure (.ipv6Hint (← readAll (do
      let gs ← readAll u16 8
      if gs.length < 8 then fail .endOfInput else pure (IpAddr.ofGroups gs)) size))
  | _ => pure (.raw (← slice size))

/-- Reads the length and value of a parameter with the given key. -/
def read (key : Nat) : Decoder SvcValue := do
  let len ← u16
  let left ← remaining
  if len > left then
    fail (.other ("length of SvcParamValue (" ++ toString len ++
      ") exceeds remainder in RDATA (" ++ toString left ++ ")"))
  else
    let data ← slice len
    match (readOf key).runAt (ByteArray.mk data.toArray) 0 with
    | .ok (v, _) => pure v
    | .error (e, _) => fail e

/-- Reads parameters while at least four octets of the record data are left. -/
def readParams (start length : Nat) :
    Nat → List (Nat × SvcValue) → Decoder (List (Nat × SvcValue))
  | 0, acc => pure acc.reverse
  | fuel + 1, acc => do
    let used := (← index) - start
    if used > length then
      fail (.other ("Bad length for RDATA of SVCB: " ++ toString length))
    else if length - used < 4 then pure acc.reverse
    else
      let key ← u16
      let value ← read key
      match acc with
      | (last, _) :: _ =>
        if notBefore last key then fail (.other "SvcParams out of order")
        else readParams start length fuel ((key, value) :: acc)
      | [] => readParams start length fuel [(key, value)]

/-- Writes the octets of a value. -/
def writeBody (v : SvcValue) : Encoder.Step := fun e =>
  match v with
  | .mandatory keys => keys.foldlM (fun e k => Encoder.u16 k e) e
  | .alpn ids => ids.foldlM (fun e s => Encoder.charData s e) e
  | .noDefaultAlpn => pure e
  | .port n => Encoder.u16 n e
  | .ipv4Hint addrs =>
    addrs.foldlM (fun e a => Encoder.bytes ((IpAddr.octets a).map Nat.toUInt8) e) e
  | .echConfig c => do
    let e ← Encoder.u16 c.length e
    Encoder.bytes c e
  | .ipv6Hint addrs =>
    addrs.foldlM (fun e a => (IpAddr.groups a).foldlM (fun e g => Encoder.u16 g e) e) e
  | .raw data => Encoder.charData data e

/-- Writes a parameter: its key, the length of its value, and the value. -/
def write (key : Nat) (v : SvcValue) : Encoder.Step := fun e => do
  let e ← Encoder.u16 key e
  let (e, lenAt) ← Encoder.reserve 2 e
  let e ← writeBody v e
  pure (Encoder.fill lenAt (Encoder.be16 (e.offset - lenAt - 2)) e)

/-- Writes parameters, refusing any that does not come after the one before it. -/
def writeParams (params : List (Nat × SvcValue)) : Encoder.Step := fun e => do
  let (e, _) ← params.foldlM (fun (st : Encoder × Option Nat) (kv : Nat × SvcValue) => do
      let (e, last) := st
      match last with
      | some l =>
        if notBefore l kv.1 then Encoder.refuse (.other "SvcParams out of order") e
        else pure (← write kv.1 kv.2 e, some kv.1)
      | none => pure (← write kv.1 kv.2 e, some kv.1)) (e, none)
  pure e

end SvcValue
end SplitDns
