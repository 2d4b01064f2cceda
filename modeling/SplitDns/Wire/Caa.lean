import SplitDns.Wire.Encode
import SplitDns.Net.Url
/-!
# Certification authority authorisation

The data of a `CAA` record: a flags octet of which only the critical bit is kept, a tag of one
to fifteen ASCII letters and digits, and a value whose form the tag decides. The tags `issue`
and `issuewild`, in any case, name an issuer: an optional domain name before the first `;`,
then `key=value` pairs separated by `;` and blanks, keys being letters and digits with `-`
allowed from their third character on, and values any visible characters. The tag `iodef`
holds a URL. Other tags keep their octets. Writing gives the critical bit alone, the known
tags in small letters, an issuer as its name then `; key=value` for each pair (or a bare `;`
when it has neither), and a URL in its serialisation.
-/

namespace SplitDns

/-- The tag of a `CAA` record. -/
inductive CaaTag where
  | issue
  | issueWild
  | iodef
  | other (text : String)
  deriving DecidableEq, Repr, Inhabited

/-- The value of a `CAA` record. -/
inductive CaaValue where
  | issuer (name : Option Name) (pairs : List (String × String))
  | url (link : Url)
  | raw (data : List UInt8)
  deriving DecidableEq, Repr, Inhabited

namespace CaaTag

/-- The tag a text names, in any case. -/
def ofText (s : String) : CaaTag :=
  match s.toLower with
  | "issue" => .issue
  | "issuewild" => .issueWild
  | "iodef" => .iodef
  | _ => .other s

/-- The text of a tag. -/
def text : CaaTag → String
  | .issue => "issue"
  | .issueWild => "issuewild"
  | .iodef => "iodef"
  | .other s => s

end CaaTag

namespace CaaValue

open Decoder

/-- Reads a tag of `len` octets, each an ASCII letter or digit. -/
def readTag (len : Nat) : Decoder String := do
  if len = 0 ∨ len > 15 then fail (.other "CAA tag length out of bounds, 1-15")
  else
    let rec go : Nat → List Char → Decoder String
      | 0, acc => pure (String.ofList acc.reverse)
      | k + 1, acc => do
        let c := Char.ofNat (← pop).toNat
        if c.isAlphanum then go k (c :: acc)
        else fail (.other "CAA tag character(s) out of bounds")
    go len []

/-- Where the reader of issuer pairs stands. -/
inductive PairState where
  | beforeKey
  | key (text : String)
  | value (key text : String)

/-- Reads the pairs after an issuer's name, each octet taken as the character of that code. -/
def readPairs (octets : List UInt8) : Except String (List (String × String)) := do
  let step := fun (st : PairState × List (String × String)) (b : UInt8) =>
    let (state, pairs) := st
    let c := Char.ofNat b.toNat
    match state with
    | .beforeKey =>
      if c == ';' || c == ' ' || c == '\t' then .ok (.beforeKey, pairs)
      else if c.isAlphanum then .ok (.key c.toString, pairs)
      else .error ("bad character in CAA issuer key: " ++ c.toString)
    | .key k =>
      if c == '=' then .ok (.value k "", pairs)
      else if c.isAlphanum || (c == '-' && k.length ≥ 2) then .ok (.key (k.push c), pairs)
      else .error ("bad character in CAA issuer key: " ++ c.toString)
    | .value k v =>
      if c == ';' then .ok (.beforeKey, pairs ++ [(k, v)])
      else if !Text.isControl c && !Text.isBlank c then .ok (.value k (v.push c), pairs)
      else .error ("bad character in CAA issuer value: " ++ c.toString)
  let (state, pairs) ← octets.foldlM step (.beforeKey, [])
  match state with
  | .beforeKey => pure pairs
  | .value k v => pure (pairs ++ [(k, v)])
  | .key k => .error ("key missing value: " ++ k)

/-- Reads an issuer: the name before the first `;`, then the pairs after it. -/
def readIssuer (octets : List UInt8) : Except String CaaValue := do
  let nameOctets := octets.takeWhile (· != 0x3B)
  let rest := (octets.dropWhile (· != 0x3B)).drop 1
  let name ← if nameOctets.isEmpty then pure none
    else match String.fromUTF8? (ByteArray.mk nameOctets.toArray) with
      | none => .error "error parsing utf8 string"
      | some t =>
        match Name.ofTextWith Name.mappedLabel t with
        | .ok n => pure (some n)
        | .error e => .error e.message
  pure (.issuer name (← readPairs rest))

/-- Reads the value of a tag from its octets. -/
def ofOctets (tag : CaaTag) (octets : List UInt8) : Except String CaaValue :=
  match tag with
  | .issue | .issueWild => readIssuer octets
  | .iodef =>
    match String.fromUTF8? (ByteArray.mk octets.toArray) with
    | none => .error "error parsing utf8 string"
    | some t =>
      match Url.parse t with
      | some u => .ok (.url u)
      | none => .error "url parsing error"
  | .other _ => .ok (.raw octets)

/-- The octets of a value. -/
def octets : CaaValue → List UInt8
  | .issuer name pairs =>
    let nameText := match name with
      | some n => n.toText
      | none => ""
    let body := if name.isNone && pairs.isEmpty then ";"
      else nameText ++ String.join (pairs.map fun (k, v) => "; " ++ k ++ "=" ++ v)
    body.toUTF8.data.toList
  | .url u => u.serialize.toUTF8.data.toList
  | .raw data => data

end CaaValue
end SplitDns
