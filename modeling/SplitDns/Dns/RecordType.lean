import SplitDns.Text.Number
/-!
# Record types

A record type is its 16-bit code. Sixteen codes have a mnemonic (`A`, `AAAA`, `MX`, …); every
other code is written `TYPE<n>` and reads back from that form. `ofText?` reads either form,
uppercasing first, so `aaaa`, `TYPE28` and `type+28` all give `AAAA`.
-/

namespace SplitDns

/-- A DNS record type, identified by its 16-bit code. -/
structure RecordType where
  code : UInt16
  deriving DecidableEq, Repr, Inhabited, Hashable

namespace RecordType

/-- The codes that have a mnemonic, with it. -/
def mnemonics : List (Nat × String) :=
  [(1, "A"), (2, "NS"), (5, "CNAME"), (6, "SOA"), (12, "PTR"), (15, "MX"), (16, "TXT"),
   (28, "AAAA"), (33, "SRV"), (35, "NAPTR"), (43, "DS"), (48, "DNSKEY"), (64, "SVCB"),
   (65, "HTTPS"), (255, "ANY"), (257, "CAA")]

def a : RecordType := ⟨1⟩
def ns : RecordType := ⟨2⟩
def cname : RecordType := ⟨5⟩
def soa : RecordType := ⟨6⟩
def ptr : RecordType := ⟨12⟩
def mx : RecordType := ⟨15⟩
def txt : RecordType := ⟨16⟩
def aaaa : RecordType := ⟨28⟩
def srv : RecordType := ⟨33⟩
def opt : RecordType := ⟨41⟩

/-- The mnemonic of a type, if it has one. -/
def mnemonic? (t : RecordType) : Option String :=
  (mnemonics.find? (·.1 == t.code.toNat)).map (·.2)

/-- The mnemonic, or `UNKNOWN`. -/
def asStr (t : RecordType) : String := (mnemonic? t).getD "UNKNOWN"

/-- The mnemonic, or `TYPE` and the code. -/
def display (t : RecordType) : String :=
  match mnemonic? t with
  | some m => m
  | none => "TYPE" ++ toString t.code.toNat

/-- Only `A` and `AAAA` questions ask for addresses. -/
def isAddress (t : RecordType) : Bool := t.code == 1 || t.code == 28

/-- Uppercase of a character where it is ASCII: letters, and the few non-ASCII letters whose
uppercase is ASCII (`ß` is `SS`, `ı` is `I`, `ſ` is `S`, the Latin ligatures). Any other
character stays as it is, which keeps a text with it from matching an ASCII name. -/
def upperChar (c : Char) : List Char :=
  match c.toNat with
  | 0xDF => ['S', 'S']
  | 0x131 => ['I']
  | 0x17F => ['S']
  | 0xFB00 => ['F', 'F']
  | 0xFB01 => ['F', 'I']
  | 0xFB02 => ['F', 'L']
  | 0xFB03 => ['F', 'F', 'I']
  | 0xFB04 => ['F', 'F', 'L']
  | 0xFB05 => ['S', 'T']
  | 0xFB06 => ['S', 'T']
  | _ => [c.toUpper]

/-- Reads a mnemonic or `TYPE<n>`, in any case. -/
def ofText? (s : String) : Option RecordType :=
  let up := String.ofList (s.toList.flatMap upperChar)
  match mnemonics.find? (·.2 == up) with
  | some (code, _) => some ⟨code.toUInt16⟩
  | none =>
    if up.startsWith "TYPE" then
      (Text.readUnsigned 65536 (String.ofList (up.toList.drop 4))).map fun n => ⟨n.toUInt16⟩
    else none

end RecordType
end SplitDns
