import SplitDns.Text.Idna
import SplitDns.Text.Number
import SplitDns.Text.Blank
import SplitDns.Text.Utf8
/-!
# Domain names

A name is a list of labels of raw octets, with a flag for a name written with its final dot.
Reading a name from text takes labels between dots, with `\c` standing for the character `c`
and `\ddd` for the character whose code is the three digits read in base eight. Each label is
first taken through the internationalised mapping (lowercase, `xn--` form); if any label of
the name fails that, the whole name is read again keeping every label as typed, which then
must be ASCII letters, digits, `-`, `_`, `.` and a leading `*`, and not begin with `-`.
A label holds at most 63 octets and a name at most 255 counting one octet per label.
Writing a name decodes `xn--` labels and escapes other octets: printable ones that may not
stand in a label with a backslash, the rest as `\ddd` in octal.
-/

namespace SplitDns

/-- A label: at most 63 octets. -/
abbrev Label := List UInt8

/-- A domain name: its labels, most specific first, and whether it was written with a final
dot. -/
structure Name where
  labels : List Label := []
  fqdn : Bool := false
  deriving DecidableEq, Repr, Inhabited

namespace Name

/-- The root name. -/
def root : Name := { fqdn := true }

/-- Whether a name has no labels. -/
def isRoot (n : Name) : Bool := n.labels.isEmpty

/-- The size the name is counted with: a dot a label (one for the root) and the octets. -/
def countedLength (labels : List Label) : Nat :=
  (if labels.isEmpty then 1 else labels.length) + labels.foldl (fun n l => n + l.length) 0

/-- The octets of a label written as text in a name. -/
def labelOfString (s : String) : Label := s.toUTF8.data.toList

/-- An ASCII character that may stand in a label when read: letters and digits anywhere, `-`
after the first place, `.` and `_` anywhere, `*` in the first place. -/
def safeToRead (c : Char) (first : Bool) : Bool :=
  c.isAlphanum || (c = '-' && !first) || c = '.' || c = '_' || (c = '*' && first)

/-- An ASCII character that is written as it is: letters and digits, `-` after the first
place, `_`, and `*` in the first place. -/
def safeToWrite (c : Char) (first : Bool) : Bool :=
  c.isAlphanum || (c = '-' && !first) || c = '_' || (c = '*' && first)

/-- Why a name text could not be read. -/
inductive TextError where
  | malformedLabel (label : String)
  | labelTooLong (size : Nat)
  | nameTooLong (size : Nat)
  | unrecognizedChar (c : Char)
  | illegalChar (c : Char)
  | invalidLabel
  deriving DecidableEq, Repr

/-- The text of a name reading error. -/
def TextError.message : TextError → String
  | .malformedLabel l => "Malformed label: " ++ l
  | .labelTooLong n => "label bytes exceed 63: " ++ toString n
  | .nameTooLong n => "name label data exceed 255: " ++ toString n
  | .unrecognizedChar c => "unrecognized char: " ++ c.toString
  | .illegalChar c => "illegal char: " ++ c.toString
  | .invalidLabel => "Label contains invalid characters"

/-- A label kept as typed: ASCII of the label characters, at most 63 octets. -/
def asciiLabel (s : String) : Except TextError Label :=
  if s.utf8ByteSize > 63 then .error (.labelTooLong s.utf8ByteSize)
  else if s = "*" then .ok (labelOfString s)
  else
    let cs := s.toList
    let ok := match cs with
      | [] => false
      | c :: rest => c.toNat < 0x80 && safeToRead c true &&
          rest.all fun d => d.toNat < 0x80 && safeToRead d false
    if ok then .ok (labelOfString s) else .error (.malformedLabel s)

/-- A label through the internationalised mapping; `_`-led and `*` labels are kept as typed. -/
def mappedLabel (s : String) : Except TextError Label :=
  if s = "*" || s.startsWith "_" then asciiLabel s
  else match Idna.toAscii s with
    | some a => asciiLabel a
    | none => .error .invalidLabel

/-- A numeric character: general category `Nd`, `Nl` or `No`. -/
def isNumeric (c : Char) : Bool := Unicode.isNumeric c

/-- The value of an octal digit. -/
def octalValue (c : Char) : Option Nat :=
  if '0' ≤ c ∧ c ≤ '7' then some (c.toNat - 0x30) else none

/-- Where the reader of a name text stands. -/
inductive Escape where
  | none
  | backslash
  | one (d : Nat)
  | two (d e : Nat)

/-- Splits a name text into its label texts, resolving escapes. Gives the labels completed
before the first bad character, that character's error if there is one, and whether the text
ended with a dot. -/
def splitText (s : String) : List String × Option TextError × Bool :=
  let step := fun (st : List String × List Char × Escape × Option TextError) (c : Char) =>
    let (done, cur, esc, err) := st
    if err.isSome then st
    else
      let fail := fun e => (done, cur, esc, some e)
      match esc with
      | .none =>
        if c = '.' then (String.ofList cur.reverse :: done, [], .none, none)
        else if c = '\\' then (done, cur, .backslash, none)
        else if !Text.isControl c && !Text.isBlank c then (done, c :: cur, .none, none)
        else fail (.unrecognizedChar c)
      | .backslash =>
        if isNumeric c then
          match octalValue c with
          | some d => (done, cur, .one d, none)
          | none => fail (.illegalChar c)
        else (done, c :: cur, .none, none)
      | .one d =>
        if isNumeric c then
          match octalValue c with
          | some e => (done, cur, .two d e, none)
          | none => fail (.illegalChar c)
        else fail (.unrecognizedChar c)
      | .two d e =>
        if isNumeric c then
          match octalValue c with
          | some f => (done, Char.ofNat (d * 64 + e * 8 + f) :: cur, .none, none)
          | none => fail (.illegalChar c)
        else fail (.unrecognizedChar c)
  let (done, cur, _, err) := s.toList.foldl step ([], [], .none, none)
  match err with
  | some e => (done.reverse, some e, false)
  | none =>
    let labels := if cur.isEmpty then done.reverse else (String.ofList cur.reverse :: done).reverse
    (labels, none, cur.isEmpty && !s.isEmpty)

/-- Appends a label, refusing a name over 255 counted octets. -/
def extend (labels : List Label) (l : Label) : Except TextError (List Label) :=
  let next := labels ++ [l]
  if countedLength next > 255 then .error (.nameTooLong (countedLength next)) else .ok next

/-- Reads a name text, converting each label with `conv`; labels are taken in order, so the
first fault of the text is the one reported. -/
def ofTextWith (conv : String → Except TextError Label) (s : String) : Except TextError Name :=
  if s = "." then .ok root
  else do
    let (texts, err, endsWithDot) := splitText s
    let labels ← texts.foldlM (fun acc t => do extend acc (← conv t)) []
    match err with
    | some e => .error e
    | none => pure { labels, fqdn := endsWithDot }

/-- Reads a name text: internationalised if every label allows it, else as typed. -/
def ofText (s : String) : Except TextError Name :=
  match ofTextWith mappedLabel s with
  | .ok n => .ok n
  | .error _ => ofTextWith asciiLabel s

/-- Escapes one octet of a label for writing. -/
def escapeOctet (b : UInt8) (first : Bool) : String :=
  let c := Char.ofNat b.toNat
  if b.toNat < 0x80 && safeToWrite c first then c.toString
  else if 0x20 < b.toNat && b.toNat < 0x7F then "\\" ++ c.toString
  else "\\" ++ Text.octal3 b.toNat

/-- A label as escaped ASCII. -/
def labelAscii (l : Label) : String :=
  match l with
  | [] => ""
  | b :: rest => rest.foldl (fun acc x => acc ++ escapeOctet x false) (escapeOctet b true)

/-- A label as text: an `xn--` label that decodes is written in its characters. -/
def labelText (l : Label) : String :=
  if l.take 4 = [0x78, 0x6E, 0x2D, 0x2D] then
    match Idna.toUnicode (Text.decodeLossy l) with
    | some u => u
    | none => labelAscii l
  else labelAscii l

/-- A name as text: labels joined by dots, with a final dot for the root and for a name
written with one. -/
def toText (n : Name) : String :=
  ".".intercalate (n.labels.map labelText) ++ (if n.isRoot || n.fqdn then "." else "")

/-- A name with its ASCII letters made small. -/
def toLower (n : Name) : Name :=
  { n with labels := n.labels.map fun l => l.map fun b =>
      if 0x41 ≤ b.toNat && b.toNat ≤ 0x5A then b + 0x20 else b }

end Name
end SplitDns
