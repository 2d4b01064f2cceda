import SplitDns.Text.Punycode
import SplitDns.Unicode.Category
import SplitDns.Unicode.Bidi
import SplitDns.Unicode.Joining
import SplitDns.Unicode.IdnaMapping
import SplitDns.Unicode.Normalization
/-!
# Internationalised domain names

The processing of UTS #46, non-transitional, as resolvers and URLs apply it. Every character
is mapped by its status: valid characters and deviations stay, ignored ones go, mapped ones are
replaced, and a disallowed one fails the text; so does an ASCII character the caller refuses.
The result is put in normalisation form C and cut into labels at full stops. A label that
starts with `xn--` must be ASCII and decode from punycode to a label that is not empty, not
all ASCII, already normal and made only of valid characters and deviations. Every label must
not start with `xn--` once decoded, nor with a mark; a zero-width joiner must follow a virama,
and a zero-width non-joiner must follow a virama or stand between a letter that joins to the
right and one that joins to the left, with only transparent letters around it. When any label
holds a right-to-left character or an Arabic digit, every label must keep the bidirectional
rule: it starts with a left-to-right or right-to-left letter, holds only the classes its
direction allows, ends (before any marks) with a letter or digit of its direction, and a
right-to-left label does not mix European and Arabic digits.

`toAscii` writes each label that is not all ASCII as `xn--` and its punycode; `toUnicode`
writes each label in its characters.
-/

namespace SplitDns
namespace Idna

open Unicode

/-- Which ASCII characters a conversion refuses. -/
inductive AsciiRule where
  /-- Nothing is refused. -/
  | none
  /-- Everything but small letters, digits, `-` and `.` is refused. -/
  | std3
  /-- The characters a URL domain may not hold are refused. -/
  | url
  deriving DecidableEq, Repr

/-- Whether a rule refuses an ASCII character. -/
def AsciiRule.refuses : AsciiRule → Char → Bool
  | .none, _ => false
  | .std3, c => c.toNat < 0x80 && !(c.isLower || c.isDigit || c == '-' || c == '.')
  | .url, c => c.toNat ≤ 0x20 || c.toNat == 0x7F || "#%/:<>?@[\\]^|".contains c

/-- Maps a text character by character; none if a character is disallowed or the mapping gives
a refused ASCII character. -/
def mapChars (rule : AsciiRule) (cs : List Char) : Option (List Char) :=
  cs.foldlM (fun acc c =>
    let image := match idnaStatus c with
      | .valid | .deviation => some [c]
      | .ignored => some []
      | .mapped ns => some (ns.map Char.ofNat)
      | .disallowed => none
    match image with
    | some ds => if ds.any (rule.refuses ·) then none else some (acc ++ ds)
    | none => none) []

/-- Whether a character is ASCII. -/
def isAscii (c : Char) : Bool := c.toNat < 0x80

/-- The characters `xn--` that mark a punycode label. -/
def acePrefix : List Char := ['x', 'n', '-', '-']

/-- Whether a zero-width joiner or non-joiner at position `i` stands where it may. -/
def joinerOk (label : List Char) (i : Nat) : Bool :=
  let c := label.getD i ' '
  let afterVirama := i > 0 && combiningClass (label.getD (i - 1) ' ').toNat == 9
  if c.toNat == 0x200D then afterVirama
  else if c.toNat == 0x200C then
    afterVirama ||
      (let before := ((label.take i).reverse.dropWhile (joiningType · == .transparent)).head?
       let after := ((label.drop (i + 1)).dropWhile (joiningType · == .transparent)).head?
       (match before.map joiningType with
        | some .left | some .dual => true
        | _ => false) &&
       (match after.map joiningType with
        | some .right | some .dual => true
        | _ => false))
  else true

/-- The checks every label must pass apart from the bidirectional rule. -/
def labelValid (label : List Char) : Bool :=
  !(label.take 4 == acePrefix) &&
    (match label.head? with
     | some c => !isMark c
     | none => true) &&
    (List.range label.length).all (joinerOk label)

/-- Whether a character is right to left or an Arabic digit. -/
def isRightToLeftClass (c : Char) : Bool :=
  match bidiClass c with
  | .rightToLeft | .arabicLetter | .arabicNumber => true
  | _ => false

/-- The bidirectional rule for one label. -/
def bidiOk (label : List Char) : Bool :=
  let classes := label.map bidiClass
  let last := (classes.reverse.dropWhile (· == .nonspacingMark)).head?
  match classes.head? with
  | some .rightToLeft | some .arabicLetter =>
    classes.all (fun k => match k with
      | .rightToLeft | .arabicLetter | .arabicNumber | .europeanNumber | .europeanSeparator
      | .commonSeparator | .europeanTerminator | .otherNeutral | .boundaryNeutral
      | .nonspacingMark => true
      | _ => false) &&
    (match last with
     | some .rightToLeft | some .arabicLetter | some .europeanNumber | some .arabicNumber => true
     | _ => false) &&
    !(classes.contains .europeanNumber && classes.contains .arabicNumber)
  | some .leftToRight =>
    classes.all (fun k => match k with
      | .leftToRight | .europeanNumber | .europeanSeparator | .commonSeparator
      | .europeanTerminator | .otherNeutral | .boundaryNeutral | .nonspacingMark => true
      | _ => false) &&
    (match last with
     | some .leftToRight | some .europeanNumber => true
     | _ => false)
  | some _ => false
  | none => true

/-- A label of the mapped text in its characters, decoded from punycode when it starts with
`xn--`; none if it breaks a rule of its own. -/
def decodeLabel (label : List Char) : Option (List Char) :=
  if label.take 4 == acePrefix then
    let payload := label.drop 4
    if !payload.all isAscii then none
    else match Punycode.decode (String.ofList payload) with
      | none => none
      | some d =>
        let ds := d.toList
        let statusOk := ds.all fun c => match idnaStatus c with
          | .valid | .deviation => true
          | _ => false
        if ds.isEmpty || ds.all isAscii || !statusOk || nfc ds != ds || !labelValid ds then none
        else some ds
  else if labelValid label then some label else none

/-- Processes a text: the labels of its mapped and normalised form, each with its characters,
or none if a rule is broken. -/
def process (rule : AsciiRule) (s : String) : Option (List (List Char × List Char)) := do
  let mapped ← mapChars rule s.toList
  let labels := (nfc mapped).splitOn '.'
  let decoded ← labels.mapM fun l => (decodeLabel l).map fun d => (l, d)
  if decoded.any (fun (_, d) => d.any isRightToLeftClass) &&
      !decoded.all (fun (_, d) => bidiOk d) then none
  else some decoded

/-- The ASCII form of a text: each label that is not all ASCII written as `xn--` and its
punycode; none if a rule is broken. -/
def toAsciiWith (rule : AsciiRule) (s : String) : Option String := do
  let labels ← process rule s
  pure (".".intercalate (labels.map fun (l, d) =>
    if l.all isAscii then String.ofList l else "xn--" ++ Punycode.encode d))

/-- The ASCII form of a label a resolver is given, under the STD3 rules. -/
def toAscii (s : String) : Option String := toAsciiWith .std3 s

/-- The ASCII form of the host of a URL. -/
def toAsciiForUrl (s : String) : Option String := toAsciiWith .url s

/-- The characters of a text, each label decoded; none if a rule is broken. -/
def toUnicode (s : String) : Option String := do
  let labels ← process .none s
  pure (".".intercalate (labels.map fun (_, d) => String.ofList d))

end Idna
end SplitDns
