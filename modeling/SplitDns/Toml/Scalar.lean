import SplitDns.Toml.Strings
import SplitDns.Toml.Datetime
import SplitDns.Toml.Value
/-!
# TOML scalars

What an unquoted scalar reads as is decided by its first character, after at most one sign:

* a digit or `_` starts a number or a date-time. After the leading digits, `-` or `:` makes a
  date-time, a blank makes no value at all, `.`, `e` or `E` anywhere makes a float, and `_`
  makes an integer;
* `0x`, `0o` and `0b` start an integer in that radix, which may have no sign and must write
  its radix small;
* `.` starts a float that lacks its integer part;
* `t` and `T`, `f` and `F` start a boolean, which must be `true` or `false`; `i` and `n` start
  the floats `inf` and `nan`;
* anything else is no value: text must be quoted.

Numbers are checked part by part: a decimal part must hold digits and may not start with `0`
unless it is a single digit (fractions and exponents may), an underscore must stand between two
digits, and the digits after a radix must belong to it. A second sign is refused where it
stands. Every fault points at the character where the reading stopped, or at the whole scalar
when the scalar as a whole is wrong.
-/

namespace SplitDns
namespace Toml

/-- The words of a scalar that is no value. -/
def unquotedFault {α : Type} (span : Span) : Except TomlError α :=
  faultWith "string values must be quoted" [.description "literal string"] span

/-- Checks that every underscore of a run of digits starting at byte `pos` stands between two
digits, `prev` being the character before the run. -/
def underscoresBetween (isDigit : Char → Bool) : Option Char → List Char → Nat →
    Except TomlError Unit
  | prev, '_' :: rest, pos =>
    if (prev.map isDigit).getD false && (rest.head?.map isDigit).getD false then
      underscoresBetween isDigit (some '_') rest (pos + 1)
    else faultWith "`_` may only go between digits" [] ⟨pos, pos + 1⟩
  | _, c :: rest, pos => underscoresBetween isDigit (some c) rest (pos + c.utf8Size)
  | _, [], _ => .ok ()

/-- Checks a run of decimal digits and underscores starting at byte `pos`: it may not be empty
(`description` names it then), and when `zeroPrefixed` is false it may not start with `0`
unless it is a single digit. Gives what follows the run and its position. -/
def decimalPart (zeroPrefixed : Bool) (description : String) (cs : List Char) (pos : Nat) :
    Except TomlError (List Char × Nat) := do
  let run := cs.takeWhile fun c => c.isDigit || c = '_'
  if run.isEmpty then faultWith description [.description "digits"] (Span.at pos)
  else
    if !zeroPrefixed && (run.filter Char.isDigit).length > 1 && run.head? = some '0' then
      faultWith "unexpected leading zero" [] ⟨pos, pos + 1⟩
    else
      underscoresBetween Char.isDigit none run pos
      pure (cs.drop run.length, pos + run.length)

/-- Checks a float starting at byte `pos`, the scalar ending at `stop`: a mantissa, then a
fraction, an exponent or both. -/
def checkFloat (cs : List Char) (pos stop : Nat) : Except TomlError Unit := do
  let (cs, pos) ← decimalPart false "invalid mantissa" cs pos
  let (cs, pos) ← match cs with
    | '.' :: rest => decimalPart true "invalid fraction" rest (pos + 1)
    | _ => pure (cs, pos)
  let (cs, pos) ← match cs with
    | c :: rest =>
      if c = 'e' || c = 'E' then
        match rest with
        | s :: more =>
          if s = '+' || s = '-' then decimalPart true "invalid exponent" more (pos + 2)
          else decimalPart true "invalid exponent" rest (pos + 1)
        | [] => decimalPart true "invalid exponent" rest (pos + 1)
      else pure (cs, pos)
    | [] => pure (cs, pos)
  if cs.isEmpty then pure () else fault "invalid float" ⟨pos, stop⟩

/-- Checks a decimal integer starting at byte `pos`, the scalar ending at `stop`. -/
def checkInteger (cs : List Char) (pos stop : Nat) : Except TomlError Unit := do
  let (cs, pos) ← decimalPart false "invalid integer" cs pos
  if cs.isEmpty then pure () else fault "invalid integer" ⟨pos, stop⟩

/-- The name of a radix in the fault of a digit that does not belong to it. -/
def radixFault (radix : Nat) : String :=
  if radix = 16 then "invalid hexadecimal number"
  else if radix = 8 then "invalid octal number"
  else "invalid binary number"

/-- Whether a character is a digit of a radix. -/
def isRadixDigit (radix : Nat) (c : Char) : Bool := (hexValue c).any (· < radix)

/-- Checks the digits after a radix prefix, starting at byte `pos`. -/
def checkRadixDigits (radix : Nat) : Option Char → List Char → Nat → Except TomlError Unit
  | prev, '_' :: rest, pos =>
    if (prev.map (isRadixDigit radix)).getD false &&
        (rest.head?.map (isRadixDigit radix)).getD false then
      checkRadixDigits radix (some '_') rest (pos + 1)
    else faultWith "`_` may only go between digits" [] ⟨pos, pos + 1⟩
  | _, c :: rest, pos =>
    if isRadixDigit radix c then checkRadixDigits radix (some c) rest (pos + c.utf8Size)
    else fault (radixFault radix) ⟨pos, pos + c.utf8Size⟩
  | none, [], pos => fault (radixFault radix) (Span.at pos)
  | some _, [], _ => .ok ()

/-- The value of digits in a radix, underscores skipped. -/
def radixValue (radix : Nat) (cs : List Char) : Nat :=
  (cs.filter (· ≠ '_')).foldl (fun acc c => acc * radix + (hexValue c).getD 0) 0

/-- The value of a checked float written in decimal, underscores skipped. -/
def floatValue (negative : Bool) (cs : List Char) : TomlFloat :=
  let cs := cs.filter (· ≠ '_')
  let intPart := cs.takeWhile Char.isDigit
  let rest := cs.drop intPart.length
  let fracPart := match rest with
    | '.' :: more => more.takeWhile Char.isDigit
    | _ => []
  let rest := match rest with
    | '.' :: more => more.drop fracPart.length
    | _ => rest
  let exponent : Int := match rest with
    | _ :: '-' :: ds => -(radixValue 10 ds : Int)
    | _ :: '+' :: ds => radixValue 10 ds
    | _ :: ds => radixValue 10 ds
    | [] => 0
  decimalToFloat negative (radixValue 10 (intPart ++ fracPart)) (exponent - fracPart.length)

/-- The value of a date-time scalar, or the fault that refuses it. -/
def datetimeValue (raw : String) (span : Span) : Except TomlError Value :=
  match checkDatetime raw with
  | none => .ok (.datetime raw)
  | some f => fault f.message span

/-- Reads a scalar that starts with digits (after any sign), from byte `pos`. -/
def numberLike (raw : String) (span : Span) (negative : Bool) (cs : List Char) (pos : Nat) :
    Except TomlError Value :=
  let digits := cs.takeWhile Char.isDigit
  match cs.drop digits.length with
  | [] =>
    if digits.length > 1 && digits.head? = some '0' then
      faultWith "unexpected leading zero" [] ⟨pos, pos + 1⟩
    else
      let v := radixValue 10 digits
      .ok (.integer (if negative then -(v : Int) else v))
  | r :: rest =>
    if r = '-' || r = ':' then datetimeValue raw span
    else if (r :: rest).contains ' ' then unquotedFault span
    else if (r :: rest).any fun c => c = '.' || c = 'e' || c = 'E' then do
      checkFloat cs pos span.stop
      pure (.float (floatValue negative cs))
    else if r = '_' then do
      checkInteger cs pos span.stop
      let v := radixValue 10 cs
      pure (.integer (if negative then -(v : Int) else v))
    else unquotedFault span

/-- Reads a scalar that starts with `0` (after any sign), from byte `pos`. -/
def zeroPrefixed (raw : String) (span : Span) (signed negative : Bool) (cs : List Char)
    (pos : Nat) : Except TomlError Value :=
  match cs with
  | '0' :: r :: rest =>
    let radix := if r = 'x' || r = 'X' then some (16, "0x")
      else if r = 'o' || r = 'O' then some (8, "0o")
      else if r = 'b' || r = 'B' then some (2, "0b")
      else none
    match radix with
    | some (n, mark) => do
      if signed then faultWith "integers with a radix cannot be signed" [] ⟨span.start, span.start + 1⟩
      if r.isUpper then faultWith "radix must be lowercase" [.literal mark] ⟨pos, pos + 2⟩
      checkRadixDigits n none rest (pos + 2)
      pure (.integer (radixValue n rest))
    | none =>
      if r = '.' || r = 'e' || r = 'E' then do
        checkFloat cs pos span.stop
        pure (.float (floatValue negative cs))
      else numberLike raw span negative cs pos
  | _ => numberLike raw span negative cs pos

/-- Reads a word that must be `symbol`; `kind` names the value in the fault. -/
def symbolValue (raw : String) (span : Span) (symbol kind : String) (v : Value) :
    Except TomlError Value :=
  if raw = symbol then .ok v
  else if raw.contains ' ' then unquotedFault span
  else faultWith kind [.literal symbol] span

/-- Reads what follows a sign, from byte `pos`; `negative` if the sign was `-`. -/
def afterSign (raw : String) (span : Span) (negative : Bool) (cs : List Char) (pos : Nat) :
    Except TomlError Value :=
  match cs with
  | [] => unquotedFault span
  | c :: _ =>
    if c = '+' || c = '-' then faultWith "redundant numeric sign" [] ⟨pos, pos + 1⟩
    else if c = '_' then numberLike raw span negative cs pos
    else if c = '0' then zeroPrefixed raw span true negative cs pos
    else if c.isDigit then numberLike raw span negative cs pos
    else if c = '.' then do
      checkFloat cs pos span.stop
      pure (.float (floatValue negative cs))
    else if c = 'i' then
      if cs = "inf".toList then .ok (.float (.infinite negative))
      else faultWith "invalid float" [.literal "inf"] ⟨pos, span.stop⟩
    else if c = 'n' then
      if cs = "nan".toList then .ok (.float (.nan negative))
      else faultWith "invalid float" [.literal "nan"] ⟨pos, span.stop⟩
    else unquotedFault span

/-- Reads an unquoted scalar at a range. -/
def unquotedValue (raw : String) (span : Span) : Except TomlError Value :=
  let cs := raw.toList
  match cs with
  | [] => unquotedFault span
  | c :: rest =>
    if c = '+' || c = '-' then afterSign raw span (c = '-') rest (span.start + 1)
    else if c = '_' then numberLike raw span false cs span.start
    else if c = '0' then zeroPrefixed raw span false false cs span.start
    else if c.isDigit then numberLike raw span false cs span.start
    else if c = '.' then do
      checkFloat cs span.start span.stop
      pure (.float (floatValue false cs))
    else if c = 't' || c = 'T' then symbolValue raw span "true" "invalid boolean" (.boolean true)
    else if c = 'f' || c = 'F' then
      symbolValue raw span "false" "invalid boolean" (.boolean false)
    else if c = 'i' then symbolValue raw span "inf" "invalid float" (.float (.infinite false))
    else if c = 'n' then symbolValue raw span "nan" "invalid float" (.float (.nan false))
    else unquotedFault span

/-- Reads a scalar token's value: a string, or an unquoted scalar. -/
def scalarOf (t : Token) : Except TomlError Value :=
  if t.kind = .atom then unquotedValue t.text t.span
  else do
    let s ← stringOf t
    pure (.string s)

end Toml
end SplitDns
