import SplitDns.Toml.Lex
/-!
# TOML strings and keys

What a string token stands for. A token is first stripped of its delimiters; a closing one that
is missing is the first fault. A multi-line string drops a line end right after its opening
delimiter. The characters in between are then read one by one, and the first that breaks the
rules of the kind of string is the fault.

* Basic strings take blanks, visible ASCII characters other than `"` and `\`, and every
  non-ASCII character as themselves; a run of anything else is refused as a whole. A backslash
  starts an escape: one of `b e f n r t " \`, or `x`, `u`, `U` followed by two, four or eight
  hexadecimal digits naming a character that is not a surrogate.
* Multi-line basic strings also take `"` and line ends, and a backslash followed by blanks and
  a line end drops everything up to the next character that is neither a blank nor a line end.
* Literal strings take everything but control characters other than the tab; multi-line ones
  also take line ends.
* In every kind, a carriage return must be followed by a line feed.

A key is a bare word or a single-line string. A bare word may not be empty and may only hold
ASCII letters and digits, `-` and `_`; a multi-line string is no key. Every fault points at the
byte where the reading stopped.
-/

namespace SplitDns
namespace Toml

/-- Whether a character stands as itself in a basic string. -/
def isBasicPlain (c : Char) : Bool :=
  c = ' ' || c = '\t' || c.toNat = 0x21 || (0x23 ≤ c.toNat && c.toNat ≤ 0x5B) ||
    (0x5D ≤ c.toNat && c.toNat ≤ 0x7E) || c.toNat ≥ 0x80

/-- Whether a character stands as itself in a literal string. -/
def isLiteralPlain (c : Char) : Bool :=
  c = '\t' || (0x20 ≤ c.toNat && c.toNat ≤ 0x26) || (0x28 ≤ c.toNat && c.toNat ≤ 0x7E) ||
    c.toNat ≥ 0x80

/-- The value of a hexadecimal digit. -/
def hexValue (c : Char) : Option Nat :=
  if '0' ≤ c ∧ c ≤ '9' then some (c.toNat - 48)
  else if 'a' ≤ c ∧ c ≤ 'f' then some (c.toNat - 87)
  else if 'A' ≤ c ∧ c ≤ 'F' then some (c.toNat - 55)
  else none

/-- Whether a character is a hexadecimal digit. -/
def isHexDigit (c : Char) : Bool := (hexValue c).isSome

/-- The value of hexadecimal digits. -/
def hexNumber (cs : List Char) : Nat :=
  cs.foldl (fun acc c => acc * 16 + (hexValue c).getD 0) 0

/-- What may follow a backslash, as a fault names it. -/
def escapeLetters : List Expected :=
  ["b", "e", "f", "n", "r", "\\", "\"", "x", "u", "U"].map .literal

/-- The fault of a carriage return without a line feed, which ends at `pos`. -/
def loneCarriageReturn {α : Type} (pos : Nat) : Except TomlError α :=
  faultWith "carriage return must be followed by newline" [.literal "\n"] (Span.at pos)

/-- Reads the `n` hexadecimal digits of an escape starting at byte `pos`: the character they
name and what follows them. -/
def hexEscape (n : Nat) (cs : List Char) (pos : Nat) : Except TomlError (Char × List Char) :=
  let ds := (cs.takeWhile isHexDigit).take n
  if ds.length < n then
    faultWith "too few unicode value digits" [.description "unicode hexadecimal value"]
      (Span.at (pos + ds.length))
  else
    let v := hexNumber ds
    if v < 0x110000 && !(0xD800 ≤ v && v < 0xE000) then .ok (Char.ofNat v, cs.drop n)
    else faultWith "invalid value" [.description "unicode hexadecimal value"] (Span.at pos)

/-- Reads an escape whose letter is at byte `pos`: the character, what follows and its
position. -/
def escape (cs : List Char) (pos : Nat) : Except TomlError (Char × List Char × Nat) :=
  let simple := fun (c : Char) (rest : List Char) => Except.ok (c, rest, pos + 1)
  match cs with
  | '"' :: rest => simple '"' rest
  | '\\' :: rest => simple '\\' rest
  | 'b' :: rest => simple (Char.ofNat 8) rest
  | 'e' :: rest => simple (Char.ofNat 27) rest
  | 'f' :: rest => simple (Char.ofNat 12) rest
  | 'n' :: rest => simple '\n' rest
  | 'r' :: rest => simple '\r' rest
  | 't' :: rest => simple '\t' rest
  | 'x' :: rest => do
    let (c, rest) ← hexEscape 2 rest (pos + 1)
    pure (c, rest, pos + 3)
  | 'u' :: rest => do
    let (c, rest) ← hexEscape 4 rest (pos + 1)
    pure (c, rest, pos + 5)
  | 'U' :: rest => do
    let (c, rest) ← hexEscape 8 rest (pos + 1)
    pure (c, rest, pos + 9)
  | _ => faultWith "missing escaped value" escapeLetters (Span.at pos)

/-- Reads the body of a basic string starting at byte `pos`; `fuel` bounds the characters. -/
def readBasic : Nat → List Char → Nat → List Char → Except TomlError String
  | 0, _, _, acc => .ok (String.ofList acc.reverse)
  | _, [], _, acc => .ok (String.ofList acc.reverse)
  | fuel + 1, '\\' :: rest, pos, acc => do
    let (c, rest, pos) ← escape rest (pos + 1)
    readBasic fuel rest pos (c :: acc)
  | fuel + 1, c :: rest, pos, acc =>
    if isBasicPlain c then readBasic fuel rest (pos + c.utf8Size) (c :: acc)
    else
      let run := (c :: rest).takeWhile fun d => !(isBasicPlain d || d = '\\')
      faultWith "invalid basic string"
        [.description "non-double-quote visible characters", .literal "\\"]
        ⟨pos, pos + byteLength run⟩

/-- Skips the blanks and line ends after an escaped line end, from byte `pos`. -/
def skipLineBlanks : List Char → Nat → Except TomlError (List Char × Nat)
  | ' ' :: rest, pos => skipLineBlanks rest (pos + 1)
  | '\t' :: rest, pos => skipLineBlanks rest (pos + 1)
  | '\n' :: rest, pos => skipLineBlanks rest (pos + 1)
  | '\r' :: '\n' :: rest, pos => skipLineBlanks rest (pos + 2)
  | '\r' :: _, pos => loneCarriageReturn (pos + 1)
  | cs, pos => .ok (cs, pos)

/-- Reads an escaped line end in a multi-line basic string: blanks, a line end, then more
blanks and line ends, from byte `pos`. -/
def escapedLineEnd (cs : List Char) (pos : Nat) : Except TomlError (List Char × Nat) :=
  let blanks := cs.takeWhile fun c => c = ' ' || c = '\t'
  let pos := pos + blanks.length
  match cs.drop blanks.length with
  | '\n' :: rest => skipLineBlanks rest (pos + 1)
  | '\r' :: '\n' :: rest => skipLineBlanks rest (pos + 2)
  | '\r' :: _ => loneCarriageReturn (pos + 1)
  | _ => faultWith "invalid multi-line basic string" [.literal "\n"] (Span.at pos)

/-- Whether a character stands as itself in a multi-line basic string. -/
def isMultiBasicPlain (c : Char) : Bool := isBasicPlain c || c = '"' || c = '\n'

/-- Reads the body of a multi-line basic string starting at byte `pos`; `fuel` bounds the
characters. -/
def readMultiBasic : Nat → List Char → Nat → List Char → Except TomlError String
  | 0, _, _, acc => .ok (String.ofList acc.reverse)
  | _, [], _, acc => .ok (String.ofList acc.reverse)
  | fuel + 1, '\\' :: rest, pos, acc =>
    match rest with
    | c :: _ =>
      if c = ' ' || c = '\t' || c = '\r' || c = '\n' then do
        let (rest, pos) ← escapedLineEnd rest (pos + 1)
        readMultiBasic fuel rest pos acc
      else do
        let (c, rest, pos) ← escape rest (pos + 1)
        readMultiBasic fuel rest pos (c :: acc)
    | [] => faultWith "missing escaped value" escapeLetters (Span.at (pos + 1))
  | fuel + 1, '\r' :: rest, pos, acc =>
    match rest with
    | '\n' :: more => readMultiBasic fuel more (pos + 2) ('\n' :: '\r' :: acc)
    | _ => loneCarriageReturn (pos + 1)
  | fuel + 1, c :: rest, pos, acc =>
    if isMultiBasicPlain c then readMultiBasic fuel rest (pos + c.utf8Size) (c :: acc)
    else
      let run := (c :: rest).takeWhile fun d => !(isMultiBasicPlain d || d = '\\' || d = '\r')
      faultWith "invalid multi-line basic string"
        [.description "non-double-quote characters", .literal "\\"]
        ⟨pos, pos + byteLength run⟩

/-- Checks the body of a literal string starting at byte `pos`. -/
def checkLiteral : List Char → Nat → Except TomlError Unit
  | [], _ => .ok ()
  | c :: rest, pos =>
    if isLiteralPlain c then checkLiteral rest (pos + c.utf8Size)
    else
      faultWith "invalid literal string" [.description "non-single-quote visible characters"]
        (Span.at pos)

/-- Checks the body of a multi-line literal string starting at byte `pos`. -/
def checkMultiLiteral : List Char → Nat → Except TomlError Unit
  | [], _ => .ok ()
  | '\r' :: rest, pos =>
    match rest with
    | '\n' :: more => checkMultiLiteral more (pos + 2)
    | _ => loneCarriageReturn (pos + 1)
  | c :: rest, pos =>
    if isLiteralPlain c || c = '\'' || c = '\n' then checkMultiLiteral rest (pos + c.utf8Size)
    else
      faultWith "invalid multi-line literal string" [.description "non-single-quote characters"]
        (Span.at pos)

/-- Drops a line end right after the opening delimiter of a multi-line string, with its byte
count. -/
def dropFirstNewline : List Char → List Char × Nat
  | '\n' :: rest => (rest, 1)
  | '\r' :: '\n' :: rest => (rest, 2)
  | cs => (cs, 0)

/-- The characters of a token between its delimiters: the opening one of `width` characters is
dropped (with a line end after it when `multi`), then the closing one; the body and its byte
position, or the fault of a missing closing delimiter. -/
def body (t : Token) (width : Nat) (multi : Bool) (closing what : String) :
    Except TomlError (List Char × Nat) :=
  let (cs, skip) := if multi then dropFirstNewline (t.text.toList.drop width)
    else (t.text.toList.drop width, 0)
  let close := closing.toList
  if cs.length ≥ close.length && cs.drop (cs.length - close.length) = close then
    .ok (cs.take (cs.length - close.length), t.span.start + width + skip)
  else faultWith ("invalid " ++ what) [.literal closing] t.span.after

/-- The text a string token stands for; other tokens stand for their own text. -/
def stringOf (t : Token) : Except TomlError String :=
  match t.kind with
  | .basicString => do
    let (cs, pos) ← body t 1 false "\"" "basic string"
    readBasic (cs.length + 1) cs pos []
  | .multiBasicString => do
    let (cs, pos) ← body t 3 true "\"\"\"" "multi-line basic string"
    readMultiBasic (cs.length + 1) cs pos []
  | .literalString => do
    let (cs, pos) ← body t 1 false "'" "literal string"
    checkLiteral cs pos
    pure (String.ofList cs)
  | .multiLiteralString => do
    let (cs, pos) ← body t 3 true "'''" "multi-line literal string"
    checkMultiLiteral cs pos
    pure (String.ofList cs)
  | _ => .ok t.text

/-- What a bare key may hold, as a fault names it. -/
def bareKeyExpected : List Expected :=
  [.description "letters", .description "numbers", .literal "-", .literal "_"]

/-- Whether a character may stand in a bare key. -/
def isBareKeyChar (c : Char) : Bool :=
  (c.toNat < 0x80 && c.isAlphanum) || c = '-' || c = '_'

/-- Checks the characters of a bare key starting at byte `pos`. -/
def bareKeyChars : List Char → Nat → Except TomlError Unit
  | [], _ => .ok ()
  | c :: rest, pos =>
    if isBareKeyChar c then bareKeyChars rest (pos + c.utf8Size)
    else faultWith "invalid unquoted key" bareKeyExpected (Span.at pos)

/-- What multi-line strings may not stand for, as a fault names it. -/
def singleLineExpected : List Expected := [.description "basic string", .description "literal string"]

/-- The text a key part stands for. -/
def keyOf (t : Token) : Except TomlError String :=
  match t.kind with
  | .atom =>
    if t.text.isEmpty then faultWith "unquoted keys cannot be empty" bareKeyExpected t.span
    else do
      bareKeyChars t.text.toList t.span.start
      pure t.text
  | .multiBasicString =>
    faultWith "keys cannot be multi-line basic strings" singleLineExpected t.span
  | .multiLiteralString =>
    faultWith "keys cannot be multi-line literal strings" singleLineExpected t.span
  | _ => stringOf t

end Toml
end SplitDns
