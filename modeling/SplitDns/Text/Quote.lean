import SplitDns.Text.Number
import SplitDns.Unicode.Category
/-!
# Quoted text

How a debugging display shows a string: in double quotes, with the quote, the backslash and the
common control characters escaped by a backslash, and every other character that does not print
on its own, or that extends the grapheme before it, as its code point in hexadecimal between
braces.
-/

namespace SplitDns.Text

/-- Whether a character is shown by its code point in a quoted string: it extends the grapheme
before it, so shown alone it would attach to the quote or escape, or it does not print. -/
def escapedInQuotes (c : Char) : Bool :=
  Unicode.isGraphemeExtend c || !Unicode.isPrintable c

/-- One character of a quoted string. -/
def quotedChar (c : Char) : String :=
  if c = '"' then "\\\"" else if c = '\\' then "\\\\" else if c = '\n' then "\\n"
  else if c = '\r' then "\\r" else if c = '\t' then "\\t" else if c.toNat = 0 then "\\0"
  else if escapedInQuotes c then "\\u\x7b" ++ hex c.toNat ++ "\x7d"
  else c.toString

/-- A string in double quotes with the escapes of a debugging display. -/
def quoted (s : String) : String :=
  "\"" ++ String.join (s.toList.map quotedChar) ++ "\""

end SplitDns.Text
