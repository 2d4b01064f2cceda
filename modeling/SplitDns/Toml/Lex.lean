import SplitDns.Toml.Fault
/-!
# TOML tokens

A TOML document is first cut into tokens, each with the byte range it covers. Punctuation,
runs of blanks, comments, line ends and the four kinds of string are recognised by their first
characters; everything else up to the next punctuation, blank, comment or line end is one atom,
which later reads as a bare key, a number, a boolean or a date. Quotes do not end an atom, so
`b"` is one atom. A dot always ends an atom, so `1.5` is three tokens that the parser puts
together again. Strings are cut at their closing quote, a single-line string also at the end of
its line; what is inside is checked only when the string is read. A carriage return is a line
end on its own too, refused later unless a line feed follows it. A leading byte order mark is
skipped.
-/

namespace SplitDns
namespace Toml

/-- What a token is. -/
inductive TokenKind where
  | dot
  | equals
  | comma
  | openBracket
  | closeBracket
  | openBrace
  | closeBrace
  | whitespace
  | comment
  | newline
  | literalString
  | basicString
  | multiLiteralString
  | multiBasicString
  | atom
  | eof
  deriving DecidableEq, Repr, Inhabited

/-- A token: its kind, its range and its text. -/
structure Token where
  kind : TokenKind
  span : Span
  text : String
  deriving Repr, Inhabited

/-- Whether a token can stand as a key or a string value. -/
def TokenKind.isString : TokenKind → Bool
  | .literalString | .basicString | .multiLiteralString | .multiBasicString => true
  | _ => false

/-- The number of bytes of characters in UTF-8. -/
def byteLength (cs : List Char) : Nat := cs.foldl (fun n c => n + c.utf8Size) 0

/-- The characters that end an atom. -/
def atomEnd (c : Char) : Bool :=
  c = '.' || c = '=' || c = ',' || c = '[' || c = ']' || c = '{' || c = '}' || c = ' ' ||
    c = '\t' || c = '#' || c = '\r' || c = '\n'

/-- The characters of a single-line basic string after its opening quote, up to and with its
closing quote, or up to the end of the line; a backslash takes the next character with it. -/
def basicBody : List Char → List Char
  | [] => []
  | '"' :: _ => ['"']
  | '\n' :: _ => []
  | '\\' :: c :: rest => if c = '\n' then ['\\'] else '\\' :: c :: basicBody rest
  | c :: rest => c :: basicBody rest

/-- The characters of a single-line literal string after its opening quote, up to and with its
closing quote, or up to the end of the line. -/
def literalBody : List Char → List Char
  | [] => []
  | '\'' :: _ => ['\'']
  | '\n' :: _ => []
  | c :: rest => c :: literalBody rest

/-- Up to two more quote characters after a closing delimiter belong to the string. -/
def extraQuotes (q : Char) : List Char → List Char
  | a :: b :: _ => if a = q then (if b = q then [a, b] else [a]) else []
  | [a] => if a = q then [a] else []
  | [] => []

/-- The characters of a multi-line basic string after its opening delimiter, up to and with its
closing delimiter, or to the end of the document. -/
def multiBasicBody : List Char → List Char
  | [] => []
  | '\\' :: c :: rest => '\\' :: c :: multiBasicBody rest
  | '"' :: '"' :: '"' :: rest => ['"', '"', '"'] ++ extraQuotes '"' rest
  | c :: rest => c :: multiBasicBody rest

/-- The characters of a multi-line literal string after its opening delimiter, up to and with
its closing delimiter, or to the end of the document. -/
def multiLiteralBody : List Char → List Char
  | [] => []
  | '\'' :: '\'' :: '\'' :: rest => ['\'', '\'', '\''] ++ extraQuotes '\'' rest
  | c :: rest => c :: multiLiteralBody rest

/-- The kind and characters of the token at the start of a non-empty input. -/
def nextToken : Char → List Char → TokenKind × List Char
  | '.', _ => (.dot, ['.'])
  | '=', _ => (.equals, ['='])
  | ',', _ => (.comma, [','])
  | '[', _ => (.openBracket, ['['])
  | ']', _ => (.closeBracket, [']'])
  | '{', _ => (.openBrace, ['{'])
  | '}', _ => (.closeBrace, ['}'])
  | '\n', _ => (.newline, ['\n'])
  | '\r', rest => (.newline, if rest.head? = some '\n' then ['\r', '\n'] else ['\r'])
  | '#', rest => (.comment, '#' :: rest.takeWhile fun c => c ≠ '\r' && c ≠ '\n')
  | '\'', rest =>
    match rest with
    | '\'' :: '\'' :: more => (.multiLiteralString, ['\'', '\'', '\''] ++ multiLiteralBody more)
    | _ => (.literalString, '\'' :: literalBody rest)
  | '"', rest =>
    match rest with
    | '"' :: '"' :: more => (.multiBasicString, ['"', '"', '"'] ++ multiBasicBody more)
    | _ => (.basicString, '"' :: basicBody rest)
  | c, rest =>
    if c = ' ' || c = '\t' then (.whitespace, c :: rest.takeWhile fun d => d = ' ' || d = '\t')
    else (.atom, c :: rest.takeWhile fun d => !atomEnd d)

/-- Cuts characters from byte position `pos` into tokens, ending with the end-of-input token.
Every token takes at least one character, so `fuel` at least the number of characters is
enough. -/
def tokensFrom : Nat → List Char → Nat → List Token
  | _, [], pos => [{ kind := .eof, span := Span.at pos, text := "" }]
  | 0, _, pos => [{ kind := .eof, span := Span.at pos, text := "" }]
  | fuel + 1, c :: rest, pos =>
    let (kind, taken) := nextToken c rest
    let stop := pos + byteLength taken
    { kind, span := ⟨pos, stop⟩, text := String.ofList taken } ::
      tokensFrom fuel ((c :: rest).drop taken.length) stop

/-- The tokens of a document. -/
def tokenize (s : String) : List Token :=
  match s.toList with
  | '\uFEFF' :: rest => tokensFrom (rest.length + 1) rest 3
  | cs => tokensFrom (cs.length + 1) cs 0

end Toml
end SplitDns
