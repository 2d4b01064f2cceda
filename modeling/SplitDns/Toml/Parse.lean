import SplitDns.Toml.Lex
/-!
# TOML syntax

The parser puts tokens together into the expressions of a document: key/value pairs, table
headers and array-of-tables headers, with values that are scalars, arrays or inline tables. It
checks the order of tokens, and on the way every comment (only tabs, visible and non-ASCII
characters) and every line end (no carriage return alone). What the tokens say is read later,
so the parser lets some gaps through: a key part that is missing where one is due stands as an
empty bare key, and a value missing before a line end or a comma as an empty scalar, both
refused when read. A scalar written without quotes runs on over dots, atoms, and blanks that
an atom follows, so that `1 2` is one scalar, refused when read. The first fault in the order
of the tokens is the one reported.

Inline tables may span lines and end with a comma; a fault inside one names the state it was
in (a key, `=`, a value or `,` expected).
-/

namespace SplitDns
namespace Toml

/-- A value as written. -/
inductive Node where
  /-- A string token, or a run of atoms, dots and blanks that makes one unquoted scalar. -/
  | scalar (token : Token)
  | array (items : List Node) (span : Span)
  | inline (entries : List (List Token × Node)) (span : Span)
  deriving Repr, Inhabited

/-- The range of a value. -/
def Node.span : Node → Span
  | .scalar t => t.span
  | .array _ s => s
  | .inline _ s => s

/-- An expression of a document. -/
inductive Expr where
  | keyval (key : List Token) (value : Node)
  | table (key : List Token) (header : Span)
  | arrayTable (key : List Token) (header : Span)
  deriving Repr, Inhabited

/-- The empty bare text standing for a key part or value missing at a position. -/
def missing (pos : Nat) : Token := { kind := .atom, span := Span.at pos, text := "" }

/-- The position of the next token. -/
def nextStart : List Token → Nat
  | t :: _ => t.span.start
  | [] => 0

/-- Whether a token can be a key part. -/
def isKeyToken (t : Token) : Bool := t.kind = .atom || t.kind.isString

/-- Drops a blank token, if one is next. -/
def skipBlank : List Token → List Token
  | t :: rest => if t.kind = .whitespace then rest else t :: rest
  | [] => []

/-- Checks a comment: only tabs, visible ASCII characters and non-ASCII characters. -/
def checkComment (t : Token) : Except TomlError Unit :=
  go t.text.toList t.span.start
where
  go : List Char → Nat → Except TomlError Unit
    | [], _ => .ok ()
    | c :: rest, pos =>
      if c = '\t' || (0x20 ≤ c.toNat && c.toNat ≤ 0x7E) || c.toNat ≥ 0x80 then
        go rest (pos + c.utf8Size)
      else faultWith "invalid comment character" [.description "printable characters"]
        (Span.at pos)

/-- Checks a line end: a carriage return must be followed by a line feed. -/
def checkNewline (t : Token) : Except TomlError Unit :=
  if t.text = "\r" then
    faultWith "carriage return must be followed by newline" [.literal "\n"] t.span.after
  else .ok ()

/-- Takes a comment and the line end after it, checking both. -/
def takeComment (t : Token) (rest : List Token) : Except TomlError (List Token) := do
  checkComment t
  match rest with
  | u :: more =>
    if u.kind = .newline then do
      checkNewline u
      pure more
    else pure (u :: more)
  | [] => pure []

/-- The end of a line after a value or a header: blanks, then a comment, a line end or the end
of the document; anything else is a fault. -/
def lineEnd : List Token → Except TomlError (List Token)
  | t :: rest =>
    match t.kind with
    | .whitespace => lineEnd rest
    | .comment => takeComment t rest
    | .newline => do
      checkNewline t
      pure rest
    | .eof => .ok (t :: rest)
    | _ => faultWith "unexpected key or value" [.literal "\n", .literal "#"] t.span
  | [] => .ok []

/-- Skips the rest of a line whose header could not be read, up to and with its line end. -/
def skipLine : List Token → Except TomlError (List Token)
  | t :: rest =>
    match t.kind with
    | .newline => do
      checkNewline t
      pure rest
    | .eof => .ok (t :: rest)
    | _ => skipLine rest
  | [] => .ok []

/-- The parts of a dotted key after its first. Looking for a dot (`afterDot` false), blanks are
skipped and anything but a dot ends the key well. After a dot, blanks are skipped, a further
dot stands for a missing part, and a token that is no key part ends the key with a missing part
and badly. Gives the parts, the tokens after them and whether the key ended well. -/
def dottedParts : Nat → Bool → Span → List Token → List Token × List Token × Bool
  | 0, _, _, ts => ([], ts, true)
  | fuel + 1, false, _, ts =>
    match skipBlank ts with
    | d :: rest =>
      if d.kind = .dot then dottedParts fuel true d.span rest else ([], d :: rest, true)
    | [] => ([], [], true)
  | fuel + 1, true, dot, ts =>
    match ts with
    | t :: rest =>
      if t.kind = .whitespace then dottedParts fuel true dot rest
      else if t.kind = .dot then
        let (ps, left, ok) := dottedParts fuel true t.span rest
        (missing t.span.start :: ps, left, ok)
      else if isKeyToken t then
        let (ps, left, ok) := dottedParts fuel false dot rest
        (t :: ps, left, ok)
      else ([missing t.span.start], t :: rest, false)
    | [] => ([missing dot.stop], [], true)

/-- A key that starts with a key part or a dot: its parts, the tokens after it and whether it
ended well. -/
def keyFrom (t : Token) (rest : List Token) : List Token × List Token × Bool :=
  if t.kind = .dot then
    let (ps, left, ok) := dottedParts (rest.length + 2) false t.span (t :: rest)
    (missing t.span.start :: ps, left, ok)
  else
    let (ps, left, ok) := dottedParts (rest.length + 2) false t.span rest
    (t :: ps, left, ok)

/-- The key of a header: blanks are skipped, a dot stands after a missing part, and a token
that is no key part ends the key with a missing part and badly. -/
def headerKey : List Token → List Token × List Token × Bool
  | t :: rest =>
    if t.kind = .whitespace then headerKey rest
    else if t.kind = .dot then
      let (ps, left, ok) := headerKey rest
      (missing t.span.start :: ps, left, ok)
    else if isKeyToken t then keyFrom t rest
    else ([missing t.span.start], t :: rest, false)
  | [] => ([], [], false)

/-- An unquoted scalar starting with an atom or a dot: the atoms and dots after it, and every
blank that an atom follows, belong to it. -/
def scalarRun : List Token → List Token × List Token
  | t :: rest =>
    if t.kind = .dot || t.kind = .atom then
      let (taken, left) := scalarRun rest
      (t :: taken, left)
    else if t.kind = .whitespace then
      match rest with
      | a :: more =>
        if a.kind = .atom then
          let (taken, left) := scalarRun more
          (t :: a :: taken, left)
        else ([], t :: a :: more)
      | [] => ([], [t])
    else ([], t :: rest)
  | [] => ([], [])

/-- The unquoted scalar starting with a token, as one token over its whole text. -/
def scalarFrom (t : Token) (rest : List Token) : Node × List Token :=
  let (more, left) := scalarRun rest
  let stop := match more.getLast? with
    | some u => u.span.stop
    | none => t.span.stop
  (.scalar { kind := .atom, span := ⟨t.span.start, stop⟩,
             text := String.join ((t :: more).map (·.text)) }, left)

/-- Where an inline table stands between two tokens. -/
inductive InlineState where
  | needsKey
  | needsEquals (key : List Token)
  | needsValue (key : List Token)
  | needsComma
  deriving Repr

/-- What an inline table expects in a state, as a fault names it. -/
def InlineState.expected : InlineState → List Expected
  | .needsKey => [.description "key"]
  | .needsEquals _ => [.literal "="]
  | .needsValue _ => [.description "value"]
  | .needsComma => [.literal ","]

mutual

/-- A value. A missing value, before a blank, a comment, a comma, a line end or the end of the
document, stands as an empty scalar there. -/
def value : Nat → List Token → Except TomlError (Node × List Token)
  | 0, ts => .ok (.scalar (missing (nextStart ts)), ts)
  | fuel + 1, ts =>
    match ts with
    | t :: rest =>
      match t.kind with
      | .comment | .comma | .newline | .eof | .whitespace =>
        .ok (.scalar (missing t.span.start), t :: rest)
      | .equals => faultWith "extra `=`" [] t.span
      | .openBrace => inlineTable fuel t rest .needsKey []
      | .closeBrace => faultWith "missing inline table opening" [.literal "\x7b"] t.span.before
      | .openBracket => array fuel t rest true []
      | .closeBracket => faultWith "missing array opening" [.literal "["] t.span.before
      | .dot | .atom => .ok (scalarFrom t rest)
      | _ => .ok (.scalar t, rest)
    | [] => .ok (.scalar (missing 0), [])

/-- The items of an array after its opening bracket `o`; `needsValue` until an item is read
after the last comma. -/
def array : Nat → Token → List Token → Bool → List Node → Except TomlError (Node × List Token)
  | 0, o, ts, _, items => .ok (.array items.reverse ⟨o.span.start, nextStart ts⟩, ts)
  | fuel + 1, o, ts, needsValue, items =>
    match ts with
    | t :: rest =>
      let commaFirst : Except TomlError Unit :=
        if needsValue then .ok ()
        else faultWith "missing comma between array elements" [.literal ","] t.span.before
      match t.kind with
      | .comment => do
        let rest ← takeComment t rest
        array fuel o rest needsValue items
      | .whitespace => array fuel o rest needsValue items
      | .newline => do
        checkNewline t
        array fuel o rest needsValue items
      | .eof => faultWith "unclosed array" [.literal "]"] t.span
      | .comma =>
        if needsValue then faultWith "extra comma in array" [.description "value"] t.span
        else array fuel o rest true items
      | .equals =>
        faultWith "unexpected `=` in array" [.description "value", .literal "]"] t.span
      | .openBrace => do
        commaFirst
        let (v, rest) ← inlineTable fuel t rest .needsKey []
        array fuel o rest false (v :: items)
      | .closeBrace => do
        commaFirst
        faultWith "missing inline table opening" [.literal "\x7b"] t.span.before
      | .openBracket => do
        commaFirst
        let (v, rest) ← array fuel t rest true []
        array fuel o rest false (v :: items)
      | .closeBracket => .ok (.array items.reverse ⟨o.span.start, t.span.stop⟩, rest)
      | .dot | .atom => do
        commaFirst
        let (v, rest) := scalarFrom t rest
        array fuel o rest false (v :: items)
      | _ => do
        commaFirst
        array fuel o rest false (.scalar t :: items)
    | [] => faultWith "unclosed array" [.literal "]"] (Span.at 0)

/-- The entries of an inline table after its opening brace `o`, in a state. -/
def inlineTable : Nat → Token → List Token → InlineState → List (List Token × Node) →
    Except TomlError (Node × List Token)
  | 0, o, ts, _, entries => .ok (.inline entries.reverse ⟨o.span.start, nextStart ts⟩, ts)
  | fuel + 1, o, ts, state, entries =>
    match ts with
    | t :: rest =>
      let close := fun (es : List (List Token × Node)) =>
        Except.ok (Node.inline es.reverse ⟨o.span.start, t.span.stop⟩, rest)
      let missingKey : Except TomlError (Node × List Token) :=
        faultWith "missing key for inline table element" state.expected t.span.before
      let missingEquals : Except TomlError (Node × List Token) :=
        faultWith "missing assignment between key-value pairs" state.expected t.span.before
      match t.kind with
      | .comment => do
        let rest ← takeComment t rest
        inlineTable fuel o rest state entries
      | .whitespace => inlineTable fuel o rest state entries
      | .newline => do
        checkNewline t
        inlineTable fuel o rest state entries
      | .eof => faultWith "unclosed inline table" [.literal "\x7d"] t.span
      | .comma =>
        match state with
        | .needsComma => inlineTable fuel o rest .needsKey entries
        | _ => faultWith "extra comma in inline table" state.expected t.span
      | .equals =>
        match state with
        | .needsKey => inlineTable fuel o rest (.needsValue [missing t.span.start]) entries
        | .needsEquals k => inlineTable fuel o rest (.needsValue k) entries
        | _ => faultWith "extra assignment between key-value pairs" state.expected t.span
      | .openBrace =>
        match state with
        | .needsValue k => do
          let (v, rest) ← inlineTable fuel t rest .needsKey []
          inlineTable fuel o rest .needsComma ((k, v) :: entries)
        | .needsEquals _ => missingEquals
        | _ => missingKey
      | .openBracket =>
        match state with
        | .needsValue k => do
          let (v, rest) ← array fuel t rest true []
          inlineTable fuel o rest .needsComma ((k, v) :: entries)
        | .needsEquals _ => missingEquals
        | _ => missingKey
      | .closeBrace =>
        match state with
        | .needsKey | .needsComma => close entries
        | .needsValue k => close ((k, .scalar (missing t.span.start)) :: entries)
        | .needsEquals _ => missingEquals
      | .closeBracket =>
        match state with
        | .needsValue _ => faultWith "missing array opening" [.literal "["] t.span.before
        | _ => faultWith "invalid inline table element" state.expected t.span
      | _ =>
        match state with
        | .needsKey =>
          let (parts, left, _) := keyFrom t rest
          inlineTable fuel o left (.needsEquals parts) entries
        | .needsEquals _ => missingEquals
        | .needsValue k =>
          let (v, left) := if t.kind = .atom || t.kind = .dot then scalarFrom t rest
            else (.scalar t, rest)
          inlineTable fuel o left .needsComma ((k, v) :: entries)
        | .needsComma =>
          faultWith "missing comma between key-value pairs" [.literal ","] t.span.before
    | [] => faultWith "unclosed inline table" [.literal "\x7d"] (Span.at 0)

end

/-- The value of a key/value pair after its `=`, and the end of its line. -/
def afterEquals (ts : List Token) : Except TomlError (Node × List Token) := do
  let (v, rest) ← value (ts.length + 1) (skipBlank ts)
  let rest ← lineEnd rest
  pure (v, rest)

/-- A table header after its opening bracket `o`. -/
def header (o : Token) (rest : List Token) : Except TomlError (Expr × List Token) :=
  let (isArray, rest) : Bool × List Token := match rest with
    | u :: more => if u.kind = .openBracket then (true, more) else (false, u :: more)
    | [] => (false, [])
  let (parts, left, whole) := headerKey (skipBlank rest)
  let make := fun (span : Span) =>
    if isArray then Expr.arrayTable parts span else Expr.table parts span
  match skipBlank left with
  | c :: more =>
    if c.kind = .closeBracket then
      if isArray then
        match more with
        | d :: more' =>
          if d.kind = .closeBracket then do
            let rest ← lineEnd more'
            pure (make ⟨o.span.start, d.span.stop⟩, rest)
          else faultWith "unclosed array table" [.literal "]"] c.span.after
        | [] => faultWith "unclosed array table" [.literal "]"] c.span.after
      else do
        let rest ← lineEnd more
        pure (make ⟨o.span.start, c.span.stop⟩, rest)
    else if whole then
      let last := match parts.getLast? with
        | some p => p.span
        | none => o.span
      faultWith (if isArray then "unclosed array table" else "unclosed table")
        [.literal (if isArray then "]]" else "]")] last.after
    else do
      let rest ← skipLine (c :: more)
      pure (make ⟨o.span.start, c.span.start⟩, rest)
  | [] => .ok (make o.span, [])

/-- A key/value pair whose key starts with a token. -/
def keyval (t : Token) (rest : List Token) : Except TomlError (Expr × List Token) :=
  let (parts, left, _) := keyFrom t rest
  match skipBlank left with
  | e :: more =>
    if e.kind = .equals then do
      let (v, rest) ← afterEquals more
      pure (.keyval parts v, rest)
    else faultWith "key with no value" [.literal "="] e.span.before
  | [] => faultWith "key with no value" [.literal "="] (Span.at 0)

/-- The expressions of a document from its tokens. -/
def expressions : Nat → List Token → Except TomlError (List Expr)
  | 0, _ => .ok []
  | fuel + 1, ts =>
    match ts with
    | [] => .ok []
    | t :: rest =>
      let next := fun (r : Except TomlError (Expr × List Token)) => do
        let (e, rest) ← r
        let es ← expressions fuel rest
        pure (e :: es)
      match t.kind with
      | .eof => .ok []
      | .whitespace => expressions fuel rest
      | .newline => do
        checkNewline t
        expressions fuel rest
      | .comment => do
        let rest ← takeComment t rest
        expressions fuel rest
      | .openBracket => next (header t rest)
      | .closeBracket => faultWith "missing table open" [.literal "["] t.span.before
      | .comma | .openBrace | .closeBrace => faultWith "missing key" [.description "key"] t.span
      | .equals => next (do
          let (v, rest) ← afterEquals rest
          pure (.keyval [missing t.span.start] v, rest))
      | _ => next (keyval t rest)

/-- The expressions of a document, or its first syntax fault. -/
def parse (source : String) : Except TomlError (List Expr) :=
  let ts := tokenize source
  expressions (ts.length + 1) ts

end Toml
end SplitDns
