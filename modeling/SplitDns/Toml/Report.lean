import SplitDns.Toml.Parse
/-!
# TOML error reports

A fault is shown with its place: the line and column where its range starts (the column
counted in characters, or in bytes when the range starts inside a character), the line itself
behind a gutter holding the line number, and carets under the range, at least one and at most
to the end of the line, then the message.
-/

namespace SplitDns
namespace Toml

/-- The line (from zero) and column (from zero) of a byte position of a document. A position
at or past the end is placed just after the last byte. -/
def lineColumn (source : String) (index : Nat) : Nat × Nat :=
  let bytes := source.toUTF8
  if bytes.size = 0 then (0, index)
  else
    let safe := min index (bytes.size - 1)
    let offset := index - safe
    let before := (bytes.extract 0 safe).data.toList
    let lineStart := before.length - (before.reverse.takeWhile (· ≠ 10)).length
    let line := (before.take lineStart).count 10
    let piece := bytes.extract lineStart (safe + 1)
    let column := match String.fromUTF8? piece with
      | some s => s.length - 1
      | none => safe - lineStart
    (line, column + offset)

/-- The text of a line (from zero) of a document, line ends being `\n`. -/
def lineText (source : String) (line : Nat) : String :=
  ((source.splitOn "\n")[line]?).getD ""

/-- A fault shown with its place in the document. -/
def render (source : String) (e : TomlError) : String :=
  let (line, column) := lineColumn source e.span.start
  let lineNo := toString (line + 1)
  let gutter := String.ofList (List.replicate (lineNo.length + 1) ' ')
  let content := lineText source line
  let width := min (e.span.stop - e.span.start) (content.utf8ByteSize - column)
  let carets := String.ofList (List.replicate (max width 1) '^')
  "TOML parse error at line " ++ lineNo ++ ", column " ++ toString (column + 1) ++ "\n" ++
    gutter ++ "|\n" ++
    lineNo ++ " | " ++ content ++ "\n" ++
    gutter ++ "|" ++ String.ofList (List.replicate (column + 1) ' ') ++ carets ++ "\n" ++
    e.message ++ "\n"

end Toml
end SplitDns
