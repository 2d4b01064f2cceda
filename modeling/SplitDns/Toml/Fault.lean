/-!
# Faults of a TOML document

A fault names what is wrong, says what was expected there when it knows, and points at a byte
range of the document. What was expected is a list of things, each a literal text (shown in
backquotes, a line end as the word `newline`) or a description; a fault that expected
nothing in particular says so, and one that gives no expectation says nothing more.
-/

namespace SplitDns
namespace Toml

/-- A byte range of the document. -/
structure Span where
  start : Nat
  stop : Nat
  deriving DecidableEq, Repr, Inhabited

/-- The empty range at a position. -/
def Span.at (pos : Nat) : Span := ⟨pos, pos⟩

/-- The range from the start of one range to the end of another. -/
def Span.join (a b : Span) : Span := ⟨a.start, b.stop⟩

/-- The empty range at the start of a range. -/
def Span.before (s : Span) : Span := Span.at s.start

/-- The empty range at the end of a range. -/
def Span.after (s : Span) : Span := Span.at s.stop

/-- One thing a fault expected. -/
inductive Expected where
  /-- Exactly this text. -/
  | literal (text : String)
  /-- Something of this description. -/
  | description (text : String)
  deriving DecidableEq, Repr

/-- How an expected thing is named in a message. -/
def Expected.name : Expected → String
  | .literal "\n" => "newline"
  | .literal s => "`" ++ s ++ "`"
  | .description s => s

/-- A fault: its message and the range it points at. -/
structure TomlError where
  message : String
  span : Span
  deriving DecidableEq, Repr, Inhabited

/-- The message of a fault with a description and, when given, what was expected. -/
def faultText (description : String) : Option (List Expected) → String
  | none => description
  | some [] => description ++ ", expected nothing"
  | some es => description ++ ", expected " ++ ", ".intercalate (es.map Expected.name)

/-- A fault at a range. -/
def fault {α : Type} (message : String) (span : Span) : Except TomlError α :=
  .error { message, span }

/-- A fault with a description and what was expected, at a range. -/
def faultWith {α : Type} (description : String) (expected : List Expected) (span : Span) :
    Except TomlError α :=
  fault (faultText description (some expected)) span

end Toml
end SplitDns
