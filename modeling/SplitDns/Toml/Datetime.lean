/-!
# TOML date-times

A date-time is a date `YYYY-MM-DD`, a time `HH:MM` with optional seconds `:SS` and, after
seconds, an optional fraction `.digits`, or a date and a time joined by `T` or a blank, in
which case an offset may follow: `Z` or a sign with `HH:MM`. The text is cut into pieces (runs
of digits, the separators, and anything else up to the end), which are read in order; each
field is checked for its width and then for its range, days against the length of the month in
that year. The first thing that is wrong is reported as what was being read (date, time,
offset) and what was expected there.
-/

namespace SplitDns
namespace Toml

/-- A piece of a date-time text. -/
inductive DatePiece where
  | digits (text : List Char)
  | dash
  | colon
  | dot
  | tee
  | space
  | zulu
  | plus
  /-- Anything else; it takes the rest of the text. -/
  | other
  deriving DecidableEq, Repr

namespace DatePiece

/-- The first piece of a text and what follows it. -/
def next : List Char → Option (DatePiece × List Char)
  | [] => none
  | c :: rest =>
    if c.isDigit then
      let ds := (c :: rest).takeWhile Char.isDigit
      some (.digits ds, (c :: rest).drop ds.length)
    else
      match c with
      | '-' => some (.dash, rest)
      | ':' => some (.colon, rest)
      | '.' => some (.dot, rest)
      | 'T' | 't' => some (.tee, rest)
      | ' ' => some (.space, rest)
      | 'Z' | 'z' => some (.zulu, rest)
      | '+' => some (.plus, rest)
      | _ => some (.other, [])

/-- The digits of a piece, if it is a run of digits. -/
def digits? : DatePiece → Option (List Char)
  | .digits ds => some ds
  | _ => none

end DatePiece

/-- Why a date-time is refused: what was being read, and what was expected. -/
structure DateFault where
  what : Option String
  expected : Option String
  deriving DecidableEq, Repr

/-- The message of a refused date-time. -/
def DateFault.message (f : DateFault) : String :=
  "invalid " ++ f.what.getD "datetime" ++
    match f.expected with
    | some e => ", expected " ++ e
    | none => ""

/-- Reading a date-time: the text left, or the fault. -/
abbrev DateReader := StateT (List Char) (Except DateFault)

/-- Refuses the text. -/
def refuse {α : Type} (what expected : Option String) : DateReader α :=
  throw { what, expected }

/-- Takes the next piece. -/
def takePiece : DateReader (Option DatePiece) := fun cs =>
  match DatePiece.next cs with
  | some (p, rest) => .ok (some p, rest)
  | none => .ok (none, cs)

/-- Looks at the next piece without taking it. -/
def peekPiece : DateReader (Option DatePiece) := fun cs =>
  .ok ((DatePiece.next cs).map (·.1), cs)

/-- Takes a piece that must be a run of digits. -/
def needDigits (what : Option String) (expected : String) : DateReader (List Char) := do
  match (← takePiece).bind DatePiece.digits? with
  | some ds => pure ds
  | none => refuse what (some expected)

/-- Takes a piece that must be the given separator. -/
def needPiece (p : DatePiece) (what : Option String) (expected : String) : DateReader Unit := do
  if (← takePiece) = some p then pure () else refuse what (some expected)

/-- The value of decimal digits. -/
def digitsValue (ds : List Char) : Nat := ds.foldl (fun acc c => acc * 10 + (c.toNat - 48)) 0

/-- Whether a year is a leap year. -/
def isLeapYear (y : Nat) : Bool := (y % 4 = 0 && y % 100 ≠ 0) || y % 400 = 0

/-- The number of days in a month of a year. -/
def monthLength (y m : Nat) : Nat :=
  if m = 2 then (if isLeapYear y then 29 else 28)
  else if m = 4 || m = 6 || m = 9 || m = 11 then 30 else 31

/-- Reads the date after its year. -/
def readDate (year : List Char) : DateReader Unit := do
  let month ← needDigits (some "date") "month"
  needPiece .dash (some "date") "`-` (MM-DD)"
  let day ← needDigits (some "date") "day"
  if year.length ≠ 4 then refuse (some "date") (some "a four-digit year (YYYY)")
  if month.length ≠ 2 then refuse (some "date") (some "a two-digit month (MM)")
  if day.length ≠ 2 then refuse (some "date") (some "a two-digit day (DD)")
  let (y, m, d) := (digitsValue year, digitsValue month, digitsValue day)
  if m < 1 || m > 12 then refuse (some "date") (some "month between 01 and 12")
  let days := monthLength y m
  if d < 1 || d > days then
    refuse (some "date") (some ("day between 01 and " ++ toString days))

/-- Reads a time. -/
def readTime : DateReader Unit := do
  let hour ← needDigits (some "time") "hour"
  needPiece .colon (some "time") "`:` (HH:MM)"
  let minute ← needDigits (some "time") "minute"
  let second ← if (← peekPiece) = some .colon then do
      let _ ← takePiece
      pure (some (← needDigits (some "time") "second"))
    else pure none
  if second.isSome && (← peekPiece) = some .dot then
    let _ ← takePiece
    let _ ← needDigits (some "time") "nanosecond"
  if hour.length ≠ 2 then refuse (some "time") (some "a two-digit hour (HH)")
  if minute.length ≠ 2 then refuse (some "time") (some "a two-digit minute (MM)")
  if (second.map List.length).any (· ≠ 2) then
    refuse (some "time") (some "a two-digit second (SS)")
  if digitsValue hour > 23 then refuse (some "time") (some "hour between 00 and 23")
  if digitsValue minute > 59 then refuse (some "time") (some "minute between 00 and 59")
  if (second.map digitsValue).any (· > 60) then
    refuse (some "time") (some "second between 00 and 60")

/-- Reads an offset after a date and a time, if one follows. -/
def readOffset : DateReader Unit := do
  match ← takePiece with
  | none | some .zulu => pure ()
  | some .plus | some .dash =>
    let hours ← needDigits (some "offset") "hour"
    needPiece .colon (some "offset") "`:` (HH:MM)"
    let minutes ← needDigits (some "offset") "minute"
    if hours.length ≠ 2 then refuse (some "offset") (some "a two-digit hour (HH)")
    if minutes.length ≠ 2 then refuse (some "offset") (some "a two-digit minute (MM)")
    if digitsValue hours > 23 then refuse (some "offset") (some "hours between 00 and 23")
    if digitsValue minutes > 59 then refuse (some "offset") (some "minutes between 00 and 59")
  | some _ => refuse (some "offset") (some "`Z`, +OFFSET, -OFFSET")

/-- Reads a whole date-time. -/
def readDatetime : DateReader Unit := do
  let whole ← get
  let first ← needDigits none "year or hour"
  let dated ← match ← takePiece with
    | some .dash => do
      readDate first
      pure true
    | some .colon => do
      set whole
      pure false
    | _ => refuse none (some "`-` (YYYY-MM) or `:` (HH:MM)")
  let timed ← if dated then
      match ← takePiece with
      | some .tee | some .space => pure true
      | some _ => refuse (some "date-time") (some "`T` between date and time")
      | none => pure false
    else pure true
  if timed then readTime
  if dated && timed then readOffset
  if !(← get).isEmpty then refuse none none

/-- Checks a date-time text; the fault if it is not one. -/
def checkDatetime (s : String) : Option DateFault :=
  match readDatetime.run s.toList with
  | .ok _ => none
  | .error f => some f

end Toml
end SplitDns
