/-!
# Run tables

A run table gives a value to every code point: the value of the last run that starts at or
before it. Tables are written as text, entries separated by spaces, each entry a start in small
hex followed by the text of its value; a table is read once into two arrays and looked up by
binary search over the starts, which are increasing and begin at zero.
-/

namespace SplitDns
namespace Unicode

/-- A table of runs: increasing starts and the value of each run. -/
structure RunTable (α : Type) where
  starts : Array Nat
  values : Array α

/-- The value of a small hex digit. -/
def hexDigit? (c : Char) : Option Nat :=
  if '0' ≤ c ∧ c ≤ '9' then some (c.toNat - 0x30)
  else if 'a' ≤ c ∧ c ≤ 'f' then some (c.toNat - 0x57)
  else none

/-- Reads small hex digits from the front of a character list: the number and what follows. -/
def readHex (cs : List Char) : Nat × List Char :=
  let ds := cs.takeWhile fun c => (hexDigit? c).isSome
  (ds.foldl (fun acc c => acc * 16 + (hexDigit? c).getD 0) 0, cs.drop ds.length)

/-- Reads a list of hex numbers separated by `,`; an empty text is the empty list. -/
def readHexList (cs : List Char) : List Nat :=
  if cs.isEmpty then [] else
    (cs.splitOn ',').map fun part => (readHex part).1

/-- The entries of a table text. -/
def entries (text : String) : List (List Char) :=
  ((text.splitOn " ").filter (!·.isEmpty)).map String.toList

namespace RunTable

/-- Reads a table from its text, each entry's value read from what follows its start. -/
def ofText {α : Type} (value : List Char → α) (text : String) : RunTable α :=
  let es := (entries text).map readHex
  { starts := (es.map (·.1)).toArray, values := (es.map fun e => value e.2).toArray }

/-- The index of the last start at or before `x` among those from `lo` to before `hi`, when
the start at `lo` is at or before `x`: the interval halves until one start is left. -/
def lastAtOrBefore (starts : Array Nat) (x lo hi : Nat) : Nat :=
  if lo + 1 < hi then
    let mid := (lo + hi) / 2
    if starts.getD mid 0 ≤ x then lastAtOrBefore starts x mid hi
    else lastAtOrBefore starts x lo mid
  else lo
termination_by hi - lo

/-- The value a table gives a code point. -/
def get {α : Type} [Inhabited α] (t : RunTable α) (x : Nat) : α :=
  t.values.getD (lastAtOrBefore t.starts x 0 t.starts.size) default

end RunTable

/-- A table of exact keys, read from entries of a hex key and a value, sorted by key. -/
structure KeyTable (α : Type) where
  keys : Array Nat
  values : Array α

namespace KeyTable

/-- Reads a table from entries `key:value`, the key read by `key` and the value by `value`. -/
def ofText {α : Type} (key : List Char → Nat) (value : List Char → α) (text : String) :
    KeyTable α :=
  let es := (entries text).map fun e =>
    let k := e.takeWhile (· != ':')
    (key k, value ((e.drop k.length).drop 1))
  { keys := (es.map (·.1)).toArray, values := (es.map (·.2)).toArray }

/-- The value of a key, if the table has it. -/
def get? {α : Type} (t : KeyTable α) (k : Nat) : Option α :=
  let i := RunTable.lastAtOrBefore t.keys k 0 t.keys.size
  if t.keys.getD i (k + 1) = k then t.values[i]? else none

end KeyTable

end Unicode
end SplitDns
