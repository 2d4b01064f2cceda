import SplitDns.Toml.Parse
import SplitDns.Toml.Scalar
/-!
# TOML documents

The expressions of a document are read in order into one root table. The pairs after a header
fill a table of their own, which joins the root only when the next header comes or the document
ends; the pairs before the first header make up the root itself.

* A header first walks its path from the root, making the missing tables on the way as
  implicit ones and stepping into the last element of an array of tables. A table header then
  takes over the table of its name if that was only implicit, and refuses any other value
  there. An array-of-tables header appends its table to the array of its name, or starts one,
  when its table is done.
* A pair walks the parts of a dotted key from the table being filled, making the missing
  tables as dotted ones; it may pass through implicit tables and its own dotted ones, but not
  into a table defined by a header. Its last part must be new, and a dotted pair may only land
  in a table made by dotted keys.
* An inline table is built the same way from its own pairs, and is closed: nothing may be
  added to it from outside.

A value that is no table cannot be walked into. Keys are read before their value, values from
left to right, and a table's place is checked when it is opened and again when it is done, so
the first fault met in that order is the one reported.
-/

namespace SplitDns
namespace Toml

/-- The value under a key. -/
def lookup (es : Entries) (k : String) : Option (Value × Span) :=
  (es.find? (·.1 = k)).map (·.2)

/-- The entries with the value under a key replaced, or added at the end. -/
def setEntry (es : Entries) (k : String) (v : Value × Span) : Entries :=
  if es.any (·.1 = k) then es.map fun e => if e.1 = k then (k, v) else e
  else es ++ [(k, v)]

/-- The entries without a key. -/
def removeEntry (es : Entries) (k : String) : Entries := es.filter (·.1 ≠ k)

/-- The fault of a key that is already there. -/
def duplicateKey {α : Type} (span : Span) : Except TomlError α := fault "duplicate key" span

/-- The fault of walking into a value that is no table. -/
def cannotExtend {α : Type} (v : Value) (span : Span) : Except TomlError α :=
  fault ("cannot extend value of type " ++ v.kindName ++ " with a dotted key") span

/-- Walks a path from a table, as a header (`dotted` false) or a dotted key (`dotted` true)
does, and applies `f` to the flags and entries of the table at its end. Missing tables are
made implicit; an array of tables is entered at its last element; an inline table, a value
that is no table, and (for a dotted key) a table that is not implicit stop the walk. -/
def descend {β : Type} (dotted : Bool) (f : TableFlags → Entries → Except TomlError (Entries × β)) :
    TableFlags → List (String × Span) → Entries → Except TomlError (Entries × β)
  | flags, [], es => f flags es
  | _, (k, ks) :: rest, es =>
    match lookup es k with
    | none => do
      let made : TableFlags := { implicit := true, dotted }
      let (sub, b) ← descend dotted f made rest []
      pure (es ++ [(k, (.table sub made, ks))], b)
    | some (.array items true, sp) =>
      match items.getLast? with
      | some (.table sub flags, isp) => do
        let (sub, b) ← descend dotted f flags rest sub
        pure (setEntry es k (.array (items.dropLast ++ [(.table sub flags, isp)]) true, sp), b)
      | _ => cannotExtend (.array items true) ks
    | some (.table sub flags, sp) =>
      if flags.inline then cannotExtend (.table sub flags) ks
      else if dotted && !flags.implicit then duplicateKey ks
      else do
        let (sub, b) ← descend dotted f flags rest sub
        pure (setEntry es k (.table sub flags, sp), b)
    | some (v, _) => cannotExtend v ks

/-- Walks the path of a dotted key inside an inline table: missing tables are made implicit
and dotted, a table that is not implicit is already defined, and a value that is no table
stops the walk. -/
def descendInline (f : TableFlags → Entries → Except TomlError Entries) :
    TableFlags → List (String × Span) → Entries → Except TomlError Entries
  | flags, [], es => f flags es
  | _, (k, ks) :: rest, es =>
    match lookup es k with
    | none => do
      let made : TableFlags := { implicit := true, dotted := true }
      let sub ← descendInline f made rest []
      pure (es ++ [(k, (.table sub made, ks))])
    | some (.table sub flags, sp) =>
      if !flags.implicit then duplicateKey ks
      else do
        let sub ← descendInline f flags rest sub
        pure (setEntry es k (.table sub flags, sp))
    | some (v, _) => cannotExtend v ks

/-- Puts a value under the last part of a key in the table the walk reached: the table must
be dotted exactly when the key is, and the part must be new. -/
def place (dotted : Bool) (key : String × Span) (v : Value × Span) (flags : TableFlags)
    (es : Entries) : Except TomlError Entries :=
  if flags.dotted != dotted then duplicateKey key.2
  else match lookup es key.1 with
    | some _ => duplicateKey key.2
    | none => .ok (es ++ [(key.1, v)])

/-- Reads the parts of a key, in order. -/
def keysOf (parts : List Token) : Except TomlError (List (String × Span)) :=
  parts.mapM fun t => do pure (← keyOf t, t.span)

/-- A key's parts before its last, and its last. -/
def splitKey (keys : List (String × Span)) : List (String × Span) × (String × Span) :=
  (keys.dropLast, keys.getLast?.getD ("", Span.at 0))

mutual

/-- Reads a value as written. -/
def valueOf : Node → Except TomlError Value
  | .scalar t => scalarOf t
  | .array items _ => do
    let vs ← itemsOf items
    pure (.array vs false)
  | .inline entries _ => do
    let es ← inlineOf entries []
    pure (.table es { inline := true })

/-- Reads the items of an array. -/
def itemsOf : List Node → Except TomlError (List (Value × Span))
  | [] => .ok []
  | n :: rest => do
    let v ← valueOf n
    let vs ← itemsOf rest
    pure ((v, n.span) :: vs)

/-- Reads the pairs of an inline table into its entries. -/
def inlineOf : List (List Token × Node) → Entries → Except TomlError Entries
  | [], es => .ok es
  | (parts, n) :: rest, es => do
    let keys ← keysOf parts
    let v ← valueOf n
    let (path, key) := splitKey keys
    let es ← descendInline (place (!path.isEmpty) key (v, n.span)) {} path es
    inlineOf rest es

end

/-- A header: the parts of its key, its range, and whether it is for an array of tables. -/
structure Header where
  path : List (String × Span)
  span : Span
  isArray : Bool

/-- A document being read: the root, the table being filled, and the header that opened it
(none before the first header, when the table being filled is the root). -/
structure DocState where
  root : Entries := []
  current : Entries := []
  header : Option Header := none

namespace DocState

/-- Puts the table being filled into the root under its header. -/
def finishTable (st : DocState) : Except TomlError DocState :=
  match st.header with
  | none => .ok { st with root := st.current, current := [] }
  | some h => do
    let (path, (k, ks)) := splitKey h.path
    let table : Value × Span := (.table st.current {}, h.span)
    let (root, _) ← descend false (fun _ es =>
        if h.isArray then
          match lookup es k with
          | none => .ok (es ++ [(k, (.array [table] true, h.span))], ())
          | some (.array items true, sp) => .ok (setEntry es k (.array (items ++ [table]) true, sp), ())
          | some _ => duplicateKey ks
        else .ok (setEntry es k table, ())) {} path st.root
    pure { root, current := [], header := none }

/-- Opens the table of a header: a table header takes over an implicit table of its name, and
refuses any other value there. -/
def startTable (h : Header) (st : DocState) : Except TomlError DocState :=
  if h.isArray then .ok { st with current := [], header := some h }
  else do
    let (path, (k, ks)) := splitKey h.path
    let (root, taken) ← descend false (fun _ es =>
        match lookup es k with
        | none => .ok (es, [])
        | some (.table sub flags, _) =>
          if flags.implicit && !flags.dotted then .ok (removeEntry es k, sub)
          else duplicateKey ks
        | some _ => duplicateKey ks) {} path st.root
    pure { root, current := taken, header := some h }

/-- Reads a pair into the table being filled. -/
def addPair (keys : List (String × Span)) (v : Value × Span) (st : DocState) :
    Except TomlError DocState := do
  let (path, key) := splitKey keys
  let dotted := !path.isEmpty
  let (current, _) ← descend dotted (fun flags es => do
      let es ← place dotted key v flags es
      pure (es, ())) {} path st.current
  pure { st with current }

end DocState

/-- Reads expressions into the document state. -/
def build : List Expr → DocState → Except TomlError DocState
  | [], st => st.finishTable
  | .keyval parts node :: rest, st => do
    let keys ← keysOf parts
    let v ← valueOf node
    let st ← st.addPair keys (v, node.span)
    build rest st
  | .table parts span :: rest, st => do
    let st ← st.finishTable
    let keys ← keysOf parts
    let st ← st.startTable { path := keys, span, isArray := false }
    build rest st
  | .arrayTable parts span :: rest, st => do
    let st ← st.finishTable
    let keys ← keysOf parts
    let st ← st.startTable { path := keys, span, isArray := true }
    build rest st

/-- Reads a document into its root table, or gives its first fault. -/
def readDocument (source : String) : Except TomlError Entries := do
  let exprs ← parse source
  let st ← build exprs {}
  pure st.root

end Toml
end SplitDns
