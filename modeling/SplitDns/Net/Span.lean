/-!
# Sets of values as merged ranges

A set of `w`-bit values is kept as closed ranges sorted by their first value, pairwise apart
by at least one value. `Span.merge` brings any list of ranges to that form: sorted, then each
range joins the one before when it starts at most one past its end (the successor saturates
at the top of the space). `Span.mem` finds the last range starting at or below a value by
binary search and tests its end.
-/

namespace SplitDns

/-- The closed range of values from `first` to `last`. -/
structure Span (w : Nat) where
  first : BitVec w
  last : BitVec w
  deriving DecidableEq, Repr

namespace Span

/-- Order by first value, then by last value. -/
def le {w : Nat} (a b : Span w) : Bool :=
  a.first.toNat < b.first.toNat || (a.first.toNat == b.first.toNat && a.last.toNat ≤ b.last.toNat)

/-- The next value, staying at the top of the space. -/
def succSat {w : Nat} (v : BitVec w) : Nat :=
  if v.toNat + 1 < Nat.pow 2 w then v.toNat + 1 else v.toNat

/-- Adds a range after the merged ones, which are kept last first. -/
def push {w : Nat} (acc : List (Span w)) (r : Span w) : List (Span w) :=
  match acc with
  | prev :: rest =>
    if r.first.toNat ≤ succSat prev.last then
      (if r.last.toNat > prev.last.toNat then { prev with last := r.last } else prev) :: rest
    else r :: acc
  | [] => [r]

/-- Sorts the ranges and joins those that overlap or touch. -/
def merge {w : Nat} (rs : List (Span w)) : List (Span w) :=
  ((rs.mergeSort le).foldl push []).reverse

/-- How many ranges of a sorted array start at or below `v`, by binary search. -/
def countStartingAtOrBelow {w : Nat} (rs : Array (Span w)) (v : BitVec w) : Nat :=
  go 0 rs.size
where
  go (lo hi : Nat) : Nat :=
    if h : lo < hi then
      let mid := (lo + hi) / 2
      if (rs.getD mid ⟨0, 0⟩).first.toNat ≤ v.toNat then go (mid + 1) hi else go lo mid
    else lo
  termination_by hi - lo

/-- Whether a merged set of ranges holds `v`. -/
def mem {w : Nat} (rs : Array (Span w)) (v : BitVec w) : Bool :=
  let idx := countStartingAtOrBelow rs v
  idx > 0 && (rs.getD (idx - 1) ⟨0, 0⟩).last.toNat ≥ v.toNat

end Span
end SplitDns
