import SplitDns.Text.Binary64
/-!
# Similarity of words

The Jaro similarity of two words, used to suggest the option a mistyped one was meant to be.
A character of the first word matches the first equal, still unmatched character of the second
that lies within a window of half the longer length, less one, around its position. With `m`
matches among lengths `a` and `b`, and `t` the number of positions at which the matched
characters of the two words, each read in order, differ, the similarity is
`(m / a + m / b + (m - t / 2) / m) / 3`; it is zero without a match, and one for two empty
words.

The similarity is computed in binary64: each quotient is rounded, the three are added left to
right with a rounding after each sum, and the total divided by three is rounded again. The
threshold of seven tenths is the binary64 value nearest to it. Rounding matters at the edge:
a similarity of exactly seven tenths as a fraction, such as that of `fglte` and `listen`,
comes out just above the threshold.
-/

namespace SplitDns.Text

/-- A similarity: zero, or a positive binary64 value. -/
inductive Similarity where
  | zero
  | positive (x : Binary64)
  deriving DecidableEq, Repr

namespace Similarity

/-- Whether one similarity is at most another. -/
def le : Similarity → Similarity → Bool
  | .zero, _ => true
  | .positive _, .zero => false
  | .positive x, .positive y => !y.lt x

/-- The binary64 value nearest to seven tenths. -/
def threshold : Binary64 := Binary64.ofQuotient 7 10

/-- Whether a similarity is above seven tenths. -/
def isClose : Similarity → Bool
  | .zero => false
  | .positive x => threshold.lt x

end Similarity

/-- The first position of `b` from `lo` on and below `hi` that holds `c` and is not yet taken. -/
def freeMatch (b : List Char) (taken : List Bool) (c : Char) (lo hi : Nat) : Option Nat :=
  (List.range hi).find? fun j => lo ≤ j && b[j]? == some c && taken[j]? == some false

/-- Matches the characters of `a`, from position `i` on, into `b`: which characters of `a`
matched, and which positions of `b` are taken. -/
def matchFrom (window : Nat) (b : List Char) : Nat → List Char → List Bool → List Bool × List Bool
  | _, [], taken => ([], taken)
  | i, c :: rest, taken =>
    match freeMatch b taken c (i - window) (min b.length (i + window + 1)) with
    | some j =>
      let (marks, taken) := matchFrom window b (i + 1) rest (taken.set j true)
      (true :: marks, taken)
    | none =>
      let (marks, taken) := matchFrom window b (i + 1) rest taken
      (false :: marks, taken)

/-- The characters of a word at the marked positions, in order. -/
def marked (w : List Char) (marks : List Bool) : List Char :=
  (w.zip marks).filterMap fun (c, m) => if m then some c else none

/-- The Jaro similarity of two words. -/
def jaro (a b : List Char) : Similarity :=
  if a.isEmpty && b.isEmpty then .positive (Binary64.ofQuotient 1 1)
  else if a.isEmpty || b.isEmpty then .zero
  else
    let window := max a.length b.length / 2 - 1
    let (marksA, marksB) := matchFrom window b 0 a (List.replicate b.length false)
    let ma := marked a marksA
    let mb := marked b marksB
    let m := ma.length
    if m = 0 then .zero
    else
      let t := ((ma.zip mb).filter fun (x, y) => x ≠ y).length / 2
      let sum := ((Binary64.ofQuotient m a.length).add (Binary64.ofQuotient m b.length)).add
        (Binary64.ofQuotient (m - t) m)
      .positive (sum.divide 3)

/-- The word among `candidates` most similar to `w`, if one is close; among equally similar
ones the last. -/
def closest (w : String) (candidates : List String) : Option String :=
  candidates.foldl (fun best c =>
    let s := jaro w.toList c.toList
    if !s.isClose then best
    else match best with
      | some b => if (jaro w.toList b.toList).le s then some c else some b
      | none => some c) none

end SplitDns.Text
