import SplitDns.Unicode.Runs
import SplitDns.Unicode.NormalizationData
/-!
# Canonical normalisation

Normalisation form C: every character is decomposed canonically and fully, Hangul syllables
into their jamo by arithmetic; each run of characters with a nonzero combining class is put in
order of class, keeping the order of equal classes; then characters are composed from the
left, a character joining the last starter when no character between them has a class at or
above its own, with Hangul jamo composing by arithmetic.
-/

namespace SplitDns
namespace Unicode

/-- The canonical combining classes. -/
def combiningTable : RunTable Nat :=
  RunTable.ofText (fun cs => cs.drop 1 |>.foldl (fun acc c => acc * 10 + (c.toNat - 0x30)) 0)
    combiningRuns

/-- The canonical combining class of a code point. -/
def combiningClass (n : Nat) : Nat := combiningTable.get n

/-- The canonical decompositions of single code points. -/
def decompositionTable : KeyTable (List Nat) :=
  KeyTable.ofText (fun k => (readHex k).1) readHexList decompositions

/-- The key of a pair of code points. -/
def pairKey (a b : Nat) : Nat := a * 0x110000 + b

/-- The primary composites, by the pair that composes to each. -/
def compositeTable : KeyTable Nat :=
  KeyTable.ofText (fun k => match readHexList k with
      | [a, b] => pairKey a b
      | _ => 0)
    (fun v => (readHex v).1) composites

/-- The first Hangul syllable, and the first leading, vowel and trailing jamo. -/
def syllableBase : Nat := 0xAC00
def leadBase : Nat := 0x1100
def vowelBase : Nat := 0x1161
def trailBase : Nat := 0x11A7

/-- The full canonical decomposition of a code point; the depth of the data is small, which
the fuel bounds. -/
def decompose (n : Nat) : List Nat :=
  go 6 n
where
  go : Nat → Nat → List Nat
    | 0, n => [n]
    | fuel + 1, n =>
      if syllableBase ≤ n ∧ n < syllableBase + 11172 then
        let i := n - syllableBase
        let lv := [leadBase + i / 588, vowelBase + i % 588 / 28]
        if i % 28 = 0 then lv else lv ++ [trailBase + i % 28]
      else match decompositionTable.get? n with
        | some parts => parts.flatMap (go fuel)
        | none => [n]

/-- Puts each run of characters with a nonzero class in order of class, stably. -/
def reorder (ns : List Nat) : List Nat :=
  let flush := fun (out run : List Nat) =>
    out ++ run.mergeSort fun a b => combiningClass a ≤ combiningClass b
  let (out, run) := ns.foldl (fun (st : List Nat × List Nat) n =>
    if combiningClass n = 0 then (flush st.1 st.2 ++ [n], []) else (st.1, st.2 ++ [n])) ([], [])
  flush out run

/-- The composite of two code points, if they compose. -/
def composePair (a b : Nat) : Option Nat :=
  if leadBase ≤ a ∧ a < leadBase + 19 ∧ vowelBase ≤ b ∧ b < vowelBase + 21 then
    some (syllableBase + ((a - leadBase) * 21 + (b - vowelBase)) * 28)
  else if syllableBase ≤ a ∧ a < syllableBase + 11172 ∧ (a - syllableBase) % 28 = 0 ∧
      trailBase < b ∧ b < trailBase + 28 then
    some (a + (b - trailBase))
  else compositeTable.get? (pairKey a b)

/-- Where composition stands: the output so far, the starter that may still compose, the class
of the last character kept after it, and those kept characters. -/
structure Composing where
  out : List Nat := []
  starter : Option Nat := none
  lastClass : Option Nat := none
  held : List Nat := []

/-- Composes a decomposed, reordered sequence. -/
def composeAll (ns : List Nat) : List Nat :=
  let step := fun (st : Composing) (n : Nat) =>
    let cc := combiningClass n
    match st.starter with
    | none =>
      if cc ≠ 0 then { st with out := st.out ++ [n] } else { st with starter := some n }
    | some k =>
      let blocked := match st.lastClass with
        | some l => decide (l ≥ cc)
        | none => false
      match (if blocked then none else composePair k n) with
      | some r => { st with starter := some r }
      | none =>
        if cc = 0 then { out := st.out ++ [k] ++ st.held, starter := some n }
        else { st with lastClass := some cc, held := st.held ++ [n] }
  let st := ns.foldl step {}
  match st.starter with
  | some k => st.out ++ [k] ++ st.held
  | none => st.out ++ st.held

/-- The normalisation form C of a character list. -/
def nfc (cs : List Char) : List Char :=
  (composeAll (reorder (cs.flatMap fun c => decompose c.toNat))).map Char.ofNat

end Unicode
end SplitDns
