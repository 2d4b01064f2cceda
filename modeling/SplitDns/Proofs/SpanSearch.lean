import Mathlib
import SplitDns.Proofs.SpanMerge
/-!
# Membership by binary search

`Span.countStartingAtOrBelow` halves the window `[lo, hi)` of candidate positions at each step.
Over ranges whose first values rise along the array, every step keeps a bracket on the window:
all ranges before `lo` start at or below the value, all from `hi` on start above it
(`bracket_go`). The window closes on the number of ranges starting at or below the value.

When each range ends before the next begins, as merged ranges do, only the last of those can
hold the value; so `Span.mem` tests exactly whether some range holds it (`mem_iff`), and on
merged ranges whether one of the ranges merged holds it (`mem_merge_iff`).

On any array the window never passes its end (`countStartingAtOrBelow_le_size`), so the range
tested is always in bounds. `mem_iff_holds_of_disjoint` states both facts for ranges with strictly
rising first values that are pairwise disjoint: binary search agrees with linear search.
-/

namespace SplitDns
namespace Span

variable {w : Nat}

theorem getD_eq_getElem_of_lt (rs : Array (Span w)) (d : Span w) {i : Nat} (hi : i < rs.size) :
    rs.getD i d = rs[i] := by
  rw [Array.getD_eq_getD_getElem?, Array.getElem?_eq_getElem hi, Option.getD_some]

/-- Ranges whose first values rise along the array. -/
def FirstsRise (rs : Array (Span w)) : Prop :=
  ∀ i j (hi : i < rs.size) (hj : j < rs.size), i < j → rs[i].first.toNat ≤ rs[j].first.toNat

/-- What the search knows of the window `[lo, hi)`: every range before `lo` starts at or below
`v`, every range from `hi` on starts above it. -/
structure Bracket (rs : Array (Span w)) (v : BitVec w) (lo hi : Nat) : Prop where
  lo_le : lo ≤ hi
  hi_le : hi ≤ rs.size
  below : ∀ i (h : i < rs.size), i < lo → rs[i].first.toNat ≤ v.toNat
  above : ∀ i (h : i < rs.size), hi ≤ i → v.toNat < rs[i].first.toNat

section Search

variable {rs : Array (Span w)} {v : BitVec w} {lo hi : Nat}

theorem bracket_whole (rs : Array (Span w)) (v : BitVec w) : Bracket rs v 0 rs.size :=
  ⟨Nat.zero_le _, le_refl _, fun _ _ h => absurd h (Nat.not_lt_zero _),
    fun _ h hle => absurd h (Nat.not_lt_of_le hle)⟩

theorem Bracket.right (hrise : FirstsRise rs) (hb : Bracket rs v lo hi) (hlt : lo < hi)
    (hmid : (rs.getD ((lo + hi) / 2) ⟨0, 0⟩).first.toNat ≤ v.toNat) :
    Bracket rs v ((lo + hi) / 2 + 1) hi := by
  have hm : (lo + hi) / 2 < rs.size := by have := hb.hi_le; omega
  rw [getD_eq_getElem_of_lt rs _ hm] at hmid
  refine ⟨by omega, hb.hi_le, fun i hi hlt' => ?_, hb.above⟩
  rcases Nat.lt_or_eq_of_le (Nat.le_of_lt_succ hlt') with hlt'' | rfl
  · exact le_trans (hrise i _ hi hm hlt'') hmid
  · exact hmid

theorem Bracket.left (hrise : FirstsRise rs) (hb : Bracket rs v lo hi) (hlt : lo < hi)
    (hmid : ¬(rs.getD ((lo + hi) / 2) ⟨0, 0⟩).first.toNat ≤ v.toNat) :
    Bracket rs v lo ((lo + hi) / 2) := by
  have hm : (lo + hi) / 2 < rs.size := by have := hb.hi_le; omega
  rw [getD_eq_getElem_of_lt rs _ hm] at hmid
  refine ⟨by omega, by omega, hb.below, fun i hi hle => ?_⟩
  rcases Nat.lt_or_eq_of_le hle with hlt' | rfl
  · exact lt_of_lt_of_le (Nat.lt_of_not_le hmid) (hrise _ i hm hi hlt')
  · exact Nat.lt_of_not_le hmid

/-- The search closes the window on a bracket: the ranges before the result start at or below
`v`, the others above it. -/
theorem bracket_go (hrise : FirstsRise rs) (hb : Bracket rs v lo hi) :
    Bracket rs v (countStartingAtOrBelow.go rs v lo hi) (countStartingAtOrBelow.go rs v lo hi) := by
  fun_induction countStartingAtOrBelow.go rs v lo hi with
  | case1 lo hi hlt mid hmid ih => exact ih (hb.right hrise hlt hmid)
  | case2 lo hi hlt mid hmid ih => exact ih (hb.left hrise hlt hmid)
  | case3 lo hi hge =>
    have heq : hi = lo := by have := hb.lo_le; omega
    subst heq
    exact hb

theorem bracket_count (hrise : FirstsRise rs) (v : BitVec w) :
    Bracket rs v (countStartingAtOrBelow rs v) (countStartingAtOrBelow rs v) :=
  bracket_go hrise (bracket_whole rs v)

theorem go_le_hi (h : lo ≤ hi) : countStartingAtOrBelow.go rs v lo hi ≤ hi := by
  fun_induction countStartingAtOrBelow.go rs v lo hi with
  | case1 lo hi hlt mid hmid ih => exact ih (by omega)
  | case2 lo hi hlt mid hmid ih => exact le_trans (ih (by omega)) (by omega)
  | case3 lo hi hge => exact h

theorem countStartingAtOrBelow_le_size (rs : Array (Span w)) (v : BitVec w) :
    countStartingAtOrBelow rs v ≤ rs.size :=
  go_le_hi (Nat.zero_le _)

end Search

/-! ## Separated arrays -/

/-- Ranges with first values rising, each ending before the next one begins. -/
def Separated (rs : List (Span w)) : Prop :=
  rs.Pairwise fun a b => a.first.toNat ≤ b.first.toNat ∧ a.last.toNat < b.first.toNat

theorem Canonical.separated {rs : List (Span w)} (hc : Canonical rs) : Separated rs := by
  refine hc.apart.imp_of_mem fun {a b} ha _ hab => ?_
  have := hc.nonempty a ha
  constructor <;> omega

section Separated

variable {rs : Array (Span w)} (hs : Separated rs.toList)
include hs

theorem Separated.getElem {i j : Nat} (hi : i < rs.size) (hj : j < rs.size) (hij : i < j) :
    rs[i].first.toNat ≤ rs[j].first.toNat ∧ rs[i].last.toNat < rs[j].first.toNat := by
  have h := List.pairwise_iff_getElem.1 hs i j (by simpa using hi) (by simpa using hj) hij
  simpa only [Array.getElem_toList] using h

theorem Separated.firstsRise : FirstsRise rs := fun _ _ hi hj hij => (hs.getElem hi hj hij).1

/-- Over separated ranges, `v` is held exactly by the last range starting at or below it, if
that one ends at or above it. -/
theorem mem_iff (v : BitVec w) : mem rs v = true ↔ ∃ r ∈ rs.toList, r.Holds v.toNat := by
  have hb := bracket_count hs.firstsRise v
  have hsize := hb.hi_le
  simp only [mem, Bool.and_eq_true, decide_eq_true_eq]
  set k := countStartingAtOrBelow rs v
  constructor
  · rintro ⟨hk, hlast⟩
    have hkm : k - 1 < rs.size := by omega
    rw [getD_eq_getElem_of_lt rs _ hkm] at hlast
    exact ⟨rs[k - 1], Array.getElem_mem_toList hkm, hb.below _ hkm (by omega), hlast⟩
  · rintro ⟨r, hr, hfirst, hlast⟩
    obtain ⟨i, hi, rfl⟩ := List.getElem_of_mem hr
    have hi' : i < rs.size := by simpa using hi
    rw [Array.getElem_toList] at hfirst hlast
    have hik : i < k := Nat.lt_of_not_le fun hle => absurd (hb.above i hi' hle) (by omega)
    -- and it is the last of them: an earlier one ends before the last one begins
    have hlastk : i = k - 1 := by
      by_contra hne
      have hkm : k - 1 < rs.size := by omega
      have := (hs.getElem hi' hkm (by omega)).2
      have := hb.below (k - 1) hkm (by omega)
      omega
    subst hlastk
    refine ⟨by omega, ?_⟩
    rw [getD_eq_getElem_of_lt rs _ hi']
    exact hlast

end Separated

/-- Binary search agrees with linear search. Over ranges whose first values strictly rise and
that are pairwise disjoint, `mem` finds `v` exactly when some range holds it; and the range it
tests, the one before the count, is in bounds. Disjoint ranges in order are those each ending
before any later one begins; for nonempty ranges this is disjointness of the values held, while
an empty range starting inside an earlier one would hide that one from the search. -/
theorem mem_iff_holds_of_disjoint (rs : Array (Span w))
    (hrise : rs.toList.Pairwise fun a b => a.first < b.first)
    (hdisjoint : rs.toList.Pairwise fun a b => a.last < b.first) (v : BitVec w) :
    (mem rs v = true ↔ ∃ r ∈ rs.toList, r.first ≤ v ∧ v ≤ r.last) ∧
      (0 < countStartingAtOrBelow rs v → countStartingAtOrBelow rs v - 1 < rs.size) := by
  have hs : Separated rs.toList := (hrise.and hdisjoint).imp fun ⟨hfirst, hlast⟩ =>
    ⟨Nat.le_of_lt (BitVec.lt_def.1 hfirst), BitVec.lt_def.1 hlast⟩
  refine ⟨?_, fun _ => ?_⟩
  · rw [mem_iff hs v]
    simp only [Holds, BitVec.le_def]
  · have := countStartingAtOrBelow_le_size rs v
    omega

/-- A value in the gap between two ranges, the second reaching the top of the space. -/
theorem mem_iff_holds_of_disjoint_in_gap :
    let rs : Array (Span 32) := #[⟨0#32, 5#32⟩, ⟨7#32, 4294967295#32⟩]
    (rs.toList.Pairwise fun a b => a.first < b.first) ∧
      (rs.toList.Pairwise fun a b => a.last < b.first) ∧
      ((mem rs 6#32 = true ↔ ∃ r ∈ rs.toList, r.first ≤ 6#32 ∧ 6#32 ≤ r.last) ∧
        (0 < countStartingAtOrBelow rs 6#32 → countStartingAtOrBelow rs 6#32 - 1 < rs.size)) :=
  ⟨by decide, by decide, mem_iff_holds_of_disjoint _ (by decide) (by decide) _⟩

/-- Searching the merge of nonempty ranges tells whether one of the ranges holds the value. -/
theorem mem_merge_iff (rs : List (Span w)) (hne : ∀ r ∈ rs, r.first.toNat ≤ r.last.toNat)
    (v : BitVec w) : mem (merge rs).toArray v = true ↔ ∃ r ∈ rs, r.Holds v.toNat := by
  have hs : Separated (merge rs).toArray.toList := by
    rw [List.toList_toArray]
    exact (merge_canonical rs hne).separated
  rw [mem_iff hs, List.toList_toArray]
  exact holds_merge_iff rs hne v.toNat

end Span
end SplitDns
