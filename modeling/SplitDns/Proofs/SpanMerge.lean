import Mathlib
import SplitDns.Net.Span
/-!
# Merging ranges gives their union in canonical form

`Span.merge` sorts a list of ranges and then folds them into the ranges it keeps, the last one
first: a range that starts at most one past the last kept range's end extends it, any other
starts a new one. For every list of nonempty ranges, the result is in canonical form
(`merge_canonical`): each range nonempty, each ending at least one value before the next
begins; and it holds exactly the values the input ranges hold (`holds_merge_iff`).

One step of the fold keeps both facts (`push_keeps`), provided the range comes in at or after
the first value of every range kept so far, which the sort guarantees.
-/

namespace SplitDns
namespace Span

variable {w : Nat}

/-- Whether a range holds the value `n`. -/
def Holds (r : Span w) (n : Nat) : Prop := r.first.toNat ≤ n ∧ n ≤ r.last.toNat

/-- Ranges in canonical form: each nonempty, and each ending at least one value before the next
one begins. -/
structure Canonical (rs : List (Span w)) : Prop where
  nonempty : ∀ r ∈ rs, r.first.toNat ≤ r.last.toNat
  apart : rs.Pairwise fun a b => a.last.toNat + 1 < b.first.toNat

theorem succSat_le_succ (v : BitVec w) : succSat v ≤ v.toNat + 1 := by
  unfold succSat
  split <;> omega

theorem succ_lt_of_succSat_lt {v : BitVec w} {n : Nat} (hn : n < Nat.pow 2 w)
    (h : succSat v < n) : v.toNat + 1 < n := by
  unfold succSat at h
  split at h <;> omega

theorem trans_le {a b c : Span w} (hab : le a b = true) (hbc : le b c = true) :
    le a c = true := by
  simp only [le, Bool.or_eq_true, decide_eq_true_eq, Bool.and_eq_true, beq_iff_eq] at *
  omega

theorem total_le (a b : Span w) : (le a b || le b a) = true := by
  simp only [le, Bool.or_eq_true, decide_eq_true_eq, Bool.and_eq_true, beq_iff_eq]
  omega

theorem first_le_of_le {a b : Span w} (h : le a b = true) : a.first.toNat ≤ b.first.toNat := by
  simp only [le, Bool.or_eq_true, decide_eq_true_eq, Bool.and_eq_true, beq_iff_eq] at h
  omega

/-! ## One step of the fold -/

/-- What the kept ranges satisfy, the last kept first: each nonempty, and each later one begins
more than one value past the end of every earlier one. -/
structure KeptCanonical (acc : List (Span w)) : Prop where
  nonempty : ∀ r ∈ acc, r.first.toNat ≤ r.last.toNat
  apart : acc.Pairwise fun b a => a.last.toNat + 1 < b.first.toNat

theorem push_of_join {prev x : Span w} (rest : List (Span w))
    (hjoin : x.first.toNat ≤ succSat prev.last) :
    ∃ j : Span w, push (prev :: rest) x = j :: rest ∧ j.first = prev.first ∧
      j.last.toNat = max prev.last.toNat x.last.toNat := by
  by_cases hlater : x.last.toNat > prev.last.toNat
  · refine ⟨{ prev with last := x.last }, by simp [push, hjoin, hlater], rfl, ?_⟩
    simp only
    omega
  · exact ⟨prev, by simp [push, hjoin, hlater], rfl, by omega⟩

theorem push_of_gap {prev x : Span w} (rest : List (Span w))
    (hgap : ¬x.first.toNat ≤ succSat prev.last) : push (prev :: rest) x = x :: prev :: rest := by
  simp [push, hgap]

/-- One step of the fold, for a nonempty range at or after the first value of every kept range:
the kept ranges stay canonical, hold what they held and the new range besides, and none starts
after it. -/
theorem push_keeps {acc : List (Span w)} {x : Span w} (hacc : KeptCanonical acc)
    (hx : x.first.toNat ≤ x.last.toNat) (hafter : ∀ r ∈ acc, r.first.toNat ≤ x.first.toNat) :
    KeptCanonical (push acc x) ∧
      (∀ n, (∃ r ∈ push acc x, r.Holds n) ↔ (∃ r ∈ acc, r.Holds n) ∨ x.Holds n) ∧
      ∀ r ∈ push acc x, r.first.toNat ≤ x.first.toNat := by
  cases acc with
  | nil =>
    have hj : push [] x = [x] := rfl
    rw [hj]
    refine ⟨⟨by simpa using hx, by simp⟩, fun n => by simp, by simp⟩
  | cons prev rest =>
    have hprev := hacc.nonempty prev (by simp)
    have hrest := List.pairwise_cons.1 hacc.apart
    have hpx := hafter prev (by simp)
    by_cases hjoin : x.first.toNat ≤ succSat prev.last
    · -- the range joins the last kept one
      obtain ⟨j, hj, hjfirst, hjlast⟩ := push_of_join rest hjoin
      have hsucc := succSat_le_succ prev.last
      rw [hj]
      refine ⟨⟨fun r hr => ?_, List.pairwise_cons.2 ⟨fun a ha => ?_, hrest.2⟩⟩, fun n => ?_,
        fun r hr => ?_⟩
      · rcases List.mem_cons.1 hr with rfl | hr
        · rw [hjfirst, hjlast]
          omega
        · exact hacc.nonempty r (by simp [hr])
      · rw [hjfirst]
        exact hrest.1 a ha
      · have hjoined : j.Holds n ↔ prev.Holds n ∨ x.Holds n := by
          simp only [Holds, hjfirst, hjlast]
          omega
        simp only [List.mem_cons, exists_eq_or_imp, hjoined]
        simp only [or_assoc, or_comm]
      · rcases List.mem_cons.1 hr with rfl | hr
        · rw [hjfirst]
          exact hpx
        · exact hafter r (by simp [hr])
    · -- the range starts past the last kept one, and stands after it
      have hgap : prev.last.toNat + 1 < x.first.toNat :=
        succ_lt_of_succSat_lt x.first.isLt (Nat.lt_of_not_le hjoin)
      rw [push_of_gap rest hjoin]
      refine ⟨⟨fun r hr => ?_, List.pairwise_cons.2 ⟨fun a ha => ?_, hacc.apart⟩⟩, fun n => ?_,
        fun r hr => ?_⟩
      · rcases List.mem_cons.1 hr with rfl | hr
        · exact hx
        · exact hacc.nonempty r hr
      · rcases List.mem_cons.1 ha with rfl | ha
        · exact hgap
        · have := hrest.1 a ha
          omega
      · simp only [List.mem_cons, exists_eq_or_imp]
        simp only [or_comm]
      · rcases List.mem_cons.1 hr with rfl | hr
        · exact le_refl _
        · exact hafter r hr

theorem foldl_push_keeps (xs : List (Span w)) :
    ∀ acc : List (Span w), xs.Pairwise (fun a b => a.first.toNat ≤ b.first.toNat) →
      (∀ x ∈ xs, x.first.toNat ≤ x.last.toNat) → KeptCanonical acc →
      (∀ r ∈ acc, ∀ x ∈ xs, r.first.toNat ≤ x.first.toNat) →
      KeptCanonical (xs.foldl push acc) ∧
        ∀ n, (∃ r ∈ xs.foldl push acc, r.Holds n) ↔ (∃ r ∈ acc, r.Holds n) ∨ ∃ x ∈ xs, x.Holds n := by
  induction xs with
  | nil => intro acc _ _ hacc _; exact ⟨hacc, fun n => by simp⟩
  | cons x xs ih =>
    intro acc hsorted hne hacc hafter
    have hsorted' := List.pairwise_cons.1 hsorted
    obtain ⟨hkeep, hholds, hfirst⟩ :=
      push_keeps hacc (hne x (by simp)) (fun r hr => hafter r hr x (by simp))
    obtain ⟨hcanon, hcover⟩ := ih (push acc x) hsorted'.2 (fun y hy => hne y (by simp [hy]))
      hkeep (fun r hr y hy => le_trans (hfirst r hr) (hsorted'.1 y hy))
    refine ⟨hcanon, fun n => ?_⟩
    rw [List.foldl_cons, hcover n, hholds n]
    simp only [List.mem_cons, exists_eq_or_imp]
    simp only [or_assoc]

/-! ## The merge -/

theorem merge_keeps (rs : List (Span w)) (hne : ∀ r ∈ rs, r.first.toNat ≤ r.last.toNat) :
    KeptCanonical ((rs.mergeSort le).foldl push []) ∧
      ∀ n, (∃ r ∈ (rs.mergeSort le).foldl push [], r.Holds n) ↔ ∃ r ∈ rs, r.Holds n := by
  have hperm := List.mergeSort_perm rs le
  have hsorted := @List.pairwise_mergeSort (Span w) le (fun _ _ _ => trans_le) total_le rs
  obtain ⟨hcanon, hcover⟩ := foldl_push_keeps (rs.mergeSort le) []
    (hsorted.imp first_le_of_le) (fun x hx => hne x (hperm.subset hx)) ⟨by simp, by simp⟩
    (by simp)
  refine ⟨hcanon, fun n => ?_⟩
  rw [hcover n]
  simp only [List.not_mem_nil, false_and, exists_false, false_or]
  exact ⟨fun ⟨r, hr, h⟩ => ⟨r, hperm.subset hr, h⟩, fun ⟨r, hr, h⟩ => ⟨r, hperm.symm.subset hr, h⟩⟩

/-- Merged nonempty ranges are in canonical form. -/
theorem merge_canonical (rs : List (Span w)) (hne : ∀ r ∈ rs, r.first.toNat ≤ r.last.toNat) :
    Canonical (merge rs) := by
  obtain ⟨⟨hnonempty, hapart⟩, -⟩ := merge_keeps rs hne
  refine ⟨fun r hr => hnonempty r (List.mem_reverse.1 hr), ?_⟩
  exact List.pairwise_reverse.2 hapart

/-- Merged nonempty ranges hold exactly the values the ranges held. -/
theorem holds_merge_iff (rs : List (Span w)) (hne : ∀ r ∈ rs, r.first.toNat ≤ r.last.toNat)
    (n : Nat) : (∃ r ∈ merge rs, r.Holds n) ↔ ∃ r ∈ rs, r.Holds n := by
  obtain ⟨-, hcover⟩ := merge_keeps rs hne
  simp only [merge, List.mem_reverse]
  exact hcover n

end Span
end SplitDns
