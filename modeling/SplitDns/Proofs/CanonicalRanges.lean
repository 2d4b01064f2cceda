import Mathlib
import SplitDns.Proofs.DomesticMembership
/-!
# Merged ranges are the canonical form of what they hold

Ranges in canonical form (`Span.Canonical`: each nonempty, each ending at least one value before
the next begins) are fixed by the values they hold (`Span.canonical_unique`). The least value
held is the first range's first value, the first value past it that is not held is one past its
last value, and the other ranges hold what lies beyond that. So merging gives the same ranges
for any two lists of ranges that hold the same values (`Span.merge_eq_of_holds_iff`), and two
lists of networks covering the same addresses give the same table, whatever their order,
repetitions and overlaps (`DomesticTable.ofNetworks_eq_of_covers`).

`merge_canonical_union` gathers it: a merge has first values strictly rising, each range
nonempty, and after each range but the last a gap of at least one value, so that range ends
below the top of the space; it holds exactly the union of its input; and lists of networks
covering the same addresses give tables with the same ranges and the same size.
-/

namespace SplitDns
namespace Span

variable {w : Nat}

theorem ext_toNat {a b : Span w} (hfirst : a.first.toNat = b.first.toNat)
    (hlast : a.last.toNat = b.last.toNat) : a = b := by
  cases a
  cases b
  simp only [Span.mk.injEq]
  exact ⟨BitVec.eq_of_toNat_eq hfirst, BitVec.eq_of_toNat_eq hlast⟩

theorem Canonical.shape {rs : List (Span w)} (hc : Canonical rs) :
    rs.Pairwise (fun a b => a.first.toNat < b.first.toNat) ∧
      rs.Pairwise (fun a b => a.last.toNat < 2 ^ w - 1 ∧ a.last.toNat + 1 < b.first.toNat) := by
  refine ⟨hc.apart.imp_of_mem fun {a b} ha _ hab => ?_, hc.apart.imp fun {a b} hab => ?_⟩
  · have := hc.nonempty a ha
    omega
  · have := b.first.isLt
    omega

theorem holds_iff_of_bitVec {rs ss : List (Span w)}
    (h : ∀ v : BitVec w, (∃ r ∈ rs, r.Holds v.toNat) ↔ ∃ s ∈ ss, s.Holds v.toNat) (n : Nat) :
    (∃ r ∈ rs, r.Holds n) ↔ ∃ s ∈ ss, s.Holds n := by
  by_cases hn : n < 2 ^ w
  · have hv := h (BitVec.ofNat w n)
    rwa [BitVec.toNat_ofNat, Nat.mod_eq_of_lt hn] at hv
  · -- past the top of the space nothing is held
    have hnone : ∀ xs : List (Span w), ¬∃ x ∈ xs, x.Holds n := by
      rintro xs ⟨x, -, -, hlast⟩
      have := x.last.isLt
      omega
    exact iff_of_false (hnone rs) (hnone ss)

/-! ## The first range of a canonical list -/

section Head

variable {r : Span w} {rs : List (Span w)} (hc : Canonical (r :: rs))
include hc

theorem Canonical.tail : Canonical rs :=
  ⟨fun x hx => hc.nonempty x (List.mem_cons_of_mem r hx), (List.pairwise_cons.1 hc.apart).2⟩

theorem Canonical.holds_first : ∃ x ∈ r :: rs, x.Holds r.first.toNat :=
  ⟨r, List.mem_cons_self, le_refl _, hc.nonempty r List.mem_cons_self⟩

theorem Canonical.first_le {n : Nat} (h : ∃ x ∈ r :: rs, x.Holds n) : r.first.toNat ≤ n := by
  obtain ⟨x, hx, hfirst, -⟩ := h
  rcases List.mem_cons.1 hx with rfl | hx
  · exact hfirst
  · have := (List.pairwise_cons.1 hc.apart).1 x hx
    have := hc.nonempty r List.mem_cons_self
    omega

theorem Canonical.not_holds_succ_last : ¬∃ x ∈ r :: rs, x.Holds (r.last.toNat + 1) := by
  rintro ⟨x, hx, hfirst, hlast⟩
  rcases List.mem_cons.1 hx with rfl | hx
  · omega
  · have := (List.pairwise_cons.1 hc.apart).1 x hx
    omega

theorem Canonical.holds_tail_iff (n : Nat) :
    (∃ x ∈ rs, x.Holds n) ↔ (∃ x ∈ r :: rs, x.Holds n) ∧ r.last.toNat < n := by
  constructor
  · rintro ⟨x, hx, hfirst, hlast⟩
    have := (List.pairwise_cons.1 hc.apart).1 x hx
    exact ⟨⟨x, List.mem_cons_of_mem r hx, hfirst, hlast⟩, by omega⟩
  · rintro ⟨⟨x, hx, hfirst, hlast⟩, hpast⟩
    rcases List.mem_cons.1 hx with rfl | hx
    · omega
    · exact ⟨x, hx, hfirst, hlast⟩

end Head

/-! ## Uniqueness -/

section Unique

variable {r s : Span w} {rs ss : List (Span w)} (hr : Canonical (r :: rs))
  (hs : Canonical (s :: ss)) (h : ∀ n, (∃ x ∈ r :: rs, x.Holds n) ↔ ∃ x ∈ s :: ss, x.Holds n)
include hr hs h

theorem first_le_of_holds_iff : s.first.toNat ≤ r.first.toNat :=
  hs.first_le ((h r.first.toNat).1 hr.holds_first)

theorem last_le_of_holds_iff : s.last.toNat ≤ r.last.toNat := by
  by_contra hlt
  have hfirst := first_le_of_holds_iff hr hs h
  have hnonempty := hr.nonempty r List.mem_cons_self
  have hheld : ∃ x ∈ s :: ss, x.Holds (r.last.toNat + 1) :=
    ⟨s, List.mem_cons_self, by omega, by omega⟩
  exact hr.not_holds_succ_last ((h _).2 hheld)

end Unique

theorem canonical_unique {rs ss : List (Span w)} (hr : Canonical rs) (hs : Canonical ss)
    (h : ∀ n, (∃ x ∈ rs, x.Holds n) ↔ ∃ x ∈ ss, x.Holds n) : rs = ss := by
  induction rs generalizing ss with
  | nil =>
    cases ss with
    | nil => rfl
    | cons s ss =>
      obtain ⟨x, hx, -⟩ := (h s.first.toNat).2 hs.holds_first
      exact absurd hx List.not_mem_nil
  | cons r rs ih =>
    cases ss with
    | nil =>
      obtain ⟨x, hx, -⟩ := (h r.first.toNat).1 hr.holds_first
      exact absurd hx List.not_mem_nil
    | cons s ss =>
      have hsymm : ∀ n, (∃ x ∈ s :: ss, x.Holds n) ↔ ∃ x ∈ r :: rs, x.Holds n :=
        fun n => (h n).symm
      -- the first ranges agree: same least value held, same first value missing after it
      have hrs : r = s := ext_toNat
        (le_antisymm (first_le_of_holds_iff hs hr hsymm) (first_le_of_holds_iff hr hs h))
        (le_antisymm (last_le_of_holds_iff hs hr hsymm) (last_le_of_holds_iff hr hs h))
      subst hrs
      have htail : ∀ n, (∃ x ∈ rs, x.Holds n) ↔ ∃ x ∈ ss, x.Holds n := fun n => by
        rw [hr.holds_tail_iff, hs.holds_tail_iff, h n]
      rw [ih hr.tail hs.tail htail]

theorem merge_eq_of_holds_iff {rs ss : List (Span w)}
    (hr : ∀ r ∈ rs, r.first.toNat ≤ r.last.toNat) (hs : ∀ s ∈ ss, s.first.toNat ≤ s.last.toNat)
    (h : ∀ n, (∃ r ∈ rs, r.Holds n) ↔ ∃ s ∈ ss, s.Holds n) : merge rs = merge ss :=
  canonical_unique (merge_canonical rs hr) (merge_canonical ss hs) fun n => by
    rw [holds_merge_iff rs hr, holds_merge_iff ss hs, h n]

end Span

namespace DomesticTable

/-- The addresses a list of networks covers: an IPv4 address when one of its IPv4 networks holds
it, an IPv6 address when one of its IPv6 networks does. -/
def Covers (ns : List Cidr) : IpAddr → Prop
  | .v4 a => ∃ addr len, Cidr.v4 addr len ∈ ns ∧ InNetwork addr len a
  | .v6 b => ∃ addr len, Cidr.v6 addr len ∈ ns ∧ InNetwork addr len b

theorem merge_filterMap_eq {w : Nat} (ns ms : List Cidr) (family : BitVec w → Nat → Cidr)
    (pick : Cidr → Option (Span w))
    (hpick : ∀ c r, pick c = some r ↔ ∃ addr len, c = family addr len ∧ r = Cidr.spanOf addr len)
    (h : ∀ v, (∃ addr len, family addr len ∈ ns ∧ InNetwork addr len v) ↔
      ∃ addr len, family addr len ∈ ms ∧ InNetwork addr len v) :
    Span.merge (ns.filterMap pick) = Span.merge (ms.filterMap pick) := by
  refine Span.merge_eq_of_holds_iff (nonempty_filterMap ns family pick hpick)
    (nonempty_filterMap ms family pick hpick) (Span.holds_iff_of_bitVec fun v => ?_)
  rw [holds_filterMap_iff ns family pick hpick, holds_filterMap_iff ms family pick hpick, h v]

theorem ofNetworks_eq_of_covers {ns ms : List Cidr} (h : ∀ ip, Covers ns ip ↔ Covers ms ip) :
    ofNetworks ns = ofNetworks ms := by
  simp only [ofNetworks, DomesticTable.mk.injEq]
  constructor
  · congr 1
    refine merge_filterMap_eq ns ms Cidr.v4 _ (fun c r => ?_) fun a => h (.v4 a)
    cases c <;> simp [eq_comm]
  · congr 1
    refine merge_filterMap_eq ns ms Cidr.v6 _ (fun c r => ?_) fun b => h (.v6 b)
    cases c <;> simp [eq_comm]

end DomesticTable

/-- Merging nonempty ranges of `w`-bit values gives their canonical form: first values strictly
rising, each range nonempty, each range but the last ending below the top value and at least
one value before the next begins, and exactly the values of the input held. Hence lists of
networks covering the same addresses give tables listing the same ranges, as many. -/
theorem merge_canonical_union :
    (∀ {w : Nat} (rs : List (Span w)), (∀ r ∈ rs, r.first.toNat ≤ r.last.toNat) →
      (Span.merge rs).Pairwise (fun a b => a.first.toNat < b.first.toNat) ∧
      (∀ r ∈ Span.merge rs, r.first.toNat ≤ r.last.toNat) ∧
      (Span.merge rs).Pairwise
        (fun a b => a.last.toNat < 2 ^ w - 1 ∧ a.last.toNat + 1 < b.first.toNat) ∧
      ∀ n, (∃ r ∈ Span.merge rs, r.Holds n) ↔ ∃ r ∈ rs, r.Holds n) ∧
    ∀ ns ms : List Cidr, (∀ ip, DomesticTable.Covers ns ip ↔ DomesticTable.Covers ms ip) →
      (DomesticTable.ofNetworks ns).ranges = (DomesticTable.ofNetworks ms).ranges ∧
        (DomesticTable.ofNetworks ns).size = (DomesticTable.ofNetworks ms).size := by
  refine ⟨fun rs hne => ?_, fun ns ms h => ?_⟩
  · have hc := Span.merge_canonical rs hne
    obtain ⟨hrise, hgap⟩ := hc.shape
    exact ⟨hrise, hc.nonempty, hgap, Span.holds_merge_iff rs hne⟩
  · rw [DomesticTable.ofNetworks_eq_of_covers h]
    exact ⟨rfl, rfl⟩

/-- The table test of the source: two halves of a /24 and a quarter inside them cover what the
/24 covers, and ranges of octets that touch, overlap and reach the top value. -/
theorem merge_canonical_union_halves :
    let rs : List (Span 8) := [⟨20, 30⟩, ⟨0, 9⟩, ⟨10, 12⟩, ⟨31, 31⟩, ⟨40, 255⟩]
    let ns := [Cidr.v4 (BitVec.ofNat 32 0x0A000000) 25, Cidr.v4 (BitVec.ofNat 32 0x0A000080) 25,
      Cidr.v4 (BitVec.ofNat 32 0x0A000040) 26]
    let ms := [Cidr.v4 (BitVec.ofNat 32 0x0A000000) 24]
    ((∀ r ∈ rs, r.first.toNat ≤ r.last.toNat) ∧
      (Span.merge rs).Pairwise (fun a b => a.first.toNat < b.first.toNat) ∧
      (∀ r ∈ Span.merge rs, r.first.toNat ≤ r.last.toNat) ∧
      (Span.merge rs).Pairwise
        (fun a b => a.last.toNat < 2 ^ 8 - 1 ∧ a.last.toNat + 1 < b.first.toNat) ∧
      ∀ n, (∃ r ∈ Span.merge rs, r.Holds n) ↔ ∃ r ∈ rs, r.Holds n) ∧
    (∀ ip, DomesticTable.Covers ns ip ↔ DomesticTable.Covers ms ip) ∧
      (DomesticTable.ofNetworks ns).ranges = (DomesticTable.ofNetworks ms).ranges ∧
      (DomesticTable.ofNetworks ns).size = (DomesticTable.ofNetworks ms).size := by
  intro rs ns ms
  have hne : ∀ r ∈ rs, r.first.toNat ≤ r.last.toNat := by
    simp only [rs]
    decide
  have hcov : ∀ ip, DomesticTable.Covers ns ip ↔ DomesticTable.Covers ms ip := by
    intro ip
    cases ip with
    | v4 a =>
      simp only [ns, ms, DomesticTable.Covers, List.mem_cons, List.not_mem_nil, or_false,
        Cidr.v4.injEq, or_and_right, exists_or, and_assoc, exists_and_left, exists_eq_left,
        inNetwork_iff_div]
      norm_num
      omega
    | v6 b => simp [ns, ms, DomesticTable.Covers]
  exact ⟨⟨hne, merge_canonical_union.1 rs hne⟩, hcov, merge_canonical_union.2 ns ms hcov⟩

end SplitDns
