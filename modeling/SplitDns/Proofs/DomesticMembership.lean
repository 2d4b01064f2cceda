import Mathlib
import SplitDns.Domestic
import SplitDns.Proofs.SpanSearch
/-!
# The domestic table decides network membership

A network of mask length `len` holds the addresses that agree with its address on the first
`len` bits (`InNetwork`). Its range `Cidr.spanOf` runs from the address with the other bits
cleared to the address with them set, so it holds exactly the network's addresses
(`holds_spanOf_iff`); merging the ranges of a family and searching the merge then tells
whether some network of that family holds an address (`mem_v4_iff`, `mem_v6_iff`).

The table answers for an IPv4 address, and an IPv4-mapped IPv6 address, from its IPv4 networks
alone, and for any other IPv6 address from its IPv6 networks alone
(`isDomestic_iff_inNetwork`).
-/

namespace SplitDns

/-- The mask keeping the first `len` of `w` bits, and every bit when `len ≥ w`. -/
def prefixMask (w len : Nat) : BitVec w := BitVec.allOnes w <<< (w - len)

/-- Whether the network of `addr` with mask length `len` holds `a`: the two agree under the
mask. -/
def InNetwork {w : Nat} (addr : BitVec w) (len : Nat) (a : BitVec w) : Prop :=
  a &&& prefixMask w len = addr &&& prefixMask w len

instance {w : Nat} (addr : BitVec w) (len : Nat) (a : BitVec w) :
    Decidable (InNetwork addr len a) :=
  inferInstanceAs (Decidable (_ = _))

example : InNetwork (BitVec.ofNat 32 0x0A000000) 8 (BitVec.ofNat 32 0x0AFFFFFF) := by decide
example : ¬InNetwork (BitVec.ofNat 32 0x0A000000) 8 (BitVec.ofNat 32 0x0B000000) := by decide

section Mask

variable {w : Nat}

theorem toNat_and_prefixMask (x : BitVec w) (len : Nat) :
    (x &&& prefixMask w len).toNat = x.toNat / 2 ^ (w - len) * 2 ^ (w - len) := by
  have hlt := x.isLt
  have hle : x.toNat / 2 ^ (w - len) * 2 ^ (w - len) ≤ x.toNat := Nat.div_mul_le_self _ _
  rw [prefixMask, ← BitVec.shiftLeft_ushiftRight, BitVec.toNat_shiftLeft,
    BitVec.toNat_ushiftRight, Nat.shiftLeft_eq, Nat.shiftRight_eq_div_pow]
  exact Nat.mod_eq_of_lt (by omega)

theorem inNetwork_iff_div {addr a : BitVec w} {len : Nat} :
    InNetwork addr len a ↔ a.toNat / 2 ^ (w - len) = addr.toNat / 2 ^ (w - len) := by
  have hpos : 0 < 2 ^ (w - len) := Nat.two_pow_pos _
  rw [InNetwork, ← BitVec.toNat_inj, toNat_and_prefixMask, toNat_and_prefixMask]
  exact Nat.mul_left_inj (Nat.pos_iff_ne_zero.1 hpos)

theorem block_end_le (x : BitVec w) {k : Nat} (hk : k ≤ w) :
    x.toNat / 2 ^ k * 2 ^ k + 2 ^ k ≤ 2 ^ w := by
  have hsplit : 2 ^ w = 2 ^ (w - k) * 2 ^ k := by rw [← Nat.pow_add, Nat.sub_add_cancel hk]
  have hq : x.toNat / 2 ^ k < 2 ^ (w - k) := by
    rw [Nat.div_lt_iff_lt_mul (Nat.two_pow_pos k), ← hsplit]
    exact x.isLt
  calc x.toNat / 2 ^ k * 2 ^ k + 2 ^ k = (x.toNat / 2 ^ k + 1) * 2 ^ k := by rw [Nat.succ_mul]
    _ ≤ 2 ^ (w - k) * 2 ^ k := Nat.mul_le_mul_right _ hq
    _ = 2 ^ w := hsplit.symm

theorem div_eq_iff_mem_block {n q k : Nat} :
    n / 2 ^ k = q ↔ q * 2 ^ k ≤ n ∧ n ≤ q * 2 ^ k + 2 ^ k - 1 := by
  have hpos := Nat.two_pow_pos k
  have hlow : q ≤ n / 2 ^ k ↔ q * 2 ^ k ≤ n := Nat.le_div_iff_mul_le hpos
  have hhigh : n / 2 ^ k < q + 1 ↔ n < (q + 1) * 2 ^ k := Nat.div_lt_iff_lt_mul hpos
  rw [Nat.succ_mul] at hhigh
  omega

theorem Cidr.spanOf_first (addr : BitVec w) (len : Nat) :
    (Cidr.spanOf addr len).first.toNat = addr.toNat / 2 ^ (w - len) * 2 ^ (w - len) := by
  have hend := block_end_le addr (Nat.sub_le w len)
  have hpos := Nat.two_pow_pos (w - len)
  simp only [Cidr.spanOf, BitVec.toNat_ofNat, Nat.pow_eq]
  exact Nat.mod_eq_of_lt (by omega)

theorem Cidr.spanOf_last (addr : BitVec w) (len : Nat) :
    (Cidr.spanOf addr len).last.toNat =
      addr.toNat / 2 ^ (w - len) * 2 ^ (w - len) + 2 ^ (w - len) - 1 := by
  have hend := block_end_le addr (Nat.sub_le w len)
  have hpos := Nat.two_pow_pos (w - len)
  simp only [Cidr.spanOf, BitVec.toNat_ofNat, Nat.pow_eq]
  exact Nat.mod_eq_of_lt (by omega)

theorem Cidr.spanOf_nonempty (addr : BitVec w) (len : Nat) :
    (Cidr.spanOf addr len).first.toNat ≤ (Cidr.spanOf addr len).last.toNat := by
  have hpos := Nat.two_pow_pos (w - len)
  rw [Cidr.spanOf_first, Cidr.spanOf_last]
  omega

/-- The range of a network holds exactly the addresses of the network. -/
theorem holds_spanOf_iff (addr a : BitVec w) (len : Nat) :
    (Cidr.spanOf addr len).Holds a.toNat ↔ InNetwork addr len a := by
  rw [inNetwork_iff_div, div_eq_iff_mem_block, Span.Holds, Cidr.spanOf_first, Cidr.spanOf_last]

end Mask

/-! ## The table -/

namespace DomesticTable

section Family

variable {w : Nat} (ns : List Cidr) (family : BitVec w → Nat → Cidr) (pick : Cidr → Option (Span w))
  (hpick : ∀ c r, pick c = some r ↔ ∃ addr len, c = family addr len ∧ r = Cidr.spanOf addr len)
include hpick

theorem nonempty_filterMap : ∀ r ∈ ns.filterMap pick, r.first.toNat ≤ r.last.toNat := by
  intro r hr
  obtain ⟨c, -, hc⟩ := List.mem_filterMap.1 hr
  obtain ⟨addr, len, -, rfl⟩ := (hpick c r).1 hc
  exact Cidr.spanOf_nonempty addr len

theorem holds_filterMap_iff (v : BitVec w) :
    (∃ r ∈ ns.filterMap pick, r.Holds v.toNat) ↔
      ∃ addr len, family addr len ∈ ns ∧ InNetwork addr len v := by
  constructor
  · rintro ⟨r, hr, hholds⟩
    obtain ⟨c, hmem, hc⟩ := List.mem_filterMap.1 hr
    obtain ⟨addr, len, rfl, rfl⟩ := (hpick c r).1 hc
    exact ⟨addr, len, hmem, (holds_spanOf_iff addr v len).1 hholds⟩
  · rintro ⟨addr, len, hmem, hin⟩
    have hc := (hpick _ _).2 ⟨addr, len, rfl, rfl⟩
    exact ⟨_, List.mem_filterMap.2 ⟨_, hmem, hc⟩, (holds_spanOf_iff addr v len).2 hin⟩

theorem mem_merge_filterMap_iff (v : BitVec w) :
    Span.mem (Span.merge (ns.filterMap pick)).toArray v = true ↔
      ∃ addr len, family addr len ∈ ns ∧ InNetwork addr len v := by
  rw [Span.mem_merge_iff _ (nonempty_filterMap ns family pick hpick) v]
  exact holds_filterMap_iff ns family pick hpick v

end Family

/-- The IPv4 ranges of the table hold an address exactly when one of its IPv4 networks does. -/
theorem mem_v4_iff (ns : List Cidr) (a : BitVec 32) :
    Span.mem (ofNetworks ns).v4 a = true ↔
      ∃ addr len, Cidr.v4 addr len ∈ ns ∧ InNetwork addr len a := by
  refine mem_merge_filterMap_iff ns Cidr.v4 _ (fun c r => ?_) a
  cases c <;> simp [eq_comm]

/-- The IPv6 ranges of the table hold an address exactly when one of its IPv6 networks does. -/
theorem mem_v6_iff (ns : List Cidr) (b : BitVec 128) :
    Span.mem (ofNetworks ns).v6 b = true ↔
      ∃ addr len, Cidr.v6 addr len ∈ ns ∧ InNetwork addr len b := by
  refine mem_merge_filterMap_iff ns Cidr.v6 _ (fun c r => ?_) b
  cases c <;> simp [eq_comm]

/-- The table built from a list of networks calls an address domestic exactly when one of the
networks of its family holds it; an IPv4-mapped IPv6 address counts as the IPv4 address it
carries. -/
theorem isDomestic_iff_inNetwork (ns : List Cidr) (ip : IpAddr) :
    (ofNetworks ns).isDomestic ip = true ↔
      match ip with
      | .v4 a => ∃ addr len, Cidr.v4 addr len ∈ ns ∧ InNetwork addr len a
      | .v6 b =>
        match IpAddr.mappedV4? b with
        | some a => ∃ addr len, Cidr.v4 addr len ∈ ns ∧ InNetwork addr len a
        | none => ∃ addr len, Cidr.v6 addr len ∈ ns ∧ InNetwork addr len b := by
  cases ip with
  | v4 a => exact mem_v4_iff ns a
  | v6 b =>
    simp only [isDomestic]
    cases IpAddr.mappedV4? b with
    | some a => exact mem_v4_iff ns a
    | none => exact mem_v6_iff ns b

end DomesticTable
end SplitDns
