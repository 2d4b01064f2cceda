import Mathlib
import SplitDns.Net.Address
/-!
# Address texts read back

The text of a socket address reads back as the address: `SocketAddr.parse?_toText`, for every
IPv6 address with any scope and port and every IPv4 address with any port. The dotted quad and
the groups are written with `Nat.toDigits`, and each reader takes back exactly the digits
written, stopping at the first character that is no digit. For IPv6 the text is the
RFC 5952 one: the run of zero groups written `::` is a run of zeros of the address
(`IpAddr.isZeroRun_longestZeroRun`), so the groups around it and the zeros put back give the
address again, and the IPv4-mapped form `::ffff:a.b.c.d` is read through its dotted quad.
-/

namespace SplitDns

namespace Text

theorem digitValue_digitChar {radix d : Nat} (hradix : radix ≤ 16) (hd : d < radix) :
    digitValue radix (Nat.digitChar d) = some d := by
  have hall : ∀ r : Fin 17, ∀ e : Fin 16, e.val < r.val →
      digitValue r (Nat.digitChar e) = some e.val := by decide
  exact hall ⟨radix, by omega⟩ ⟨d, by omega⟩ hd

theorem mem_toDigits {radix : Nat} (hradix : 1 < radix) (n : Nat) :
    ∀ c ∈ Nat.toDigits radix n, ∃ d < radix, c = Nat.digitChar d := by
  induction n using Nat.strong_induction_on with
  | _ n ih =>
    intro c hc
    rw [Nat.toDigits_eq_if hradix] at hc
    split at hc
    case isTrue hlt => exact ⟨n, hlt, List.mem_singleton.1 hc⟩
    case isFalse hge =>
      rcases List.mem_append.1 hc with hhigh | hlow
      · exact ih (n / radix) (Nat.div_lt_self (by omega) hradix) c hhigh
      · exact ⟨n % radix, Nat.mod_lt n (by omega), List.mem_singleton.1 hlow⟩

theorem digitValue_of_mem_toDigits {radix n : Nat} {c : Char} (h2 : 2 ≤ radix)
    (h16 : radix ≤ 16) (hc : c ∈ Nat.toDigits radix n) : (digitValue radix c).isSome := by
  obtain ⟨d, hd, rfl⟩ := mem_toDigits (by omega) n c hc
  rw [digitValue_digitChar h16 hd]
  rfl

theorem foldl_toDigits {radix : Nat} (h2 : 2 ≤ radix) (h16 : radix ≤ 16) (n : Nat) :
    (Nat.toDigits radix n).foldl (fun a d => a * radix + (digitValue radix d).getD 0) 0 = n := by
  induction n using Nat.strong_induction_on with
  | _ n ih =>
    rw [Nat.toDigits_eq_if (by omega)]
    split
    case isTrue hlt => simp [digitValue_digitChar h16 hlt]
    case isFalse hge =>
      rw [List.foldl_append, ih (n / radix) (Nat.div_lt_self (by omega) (by omega)),
        List.foldl_cons, List.foldl_nil, digitValue_digitChar h16 (Nat.mod_lt n (by omega)),
        Option.getD_some]
      exact Nat.div_add_mod' n radix

theorem digitsValue_toDigits {radix : Nat} (h2 : 2 ≤ radix) (h16 : radix ≤ 16) (n : Nat) :
    digitsValue radix (Nat.toDigits radix n) = some n := by
  obtain ⟨c, cs, hcs⟩ := List.exists_cons_of_ne_nil (Nat.toDigits_ne_nil (n := n) (b := radix))
  have hfold := foldl_toDigits h2 h16 n
  obtain ⟨d, hd, hc⟩ := mem_toDigits (by omega) n c (hcs ▸ List.mem_cons_self)
  rw [hcs, List.foldl_cons, hc, digitValue_digitChar h16 hd] at hfold
  rw [hcs, digitsValue, hc, digitValue_digitChar h16 hd]
  simpa [digitsValue.go] using hfold

theorem head_toDigits_ne_zero {radix : Nat} (hradix : 1 < radix) {n : Nat} (hn : 0 < n) :
    (Nat.toDigits radix n).head? ≠ some '0' := by
  induction n using Nat.strong_induction_on with
  | _ n ih =>
    rw [Nat.toDigits_eq_if hradix]
    split
    case isTrue hlt => simp; omega
    case isFalse hge =>
      have hhigh := ih (n / radix) (Nat.div_lt_self hn hradix) (Nat.div_pos (by omega) (by omega))
      rwa [List.head?_append_of_ne_nil _ Nat.toDigits_ne_nil]

theorem dot_not_mem_toDigits {radix : Nat} (h2 : 2 ≤ radix) (h16 : radix ≤ 16) (n : Nat) :
    '.' ∉ Nat.toDigits radix n := by
  intro hdot
  obtain ⟨d, hd, heq⟩ := mem_toDigits (by omega) n '.' hdot
  have hne : ∀ e : Fin 16, Nat.digitChar e ≠ '.' := by decide
  exact hne ⟨d, by omega⟩ heq.symm

theorem digitValue_eq_none_of_le {r s : Nat} {c : Char} (hrs : r ≤ s)
    (h : digitValue s c = none) : digitValue r c = none := by
  unfold digitValue at h ⊢
  dsimp only at h ⊢
  split at h
  case h_1 d _ =>
    split at h
    · exact nomatch h
    · rw [if_neg (by omega)]
  case h_2 => rfl

end Text
namespace IpAddr

theorem ofOctets_octets (b : BitVec 32) :
    ofOctets (b.toNat / Nat.pow 2 24 % 256) (b.toNat / Nat.pow 2 16 % 256)
      (b.toNat / Nat.pow 2 8 % 256) (b.toNat % 256) = b := by
  apply BitVec.eq_of_toNat_eq
  have hb := b.isLt
  simp only [ofOctets, BitVec.toNat_ofNat, Nat.pow_eq]
  omega

theorem v4Text_toList (b : BitVec 32) : (v4Text b).toList =
    Nat.toDigits 10 (b.toNat / Nat.pow 2 24 % 256) ++ '.' ::
      (Nat.toDigits 10 (b.toNat / Nat.pow 2 16 % 256) ++ '.' ::
        (Nat.toDigits 10 (b.toNat / Nat.pow 2 8 % 256) ++
          '.' :: Nat.toDigits 10 (b.toNat % 256))) := by
  simp [v4Text, octets]

/-- Groups in hexadecimal, each after a colon but the first when `first` holds. -/
def groupsChars (first : Bool) : List Nat → List Char
  | [] => []
  | g :: gs => (if first then [] else [':']) ++ Nat.toDigits 16 g ++ groupsChars false gs

theorem groupsText_toList : ∀ gs : List Nat, (groupsText gs).toList = groupsChars true gs
  | [] => by simp [groupsText, groupsChars]
  | [g] => by simp [groupsText, groupsChars, Text.hex, Text.toDigitsIn]
  | g :: g' :: gs => by
    have ih := groupsText_toList (g' :: gs)
    have hcons : groupsText (g :: g' :: gs) = Text.hex g ++ ":" ++ groupsText (g' :: gs) := by
      simp [groupsText]
    rw [hcons, String.toList_append, String.toList_append, ih]
    simp [groupsChars, Text.hex, Text.toDigitsIn]

theorem dot_not_mem_groupsChars : ∀ (first : Bool) (gs : List Nat), '.' ∉ groupsChars first gs
  | _, [] => by simp [groupsChars]
  | first, g :: gs => by
    have hrest := dot_not_mem_groupsChars false gs
    simp only [groupsChars, List.mem_append, not_or]
    exact ⟨⟨by split <;> simp, Text.dot_not_mem_toDigits (by decide) (by decide) g⟩, hrest⟩

theorem groups_eq (b : BitVec 128) : groups b =
    [b.toNat / 2 ^ 112 % 65536, b.toNat / 2 ^ 96 % 65536, b.toNat / 2 ^ 80 % 65536,
      b.toNat / 2 ^ 64 % 65536, b.toNat / 2 ^ 48 % 65536, b.toNat / 2 ^ 32 % 65536,
      b.toNat / 2 ^ 16 % 65536, b.toNat % 65536] := by
  simp [groups, show List.range 8 = [0, 1, 2, 3, 4, 5, 6, 7] from rfl]

theorem length_groups (b : BitVec 128) : (groups b).length = 8 := by
  simp [groups]

theorem groups_lt (b : BitVec 128) : ∀ g ∈ groups b, g < 65536 := by
  intro g hg
  simp only [groups, List.mem_map] at hg
  obtain ⟨i, -, rfl⟩ := hg
  exact Nat.mod_lt _ (by decide)

theorem ofGroups_groups (b : BitVec 128) : ofGroups (groups b) = b := by
  apply BitVec.eq_of_toNat_eq
  have hb := b.isLt
  simp only [ofGroups, groups_eq, List.foldl_cons, List.foldl_nil, BitVec.toNat_ofNat]
  omega

theorem ofGroups_mapped {b : BitVec 128} {inner : BitVec 32} (h : mappedV4? b = some inner) :
    ofGroups [0, 0, 0, 0, 0, 65535, inner.toNat / 65536, inner.toNat % 65536] = b := by
  unfold mappedV4? at h
  split at h
  case isTrue hffff =>
    cases h
    apply BitVec.eq_of_toNat_eq
    have hb := b.isLt
    simp only [Nat.pow_eq] at hffff
    simp only [ofGroups, List.foldl_cons, List.foldl_nil, BitVec.toNat_ofNat, Nat.pow_eq]
    omega
  case isFalse => exact nomatch h

/-! ### The run of zero groups that is written `::` -/

/-- A run of zero groups, given by where it starts and how long it is. -/
def IsZeroRun (gs : List Nat) (r : Nat × Nat) : Prop :=
  r.1 + r.2 ≤ gs.length ∧ (gs.drop r.1).take r.2 = List.replicate r.2 0

theorem isZeroRun_empty (gs : List Nat) : IsZeroRun gs (0, 0) := by
  simp [IsZeroRun]

theorem IsZeroRun.append {pre : List Nat} {r : Nat × Nat} (h : IsZeroRun pre r) (l : List Nat) :
    IsZeroRun (pre ++ l) r := by
  obtain ⟨hle, hrun⟩ := h
  refine ⟨by simp; omega, ?_⟩
  rw [List.drop_append_of_le_length (by omega), List.take_append_of_le_length (by simp; omega),
    hrun]

theorem IsZeroRun.extend {pre : List Nat} {r : Nat × Nat} (h : IsZeroRun pre r)
    (hend : r.1 + r.2 = pre.length) : IsZeroRun (pre ++ [0]) (r.1, r.2 + 1) := by
  obtain ⟨-, hrun⟩ := h
  have htail : pre.drop r.1 = List.replicate r.2 0 := by
    rw [← hrun, List.take_of_length_le (by simp; omega)]
  refine ⟨by simp; omega, ?_⟩
  rw [List.drop_append_of_le_length (by omega), htail, List.replicate_succ', List.take_of_length_le]
  simp

theorem isZeroRun_last (pre : List Nat) : IsZeroRun (pre ++ [0]) (pre.length, 1) := by
  simp [IsZeroRun]

theorem IsZeroRun.take_append_drop {gs : List Nat} {r : Nat × Nat} (h : IsZeroRun gs r) :
    gs.take r.1 ++ List.replicate r.2 0 ++ gs.drop (r.1 + r.2) = gs := by
  obtain ⟨-, hrun⟩ := h
  calc gs.take r.1 ++ List.replicate r.2 0 ++ gs.drop (r.1 + r.2)
      = gs.take r.1 ++ ((gs.drop r.1).take r.2 ++ (gs.drop r.1).drop r.2) := by
        rw [hrun, List.drop_drop, List.append_assoc]
    _ = gs := by rw [List.take_append_drop, List.take_append_drop]

/-- What the scan for the longest zero run keeps after a prefix of the groups: the best run and
the current one are zero runs of the prefix, the current one ends at the prefix's end unless it
is empty, and the index is the prefix's length. -/
def ZeroScan (pre : List Nat) (st : (Nat × Nat) × (Nat × Nat) × Nat) : Prop :=
  IsZeroRun pre st.1 ∧ IsZeroRun pre st.2.1 ∧
    (st.2.1.2 = 0 ∨ st.2.1.1 + st.2.1.2 = pre.length) ∧ st.2.2 = pre.length

theorem zeroScan_foldl
    {f : (Nat × Nat) × (Nat × Nat) × Nat → Nat → (Nat × Nat) × (Nat × Nat) × Nat}
    (hf : ∀ pre st g, ZeroScan pre st → ZeroScan (pre ++ [g]) (f st g)) :
    ∀ (l pre : List Nat) (st : (Nat × Nat) × (Nat × Nat) × Nat), ZeroScan pre st →
      ZeroScan (pre ++ l) (l.foldl f st)
  | [], pre, st, h => by simpa using h
  | g :: l, pre, st, h => by
    have := zeroScan_foldl hf l (pre ++ [g]) (f st g) (hf pre st g h)
    simpa using this

theorem isZeroRun_longestZeroRun (gs : List Nat) : IsZeroRun gs (longestZeroRun gs) := by
  unfold longestZeroRun
  refine (zeroScan_foldl ?step gs [] _
    ⟨isZeroRun_empty _, isZeroRun_empty _, Or.inl rfl, rfl⟩).1
  rintro pre ⟨best, cur, i⟩ g ⟨hbest, hcur, hends, hi⟩
  simp only at hbest hcur hends hi
  dsimp only
  split
  case isTrue hzero =>
    subst hzero
    -- the current run grows by this zero group, or starts at it
    have hcur' : IsZeroRun (pre ++ [0]) (if cur.2 = 0 then (i, 1) else (cur.1, cur.2 + 1)) ∧
        (if cur.2 = 0 then (i, 1) else (cur.1, cur.2 + 1)).1 +
          (if cur.2 = 0 then (i, 1) else (cur.1, cur.2 + 1)).2 = (pre ++ [0]).length := by
      split
      case isTrue hempty => exact ⟨hi ▸ isZeroRun_last pre, by simp [hi]⟩
      case isFalse hgrow =>
        have hend : cur.1 + cur.2 = pre.length := hends.resolve_left hgrow
        exact ⟨hcur.extend hend, by simp; omega⟩
    generalize (if cur.2 = 0 then (i, 1) else (cur.1, cur.2 + 1)) = c at hcur' ⊢
    refine ⟨?_, hcur'.1, Or.inr hcur'.2, by simp [hi]⟩
    split
    · exact hcur'.1
    · exact hbest.append _
  case isFalse =>
    exact ⟨hbest.append _, isZeroRun_empty _, Or.inl rfl, by simp [hi]⟩

end IpAddr

namespace Address

theorem digitRun_of_not_digit {radix : Nat} {cs : List Char}
    (hcs : ∀ c ∈ cs.head?, Text.digitValue radix c = none) :
    (cs.takeWhile fun c => (Text.digitValue radix c).isSome) = [] ∧
      (cs.dropWhile fun c => (Text.digitValue radix c).isSome) = cs := by
  cases cs with
  | nil => exact ⟨rfl, rfl⟩
  | cons c cs => simp [hcs c rfl]

theorem number_toDigits {radix bound n : Nat} {maxDigits : Option Nat} {zeroPrefix : Bool}
    {rest : List Char} (h2 : 2 ≤ radix) (h16 : radix ≤ 16) (hn : n < bound)
    (hlen : ∀ m ∈ maxDigits, (Nat.toDigits radix n).length ≤ m)
    (hrest : ∀ c ∈ rest.head?, Text.digitValue radix c = none) :
    number radix maxDigits zeroPrefix bound (Nat.toDigits radix n ++ rest) = some (n, rest) := by
  have hdigits : ∀ c ∈ Nat.toDigits radix n, (Text.digitValue radix c).isSome :=
    fun c hc => Text.digitValue_of_mem_toDigits h2 h16 hc
  obtain ⟨htake, hdrop⟩ := digitRun_of_not_digit hrest
  -- only zero is written with a leading zero, and zero is one digit
  have hzero : (Nat.toDigits radix n).head? = some '0' → (Nat.toDigits radix n).length ≤ 1 := by
    intro hhead
    rcases Nat.eq_zero_or_pos n with rfl | hpos
    · simp [Nat.toDigits_zero]
    · exact absurd hhead (Text.head_toDigits_ne_zero (by omega) hpos)
  unfold number
  simp only [List.takeWhile_append_of_pos hdigits, List.dropWhile_append_of_pos hdigits, htake,
    hdrop, List.append_nil]
  rw [if_neg ?short, if_neg (by simpa using fun _ => hzero), Text.digitsValue_toDigits h2 h16]
  · simp [hn]
  case short =>
    cases maxDigits with
    | none => simp
    | some m => simpa using hlen m rfl

theorem char_cons (c : Char) (rest : List Char) : char c (c :: rest) = some ((), rest) := by
  simp [char]

theorem number_of_not_digit {radix bound : Nat} {maxDigits : Option Nat} {zeroPrefix : Bool}
    {cs : List Char} (hcs : ∀ c ∈ cs.head?, Text.digitValue radix c = none) :
    number radix maxDigits zeroPrefix bound cs = none := by
  unfold number
  simp [(digitRun_of_not_digit hcs).1]

theorem octet_toDigits {n : Nat} {rest : List Char} (hn : n < 256)
    (hrest : ∀ c ∈ rest.head?, Text.digitValue 10 c = none) :
    number 10 (some 3) false 256 (Nat.toDigits 10 n ++ rest) = some (n, rest) :=
  number_toDigits (by decide) (by decide) hn
    (fun m hm => by
      cases hm
      exact (Nat.length_toDigits_le_iff (by decide) (by decide)).2 (by omega))
    hrest

theorem not_digit_cons {radix : Nat} {c : Char} (hc : Text.digitValue radix c = none)
    (l : List Char) : ∀ x ∈ (c :: l).head?, Text.digitValue radix x = none := by
  intro x hx
  simp only [List.head?_cons, Option.mem_def, Option.some.injEq] at hx
  exact hx ▸ hc

theorem ipv4_octets {a b c d : Nat} {rest : List Char} (ha : a < 256) (hb : b < 256)
    (hc : c < 256) (hd : d < 256) (hrest : ∀ x ∈ rest.head?, Text.digitValue 10 x = none) :
    ipv4 (Nat.toDigits 10 a ++ '.' :: (Nat.toDigits 10 b ++ '.' :: (Nat.toDigits 10 c ++
      '.' :: (Nat.toDigits 10 d ++ rest)))) = some (IpAddr.ofOctets a b c d, rest) := by
  have hdot : Text.digitValue 10 '.' = none := rfl
  simp only [ipv4, octet_toDigits ha (not_digit_cons hdot _),
    octet_toDigits hb (not_digit_cons hdot _), octet_toDigits hc (not_digit_cons hdot _),
    octet_toDigits hd hrest, char_cons, Option.bind_eq_bind, Option.bind_some]
  rfl

theorem ipv4_v4Text (b : BitVec 32) {rest : List Char}
    (hrest : ∀ x ∈ rest.head?, Text.digitValue 10 x = none) :
    ipv4 ((IpAddr.v4Text b).toList ++ rest) = some (b, rest) := by
  rw [IpAddr.v4Text_toList]
  simp only [List.append_assoc, List.cons_append]
  rw [ipv4_octets (Nat.mod_lt _ (by decide)) (Nat.mod_lt _ (by decide)) (Nat.mod_lt _ (by decide))
    (Nat.mod_lt _ (by decide)) hrest, IpAddr.ofOctets_octets]

theorem eq_cons_of_char {c : Char} {cs rest : List Char} (h : char c cs = some ((), rest)) :
    cs = c :: rest := by
  cases cs with
  | nil => exact nomatch h
  | cons d ds =>
    simp only [char] at h
    split at h
    case isTrue hcd =>
      cases h
      rw [hcd]
    case isFalse => exact nomatch h

theorem number_suffix {radix bound v : Nat} {maxDigits : Option Nat} {zeroPrefix : Bool}
    {cs rest : List Char} (h : number radix maxDigits zeroPrefix bound cs = some (v, rest)) :
    rest <:+ cs := by
  unfold number at h
  simp only at h
  split_ifs at h
  cases hv : Text.digitsValue radix (cs.takeWhile fun c => (Text.digitValue radix c).isSome) with
  | none => simp [hv] at h
  | some w =>
    simp only [hv] at h
    split at h
    · cases h
      exact List.dropWhile_suffix _
    · exact nomatch h

theorem dot_mem_of_ipv4 {cs : List Char} {r : BitVec 32 × List Char} (h : ipv4 cs = some r) :
    '.' ∈ cs := by
  unfold ipv4 at h
  cases h1 : number 10 (some 3) false 256 cs with
  | none => simp [h1] at h
  | some p =>
    obtain ⟨a, cs1⟩ := p
    cases h2 : char '.' cs1 with
    | none => simp [h1, h2] at h
    | some q =>
      obtain ⟨⟨⟩, cs2⟩ := q
      exact (number_suffix h1).subset ((eq_cons_of_char h2) ▸ List.mem_cons_self)

theorem separated_ipv4_of_no_dot (i : Nat) {cs : List Char} (hcs : '.' ∉ cs) :
    separated i ipv4 cs = none := by
  have hnone : ∀ l : List Char, '.' ∉ l → ipv4 l = none := by
    intro l hl
    cases hr : ipv4 l with
    | none => rfl
    | some r => exact absurd (dot_mem_of_ipv4 hr) hl
  unfold separated
  split
  · exact hnone cs hcs
  · split
    next rest hcolon =>
      exact hnone rest fun hdot => hcs ((eq_cons_of_char hcolon) ▸ List.mem_cons_of_mem _ hdot)
    next => rfl

theorem group_toDigits {g : Nat} {rest : List Char} (hg : g < 65536)
    (hrest : ∀ x ∈ rest.head?, Text.digitValue 16 x = none) :
    number 16 (some 4) true 65536 (Nat.toDigits 16 g ++ rest) = some (g, rest) :=
  number_toDigits (by decide) (by decide) hg
    (fun m hm => by
      cases hm
      exact (Nat.length_toDigits_le_iff (by decide) (by decide)).2 (by omega))
    hrest

theorem groupsUpTo_go_groupsChars : ∀ (gs : List Nat) (left i : Nat) (acc : List Nat)
    (rest : List Char), (∀ g ∈ gs, g < 65536) → gs.length ≤ left → '.' ∉ rest →
    (∀ x ∈ rest.head?, Text.digitValue 16 x = none) →
    (gs.length < left → separated (i + gs.length) (number 16 (some 4) true 65536) rest = none) →
    groupsUpTo.go left i acc (IpAddr.groupsChars (decide (i = 0)) gs ++ rest) =
      (acc.reverse ++ gs, false, rest)
  | [], left, i, acc, rest, _, _, hdot, _, hstop => by
    cases left with
    | zero => simp [groupsUpTo.go, IpAddr.groupsChars]
    | succ l =>
      have hv4 : (if l ≥ 1 then separated i ipv4 rest else none) = none := by
        split
        · exact separated_ipv4_of_no_dot i hdot
        · rfl
      have hnone : separated i (number 16 (some 4) true 65536) rest = none := by
        simpa using hstop (by simp)
      simp only [IpAddr.groupsChars, List.nil_append, groupsUpTo.go]
      rw [hv4, hnone]
      simp
  | g :: gs, left, i, acc, rest, hlt, hlen, hdot, hrest, hstop => by
    obtain ⟨l, rfl⟩ : ∃ l, left = l + 1 := ⟨left - 1, by simp at hlen; omega⟩
    have hnodot : '.' ∉ IpAddr.groupsChars (decide (i = 0)) (g :: gs) ++ rest := by
      simp [IpAddr.dot_not_mem_groupsChars, hdot]
    have hnext : ∀ x ∈ (IpAddr.groupsChars false gs ++ rest).head?,
        Text.digitValue 16 x = none := by
      cases gs with
      | nil => simpa [IpAddr.groupsChars] using hrest
      | cons g' gs' =>
        simp only [IpAddr.groupsChars, Bool.false_eq_true, if_false, List.cons_append]
        exact not_digit_cons rfl _
    have hgroup : separated i (number 16 (some 4) true 65536)
        (IpAddr.groupsChars (decide (i = 0)) (g :: gs) ++ rest) =
          some (g, IpAddr.groupsChars false gs ++ rest) := by
      have hread := group_toDigits (hlt g List.mem_cons_self) hnext
      unfold separated
      by_cases hi : i = 0
      · simpa [hi, IpAddr.groupsChars] using hread
      · simpa [hi, IpAddr.groupsChars, char_cons] using hread
    have ih := groupsUpTo_go_groupsChars gs l (i + 1) (g :: acc) rest
      (fun g' hg' => hlt g' (List.mem_cons_of_mem g hg')) (by simp at hlen; omega) hdot hrest
      (fun hshort => by
        have := hstop (by simp; omega)
        simpa [Nat.add_assoc, Nat.add_comm 1] using this)
    simp only [Nat.add_eq_zero_iff, one_ne_zero, and_false, decide_false] at ih
    simp only [groupsUpTo.go]
    rw [show (if l ≥ 1 then separated i ipv4 _ else none) = none by
      split
      · exact separated_ipv4_of_no_dot i hnodot
      · rfl]
    simp only [hgroup, ih]
    simp

theorem ipv4_of_not_digit {cs : List Char} (hcs : ∀ x ∈ cs.head?, Text.digitValue 10 x = none) :
    ipv4 cs = none := by
  simp [ipv4, number_of_not_digit hcs]

theorem separated_group_colons (i : Nat) (cs : List Char) :
    separated i (number 16 (some 4) true 65536) (':' :: ':' :: cs) = none := by
  have hcolon : Text.digitValue 16 ':' = none := rfl
  unfold separated
  split
  · exact number_of_not_digit (not_digit_cons hcolon _)
  · simp only [char_cons]
    exact number_of_not_digit (not_digit_cons hcolon _)

theorem separated_group_stop (i : Nat) {cs : List Char}
    (hcs : ∀ x ∈ cs.head?, Text.digitValue 16 x = none ∧ x ≠ ':') :
    separated i (number 16 (some 4) true 65536) cs = none := by
  unfold separated
  split
  · exact number_of_not_digit fun x hx => (hcs x hx).1
  · cases cs with
    | nil => rfl
    | cons c cs => simp [char, Ne.symm (hcs c rfl).2]

theorem groupsUpTo_groupsChars {gs : List Nat} {limit : Nat} {rest : List Char}
    (hlt : ∀ g ∈ gs, g < 65536) (hlen : gs.length ≤ limit) (hdot : '.' ∉ rest)
    (hrest : ∀ x ∈ rest.head?, Text.digitValue 16 x = none)
    (hstop : gs.length < limit →
      separated gs.length (number 16 (some 4) true 65536) rest = none) :
    groupsUpTo limit (IpAddr.groupsChars true gs ++ rest) = (gs, false, rest) := by
  have := groupsUpTo_go_groupsChars gs limit 0 [] rest hlt hlen hdot hrest
    (fun h => by simpa using hstop h)
  simpa [groupsUpTo] using this

theorem ipv6_full {gs : List Nat} {rest : List Char} (hlen : gs.length = 8)
    (hlt : ∀ g ∈ gs, g < 65536) (hdot : '.' ∉ rest)
    (hrest : ∀ x ∈ rest.head?, Text.digitValue 16 x = none) :
    ipv6 (IpAddr.groupsChars true gs ++ rest) = some (IpAddr.ofGroups gs, rest) := by
  have hgroups := groupsUpTo_groupsChars hlt hlen.le hdot hrest (fun h => by omega)
  simp [ipv6, hgroups, hlen]

theorem ipv6_compressed {head tail : List Nat} {rest : List Char}
    (hshort : head.length + tail.length ≤ 6) (hhead : ∀ g ∈ head, g < 65536)
    (htail : ∀ g ∈ tail, g < 65536) (hdot : '.' ∉ rest)
    (hrest : ∀ x ∈ rest.head?, Text.digitValue 16 x = none ∧ x ≠ ':') :
    ipv6 (IpAddr.groupsChars true head ++ ':' :: ':' :: (IpAddr.groupsChars true tail ++ rest)) =
      some (IpAddr.ofGroups (head ++ List.replicate (8 - head.length - tail.length) 0 ++ tail),
        rest) := by
  have hcolonDot : '.' ∉ ':' :: ':' :: (IpAddr.groupsChars true tail ++ rest) := by
    simp [IpAddr.dot_not_mem_groupsChars, hdot]
  have hfirst : groupsUpTo 8 (IpAddr.groupsChars true head ++
      ':' :: ':' :: (IpAddr.groupsChars true tail ++ rest)) =
        (head, false, ':' :: ':' :: (IpAddr.groupsChars true tail ++ rest)) :=
    groupsUpTo_groupsChars hhead (by omega) hcolonDot (not_digit_cons rfl _)
      (fun _ => separated_group_colons _ _)
  have hsecond : groupsUpTo (7 - head.length) (IpAddr.groupsChars true tail ++ rest) =
      (tail, false, rest) :=
    groupsUpTo_groupsChars htail (by omega) hdot (fun x hx => (hrest x hx).1)
      (fun _ => separated_group_stop _ hrest)
  simp [ipv6, hfirst, hsecond, char_cons, show head.length ≠ 8 by omega]

theorem separated_zero {α : Type} (item : Reader α) (cs : List Char) :
    separated 0 item cs = item cs := rfl

theorem separated_succ_colon {α : Type} (i : Nat) (item : Reader α) (cs : List Char) :
    separated (i + 1) item (':' :: cs) = item cs := by
  simp [separated, char_cons]

theorem ipv6_mapped (inner : BitVec 32) {rest : List Char}
    (hrest : ∀ x ∈ rest.head?, Text.digitValue 10 x = none) :
    ipv6 (':' :: ':' :: (Nat.toDigits 16 65535 ++ ':' :: ((IpAddr.v4Text inner).toList ++ rest))) =
      some (IpAddr.ofGroups [0, 0, 0, 0, 0, 65535, inner.toNat / 65536, inner.toNat % 65536],
        rest) := by
  have hcolon10 : Text.digitValue 10 ':' = none := rfl
  have hcolon16 : Text.digitValue 16 ':' = none := rfl
  have hf10 : Text.digitValue 10 'f' = none := rfl
  have hffff : Nat.toDigits 16 65535 = ['f', 'f', 'f', 'f'] := by decide
  have hfirst : groupsUpTo 8 (':' :: ':' :: (Nat.toDigits 16 65535 ++
      ':' :: ((IpAddr.v4Text inner).toList ++ rest))) =
        ([], false, ':' :: ':' :: (Nat.toDigits 16 65535 ++
          ':' :: ((IpAddr.v4Text inner).toList ++ rest))) := by
    rw [groupsUpTo, groupsUpTo.go]
    simp only [show (7 : Nat) ≥ 1 from by decide, if_true, separated_zero,
      ipv4_of_not_digit (not_digit_cons hcolon10 _)]
    rfl
  have hsecond : groupsUpTo 7 (Nat.toDigits 16 65535 ++
      ':' :: ((IpAddr.v4Text inner).toList ++ rest)) =
        ([65535, inner.toNat / 65536, inner.toNat % 65536], true, rest) := by
    have hnot : ipv4 (Nat.toDigits 16 65535 ++ ':' :: ((IpAddr.v4Text inner).toList ++ rest)) =
        none := by
      rw [hffff]
      exact ipv4_of_not_digit (not_digit_cons hf10 _)
    rw [groupsUpTo, groupsUpTo.go]
    simp only [show (6 : Nat) ≥ 1 from by decide, if_true, separated_zero, hnot,
      group_toDigits (by decide : 65535 < 65536) (not_digit_cons hcolon16 _)]
    rw [groupsUpTo.go]
    simp only [show (5 : Nat) ≥ 1 from by decide, if_true, separated_succ_colon,
      ipv4_v4Text inner hrest]
    rfl
  simp [ipv6, hfirst, char_cons, hsecond]

theorem ipv6_v6Text (b : BitVec 128) {rest : List Char} (hdot : '.' ∉ rest)
    (hrest : ∀ x ∈ rest.head?, Text.digitValue 16 x = none ∧ x ≠ ':') :
    ipv6 ((IpAddr.v6Text b).toList ++ rest) = some (b, rest) := by
  unfold IpAddr.v6Text
  rcases hmapped : IpAddr.mappedV4? b with _ | inner
  case some =>
    have hrest10 : ∀ x ∈ rest.head?, Text.digitValue 10 x = none :=
      fun x hx => Text.digitValue_eq_none_of_le (by decide) (hrest x hx).1
    have hprefix : "::ffff:".toList = ':' :: ':' :: (Nat.toDigits 16 65535 ++ [':']) := by
      decide
    simp only [String.toList_append, hprefix, List.cons_append, List.append_assoc,
      List.nil_append]
    rw [ipv6_mapped inner hrest10, IpAddr.ofGroups_mapped hmapped]
  case none =>
    have hrun := IpAddr.isZeroRun_longestZeroRun (IpAddr.groups b)
    have hlt := IpAddr.groups_lt b
    have hlen := IpAddr.length_groups b
    dsimp only
    generalize IpAddr.longestZeroRun (IpAddr.groups b) = r at hrun ⊢
    obtain ⟨start, len⟩ := r
    split
    case isTrue hlong =>
      have hsum : start + len ≤ 8 := hlen ▸ hrun.1
      have hcut := hrun.take_append_drop
      simp only [String.toList_append, IpAddr.groupsText_toList, List.append_assoc,
        show "::".toList = [':', ':'] from rfl, List.cons_append, List.nil_append]
      rw [ipv6_compressed (by simp; omega) (fun g hg => hlt g (List.mem_of_mem_take hg))
        (fun g hg => hlt g (List.mem_of_mem_drop hg)) hdot hrest]
      have hzeros : 8 - (List.take start (IpAddr.groups b)).length -
          (List.drop (start + len) (IpAddr.groups b)).length = len := by
        simp; omega
      rw [hzeros, hcut, IpAddr.ofGroups_groups]
    case isFalse =>
      rw [IpAddr.groupsText_toList, ipv6_full hlen hlt hdot (fun x hx => (hrest x hx).1),
        IpAddr.ofGroups_groups]

theorem port_toDigits {p : Nat} {rest : List Char} (hp : p < 65536)
    (hrest : ∀ x ∈ rest.head?, Text.digitValue 10 x = none) :
    port (':' :: (Nat.toDigits 10 p ++ rest)) = some (p, rest) := by
  simp only [port, char_cons, Option.bind_eq_bind, Option.bind_some]
  exact number_toDigits (by decide) (by decide) hp (fun m hm => nomatch hm) hrest

theorem socket_toText (a : SocketAddr) (hscope : a.ip.isV6 = true ∨ a.scope = 0) :
    socket a.toText.toList = some (a, []) := by
  obtain ⟨ip, p, scope⟩ := a
  have hport : port (':' :: Nat.toDigits 10 p.toNat) = some (p.toNat, []) := by
    simpa using @port_toDigits p.toNat [] (UInt16.toNat_lt_size p) (fun x hx => nomatch hx)
  cases ip with
  | v4 b =>
    have hzero : scope = 0 := by simpa [IpAddr.isV6] using hscope
    subst hzero
    have hcolon10 : Text.digitValue 10 ':' = none := rfl
    simp [SocketAddr.toText, socket, ipv4_v4Text b (not_digit_cons hcolon10 _), hport]
  | v6 b =>
    have hdecimal : ∀ n, '.' ∉ Nat.toDigits 10 n :=
      Text.dot_not_mem_toDigits (by decide) (by decide)
    have hbracket10 : Text.digitValue 10 '[' = none := rfl
    have hv4 : ∀ l, ipv4 ('[' :: l) = none :=
      fun l => ipv4_of_not_digit (not_digit_cons hbracket10 l)
    have hclose : ∀ x ∈ (']' :: ':' :: Nat.toDigits 10 p.toNat).head?,
        Text.digitValue 16 x = none ∧ x ≠ ':' := by
      simp
      decide
    by_cases hs : scope = 0
    · subst hs
      have hv6 := ipv6_v6Text b (by simp [hdecimal]) hclose
      simp [SocketAddr.toText, socket, hv4, hv6, char, hport]
    · have hscopeRead : number 10 none true (Nat.pow 2 32) (Nat.toDigits 10 scope.toNat ++
          ']' :: ':' :: Nat.toDigits 10 p.toNat) =
            some (scope.toNat, ']' :: ':' :: Nat.toDigits 10 p.toNat) :=
        number_toDigits (by decide) (by decide) (UInt32.toNat_lt_size scope)
          (fun m hm => nomatch hm) (not_digit_cons rfl _)
      have hv6 := @ipv6_v6Text b
        ('%' :: (Nat.toDigits 10 scope.toNat ++ ']' :: ':' :: Nat.toDigits 10 p.toNat))
        (by simp [hdecimal]) (by simp; decide)
      simp [SocketAddr.toText, socket, hv4, hv6, char, hport, hs, hscopeRead]

end Address

/-- The text of a socket address reads back as the address; an IPv4 one has no scope. -/
theorem SocketAddr.parse?_toText (a : SocketAddr) (hscope : a.ip.isV6 = true ∨ a.scope = 0) :
    SocketAddr.parse? a.toText = some a := by
  simp [SocketAddr.parse?, Address.whole, Address.socket_toText a hscope]

end SplitDns
