import Mathlib
import SplitDns.Exchange
/-!
# Running the message reader

A decoder is run over a message from a position (`Decoder.runAt`). Its steps compose through
two equations, one for a step that succeeds and one for a step that fails
(`runAt_bind_ok`, `runAt_bind_error`); the primitive reads are given by what they read
(`runAt_pop`, `runAt_slice`, `runAt_u16`).

`Decoder.Yields d P` says that every value `d` gives, from any message and position, has
property `P`. It is kept by sequencing (`Yields.bind`) and by either branch of a test, so the
readers of the message inherit the ranges of their fixed-width fields: a header's response code
has four bits, a record's type sixteen and its TTL thirty-two (`ResourceRecord.read_yields`).
A decoded message therefore carries a response code of at most twelve bits, and answer records
whose type and TTL fit their fields (`Message.decode_ranges`).
-/

namespace SplitDns
namespace Decoder

variable {α β : Type}

/-! ## Running a decoder -/

theorem runAt_bind_ok {d : Decoder α} {f : α → Decoder β} {bs : ByteArray} {p q : Nat} {a : α}
    (h : d.runAt bs p = .ok (a, q)) : (d >>= f).runAt bs p = (f a).runAt bs q := by
  show (d bs p).bind (fun x => f x.1 bs x.2) = f a bs q
  rw [show d bs p = .ok (a, q) from h]
  rfl

theorem runAt_bind_error {d : Decoder α} {f : α → Decoder β} {bs : ByteArray} {p : Nat}
    {e : WireError × Nat} (h : d.runAt bs p = .error e) : (d >>= f).runAt bs p = .error e := by
  show (d bs p).bind (fun x => f x.1 bs x.2) = .error e
  rw [show d bs p = .error e from h]
  rfl

theorem runAt_bind_eq_ok {d : Decoder α} {f : α → Decoder β} {bs : ByteArray} {p r : Nat}
    {b : β} : (d >>= f).runAt bs p = .ok (b, r) ↔
      ∃ a q, d.runAt bs p = .ok (a, q) ∧ (f a).runAt bs q = .ok (b, r) := by
  constructor
  · intro h
    cases hd : d.runAt bs p with
    | error e => rw [runAt_bind_error hd] at h; exact nomatch h
    | ok aq =>
      obtain ⟨a, q⟩ := aq
      exact ⟨a, q, rfl, by rwa [runAt_bind_ok hd] at h⟩
  · rintro ⟨a, q, hd, hf⟩
    rwa [runAt_bind_ok hd]

theorem runAt_pure (a : α) (bs : ByteArray) (p : Nat) :
    (pure a : Decoder α).runAt bs p = .ok (a, p) := rfl

theorem runAt_pop (bs : ByteArray) (p : Nat) :
    pop.runAt bs p = if h : p < bs.size then .ok (bs[p], p + 1) else .error (.endOfInput, p) := by
  -- `pop` tests the position inside the decoder; the test is moved out of the run
  by_cases h : p < bs.size
  · rw [dif_pos h]
    show (if h : p < bs.size then (_ : Decoder UInt8) else _) bs p = _
    rw [dif_pos h]
    rfl
  · rw [dif_neg h]
    show (if h : p < bs.size then (_ : Decoder UInt8) else _) bs p = _
    rw [dif_neg h]
    rfl

theorem runAt_slice (n : Nat) (bs : ByteArray) (p : Nat) :
    (slice n).runAt bs p = if p + n ≤ bs.size then
      .ok ((bs.extract p (p + n)).data.toList, p + n) else .error (.endOfInput, p) := by
  by_cases h : p + n ≤ bs.size
  · rw [if_pos h]
    show (if p + n ≤ bs.size then (_ : Decoder (List UInt8)) else _) bs p = _
    rw [if_pos h]
    rfl
  · rw [if_neg h]
    show (if p + n ≤ bs.size then (_ : Decoder (List UInt8)) else _) bs p = _
    rw [if_neg h]
    rfl

theorem runAt_u16 (bs : ByteArray) (p : Nat) :
    u16.runAt bs p = if p + 2 ≤ bs.size then
      .ok (beValue (bs.extract p (p + 2)).data.toList, p + 2) else .error (.endOfInput, p) := by
  by_cases h : p + 2 ≤ bs.size
  · rw [if_pos h]
    exact runAt_bind_ok ((runAt_slice 2 bs p).trans (if_pos h))
  · rw [if_neg h]
    exact runAt_bind_error ((runAt_slice 2 bs p).trans (if_neg h))

theorem length_slice {n : Nat} {bs : ByteArray} {p q : Nat} {l : List UInt8}
    (h : (slice n).runAt bs p = .ok (l, q)) : l.length = n := by
  rw [runAt_slice] at h
  split at h
  case isTrue hle =>
    cases h
    simp
    omega
  case isFalse => exact nomatch h

theorem beValue_lt (l : List UInt8) : beValue l < 256 ^ l.length := by
  -- the value so far, times 256 per octet still to come, stays below the full bound
  suffices h : ∀ acc : Nat, l.foldl (fun acc b => acc * 256 + b.toNat) acc < (acc + 1) * 256 ^ l.length by
    simpa [beValue] using h 0
  induction l with
  | nil => intro acc; simp
  | cons b l ih =>
    intro acc
    have hb : b.toNat < 256 := b.toNat_lt
    calc List.foldl (fun acc b => acc * 256 + b.toNat) acc (b :: l)
        = l.foldl (fun acc b => acc * 256 + b.toNat) (acc * 256 + b.toNat) := rfl
      _ < (acc * 256 + b.toNat + 1) * 256 ^ l.length := ih _
      _ ≤ (acc + 1) * 256 * 256 ^ l.length := by
        apply Nat.mul_le_mul_right
        omega
      _ = (acc + 1) * 256 ^ (b :: l).length := by
        rw [List.length_cons, Nat.pow_succ]
        ring

/-! ## What a decoder gives -/

/-- Every value the decoder gives, from any message and position, has property `P`. -/
def Yields (d : Decoder α) (P : α → Prop) : Prop :=
  ∀ bs p a q, d.runAt bs p = .ok (a, q) → P a

theorem Yields.bind {d : Decoder α} {f : α → Decoder β} {Q : α → Prop} {P : β → Prop}
    (hd : d.Yields Q) (hf : ∀ a, Q a → (f a).Yields P) : (d >>= f).Yields P := by
  intro bs p b r h
  obtain ⟨a, q, hda, hfa⟩ := runAt_bind_eq_ok.1 h
  exact hf a (hd bs p a q hda) bs q b r hfa

theorem Yields.pure {P : α → Prop} {a : α} (h : P a) : (Pure.pure a : Decoder α).Yields P := by
  intro bs p b q hb
  cases hb
  exact h

theorem yields_fail {P : α → Prop} (e : WireError) : (fail e : Decoder α).Yields P := by
  intro bs p b q hb
  exact nomatch hb

theorem yields_true (d : Decoder α) : d.Yields fun _ => True := fun _ _ _ _ _ => trivial

theorem Yields.mono {d : Decoder α} {P Q : α → Prop} (hd : d.Yields P) (h : ∀ a, P a → Q a) :
    d.Yields Q := fun bs p a q hrun => h a (hd bs p a q hrun)

theorem beRead_yields (n : Nat) :
    (slice n >>= fun l => pure (beValue l) : Decoder Nat).Yields (· < 256 ^ n) := by
  intro bs p v q h
  obtain ⟨l, q', hl, hv⟩ := runAt_bind_eq_ok.1 h
  cases hv
  have := beValue_lt l
  rwa [length_slice hl] at this

theorem u16_yields : u16.Yields (· < 65536) := beRead_yields 2

theorem u32_yields : u32.Yields (· < 2 ^ 32) := beRead_yields 4

end Decoder

open Decoder

/-! ## The fields of a message keep their widths -/

theorem Header.read_yields : Header.read.Yields (·.rcode < 16) := by
  unfold Header.read
  refine Yields.bind (yields_true _) fun _ _ => ?_
  refine Yields.bind (yields_true _) fun b1 _ => ?_
  dsimp only
  split
  · exact yields_fail _
  · refine Yields.bind (yields_true _) fun b2 _ => ?_
    refine Yields.bind (yields_true _) fun _ _ => ?_
    refine Yields.bind (yields_true _) fun _ _ => ?_
    refine Yields.bind (yields_true _) fun _ _ => ?_
    refine Yields.bind (yields_true _) fun _ _ => ?_
    exact Yields.pure (Nat.lt_of_le_of_lt Nat.and_le_right (by decide))

theorem ResourceRecord.read_yields :
    ResourceRecord.read.Yields fun r => r.type < 65536 ∧ r.ttl < 2 ^ 32 := by
  unfold ResourceRecord.read
  refine Yields.bind (yields_true _) fun _ _ => ?_
  refine Yields.bind u16_yields fun type htype => ?_
  split
  · exact yields_fail _
  · refine Yields.bind (yields_true _) fun _ _ => ?_
    dsimp only
    refine Yields.bind u32_yields fun ttl httl => ?_
    refine Yields.bind (yields_true _) fun len _ => ?_
    refine Yields.bind (yields_true _) fun left _ => ?_
    have hfields := And.intro htype httl
    split
    · exact yields_fail _
    split
    · exact Yields.pure hfields
    split
    · exact yields_fail _
    refine Yields.bind (yields_true _) fun _ _ => ?_
    refine Yields.bind (yields_true _) fun _ _ => ?_
    split
    · refine Yields.bind (yields_true _) fun _ _ => ?_
      split
      · exact yields_fail _
      · exact Yields.pure hfields
    · refine Yields.bind (yields_true _) fun _ _ => ?_
      split
      · exact yields_fail _
      · exact yields_fail _

namespace Message

theorem readMany_yields {α : Type} {d : Decoder α} {P : α → Prop} (hd : d.Yields P) :
    ∀ n, (readMany d n).Yields fun xs => ∀ x ∈ xs, P x
  | 0 => Yields.pure (by simp)
  | n + 1 => by
    refine Yields.bind hd fun x hx => ?_
    refine Yields.bind (readMany_yields hd n) fun rest hrest => ?_
    exact Yields.pure (List.forall_mem_cons.2 ⟨hx, hrest⟩)

theorem readAdditional_yields :
    ∀ n (edns : Option Edns) (acc : List ResourceRecord), (∀ x ∈ edns, x.rcodeHigh < 256) →
      (readAdditional n edns acc).Yields fun res => ∀ x ∈ res.2, x.rcodeHigh < 256
  | 0, edns, acc, h => Yields.pure h
  | n + 1, edns, acc, h => by
    refine Yields.bind (yields_true _) fun r _ => ?_
    split
    · split
      · exact yields_fail _
      · refine readAdditional_yields n _ acc fun x hx => ?_
        cases hx
        exact Nat.mod_lt _ (by decide)
    · exact readAdditional_yields n edns _ h

theorem readBody_yields {h : Header} (hrcode : h.rcode < 16) :
    (readBody h).Yields fun m =>
      m.header.rcode < 4096 ∧ ∀ r ∈ m.answers, r.type < 65536 ∧ r.ttl < 2 ^ 32 := by
  unfold readBody
  refine Yields.bind (yields_true _) fun _ _ => ?_
  refine Yields.bind (readMany_yields ResourceRecord.read_yields _) fun answers hanswers => ?_
  refine Yields.bind (yields_true _) fun _ _ => ?_
  refine Yields.bind (readAdditional_yields _ none [] (by simp)) fun res hres => ?_
  refine Yields.pure ⟨?_, hanswers⟩
  cases hx : res.2 with
  | none => simpa [hx] using Nat.lt_of_lt_of_le hrcode (by decide)
  | some x =>
    have hhigh : x.rcodeHigh < 256 := hres x (by simp [hx])
    show x.rcodeHigh * 16 + h.rcode % 16 < 4096
    omega

theorem decode_ranges {bs : ByteArray} {m : Message} (h : decode bs = .ok m) :
    m.header.rcode < 4096 ∧ ∀ r ∈ m.answers, r.type < 65536 ∧ r.ttl < 2 ^ 32 := by
  unfold decode at h
  cases hrun : read.runAt bs 0 with
  | error e => rw [hrun] at h; exact nomatch h
  | ok mq =>
    obtain ⟨m', q⟩ := mq
    rw [hrun] at h
    cases h
    exact (Header.read_yields.bind fun _ hh => readBody_yields hh) bs 0 _ q hrun

end Message

end SplitDns
