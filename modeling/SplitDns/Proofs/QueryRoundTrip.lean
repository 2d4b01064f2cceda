import Mathlib
import SplitDns.Proofs.WireReading
import SplitDns.Proofs.WireWriting
/-!
# Queries read back

The message reader reads back what the query writer writes (`Query.message_roundTrip`). Its
readers are run on octets laid out from a position (`Decoder.runAt_u16_of_drop`,
`Decoder.runAt_name_of_drop`): a header whose fields fit reads back from its twelve octets
(`Header.read_of_drop`), and a name written out in full reads back with its labels, absolute,
while it is under 255 counted octets; so does a question (`Question.read_of_drop`), and so does a
message of one question (`Message.decode_of_octets`).

Every label of a name read from text has 1 to 63 octets (`Name.ofText_labels`), and a name with
labels is counted as long as it is on the wire without its root octet
(`Name.countedLength_eq_length_labelOctets`). A name text may give a name of 255 counted octets:
it takes 256 octets on the wire, over the writer's limit, and its query is refused
(`Query.message_refuses_full_name`).
-/

namespace SplitDns

namespace Name

theorem labelOctets_append (xs ys : List Label) :
    labelOctets (xs ++ ys) = labelOctets xs ++ labelOctets ys := List.flatMap_append

theorem countedLength_eq_length_labelOctets {ls : List Label} (h : ls ≠ []) :
    countedLength ls = (labelOctets ls).length := by
  -- the fold adds up the label octets; `ls.length` counts their length octets
  have hfold : ∀ (ls : List Label) (a : Nat),
      ls.foldl (fun n l => n + l.length) a + ls.length = a + (labelOctets ls).length := by
    intro ls
    induction ls with
    | nil => intro a; rfl
    | cons l ls ih =>
      intro a
      have := ih (a + l.length)
      simp only [List.foldl_cons, List.length_cons, labelOctets_cons, List.length_append]
      omega
  have := hfold ls 0
  simp only [countedLength, List.isEmpty_iff, h, if_false]
  omega

theorem length_labelOctets_le (ls : List Label) : (labelOctets ls).length ≤ countedLength ls := by
  rcases ls with _ | ⟨l, ls⟩
  · simp [labelOctets_nil]
  · rw [countedLength_eq_length_labelOctets (List.cons_ne_nil l ls)]

/-! ### The labels of a name read from text -/

theorem length_labelOfString (s : String) : (labelOfString s).length = s.utf8ByteSize := by
  simp [labelOfString, ← String.size_toByteArray]

theorem asciiLabel_ok {s : String} {l : Label} (h : asciiLabel s = .ok l) :
    l = labelOfString s ∧ s ≠ "" ∧ s.utf8ByteSize ≤ 63 := by
  unfold asciiLabel at h
  split at h
  · exact nomatch h
  rename_i hsize
  split at h
  · cases h
    exact ⟨rfl, by simp_all, by omega⟩
  · dsimp only at h
    have hne : s ≠ "" := by
      rintro rfl
      simp at h
    refine ⟨?_, hne, by omega⟩
    split at h
    · simp at h
    · split at h
      · cases h
        rfl
      · exact nomatch h

theorem asciiLabel_fits {s : String} {l : Label} (h : asciiLabel s = .ok l) :
    0 < l.length ∧ l.length ≤ 63 := by
  obtain ⟨rfl, hne, hsize⟩ := asciiLabel_ok h
  have hpos : s.utf8ByteSize ≠ 0 := fun h0 => hne (String.utf8ByteSize_eq_zero_iff.1 h0)
  rw [length_labelOfString]
  omega

theorem mappedLabel_ascii {s : String} {l : Label} (h : mappedLabel s = .ok l) :
    ∃ t, asciiLabel t = .ok l := by
  unfold mappedLabel at h
  split at h
  · exact ⟨s, h⟩
  · split at h
    · exact ⟨_, h⟩
    · exact nomatch h

theorem extend_ok {acc : List Label} {l : Label} {next : List Label} (h : extend acc l = .ok next) :
    next = acc ++ [l] := by
  unfold extend at h
  dsimp only at h
  split at h
  · exact nomatch h
  · cases h
    rfl

section Labels

variable {conv : String → Except TextError Label} {P : Label → Prop}

theorem foldlM_extend_labels (hconv : ∀ t l, conv t = .ok l → P l) :
    ∀ (texts : List String) (acc res : List Label), (∀ l ∈ acc, P l) →
      texts.foldlM (fun acc t => do extend acc (← conv t)) acc = .ok res → ∀ l ∈ res, P l
  | [], acc, res, hacc, h => by
    cases h
    exact hacc
  | t :: ts, acc, res, hacc, h => by
    rw [List.foldlM_cons] at h
    cases hc : conv t with
    | error e => simp [hc, bind, Except.bind] at h
    | ok l =>
      cases hx : extend acc l with
      | error e => simp [hc, hx, bind, Except.bind] at h
      | ok next =>
        simp only [hc, hx, bind, Except.bind] at h
        rw [extend_ok hx] at h
        refine foldlM_extend_labels hconv ts _ res (fun l' hl' => ?_) h
        rcases List.mem_append.1 hl' with hold | hnew
        · exact hacc l' hold
        · rw [List.mem_singleton.1 hnew]
          exact hconv t l hc

theorem ofTextWith_labels (hconv : ∀ t l, conv t = .ok l → P l) {s : String} {n : Name}
    (h : ofTextWith conv s = .ok n) : ∀ l ∈ n.labels, P l := by
  unfold ofTextWith at h
  split at h
  · cases h
    simp [root]
  · rcases hsplit : splitText s with ⟨texts, err, endsWithDot⟩
    rw [hsplit] at h
    dsimp only at h
    cases hf : texts.foldlM (fun acc t => do extend acc (← conv t)) [] with
    | error e =>
      rw [hf] at h
      exact nomatch h
    | ok labels =>
      rw [hf] at h
      cases err with
      | some e => exact nomatch h
      | none =>
        cases h
        exact foldlM_extend_labels hconv texts [] labels (by simp) hf

end Labels

theorem ofText_labels {s : String} {n : Name} (h : ofText s = .ok n) :
    ∀ l ∈ n.labels, 0 < l.length ∧ l.length ≤ 63 := by
  unfold ofText at h
  split at h
  next hmapped =>
    cases h
    exact ofTextWith_labels (fun _ _ ht => (mappedLabel_ascii ht).elim fun _ h' => asciiLabel_fits h')
      hmapped
  next => exact ofTextWith_labels (fun _ _ ht => asciiLabel_fits ht) h

end Name

namespace Decoder

/-! ## Reading octets laid out from a position -/

variable {bs : ByteArray} {p : Nat} {rest : List UInt8}

theorem drop_advance {l : List UInt8} (hd : bs.data.toList.drop p = l ++ rest) :
    bs.data.toList.drop (p + l.length) = rest := by
  rw [← List.drop_drop, hd, List.drop_left]

theorem drop_advance_cons {x : UInt8} (hd : bs.data.toList.drop p = x :: rest) :
    bs.data.toList.drop (p + 1) = rest :=
  drop_advance (show bs.data.toList.drop p = [x] ++ rest from hd)

theorem lt_size_of_drop {x : UInt8} (hd : bs.data.toList.drop p = x :: rest) : p < bs.size := by
  have hlen := congrArg List.length hd
  rw [List.length_drop, Array.length_toList, ByteArray.size_data, List.length_cons] at hlen
  omega

theorem le_size_of_drop {l : List UInt8} (hd : bs.data.toList.drop p = l ++ rest) :
    p + l.length ≤ bs.size ∨ l = [] := by
  have hlen := congrArg List.length hd
  rw [List.length_drop, Array.length_toList, ByteArray.size_data, List.length_append] at hlen
  rcases l with _ | ⟨x, l⟩
  · exact Or.inr rfl
  · left
    simp only [List.length_cons] at hlen ⊢
    omega

theorem extract_of_drop {l : List UInt8} (hd : bs.data.toList.drop p = l ++ rest) :
    (bs.extract p (p + l.length)).data.toList = l := by
  simp [ByteArray.data_extract, hd]

theorem getElem_of_drop {x : UInt8} (hd : bs.data.toList.drop p = x :: rest) (hp : p < bs.size) :
    bs[p] = x := by
  have h0 : (bs.data.toList.drop p)[0]? = some x := by rw [hd]; rfl
  rw [List.getElem?_drop, Nat.add_zero, List.getElem?_eq_getElem (by simpa using hp)] at h0
  rw [ByteArray.getElem_eq_getElem_data, ← Array.getElem_toList]
  exact Option.some.inj h0

theorem runAt_pop_of_drop {x : UInt8} (hd : bs.data.toList.drop p = x :: rest) :
    pop.runAt bs p = .ok (x, p + 1) := by
  have hp := lt_size_of_drop hd
  rw [runAt_pop, dif_pos hp, getElem_of_drop hd hp]

theorem beValue_be16 {v : Nat} (hv : v < 65536) : beValue (Encoder.be16 v) = v := by
  simp [beValue, Encoder.be16, Nat.toUInt8, UInt8.toNat_ofNat']
  omega

theorem runAt_u16_of_drop {v : Nat} (hd : bs.data.toList.drop p = Encoder.be16 v ++ rest)
    (hv : v < 65536) : u16.runAt bs p = .ok (v, p + 2) := by
  have hsize := (le_size_of_drop hd).resolve_right (by simp [Encoder.be16])
  have hread := extract_of_drop hd
  rw [show (Encoder.be16 v).length = 2 from rfl] at hsize hread
  rw [runAt_u16, if_pos hsize, hread]
  exact congrArg (fun x => Except.ok (x, p + 2)) (beValue_be16 hv)

theorem nameLabels_of_drop (start : Nat) : ∀ (ls acc : List Label) (p : Nat),
    bs.data.toList.drop p = Name.labelOctets ls ++ 0 :: rest →
    (∀ l ∈ ls, 0 < l.length ∧ l.length ≤ 63) → Name.countedLength (acc ++ ls) ≤ 255 →
    nameLabels bs start p none acc = .ok (acc ++ ls, p + (Name.labelOctets ls).length + 1)
  | [], acc, p, hd, _, _ => by
    rw [Name.labelOctets_nil, List.nil_append] at hd
    have hp := lt_size_of_drop hd
    rw [nameLabels]
    simp [hp, getElem_of_drop hd hp, Name.labelOctets_nil]
  | l :: ls, acc, p, hd, hlabels, hlen => by
    obtain ⟨hpos, hle⟩ := hlabels l List.mem_cons_self
    rw [Name.labelOctets_cons] at hd
    have hlength : bs.data.toList.drop p = l.length.toUInt8 :: (l ++ Name.labelOctets ls ++ 0 :: rest) := by
      rw [hd]
      simp
    have hp := lt_size_of_drop hlength
    have hoctet : bs[p].toNat = l.length := by
      rw [getElem_of_drop hlength hp, Nat.toUInt8, UInt8.toNat_ofNat']
      omega
    have hcode : l.length &&& 0xC0 = 0 := by
      have hsmall : ∀ b : Fin 64, (b : Nat) &&& 0xC0 = 0 := by decide
      exact hsmall ⟨l.length, by omega⟩
    have hlabelAt : bs.data.toList.drop (p + 1) = l ++ (Name.labelOctets ls ++ 0 :: rest) := by
      simpa using drop_advance (show bs.data.toList.drop p = [l.length.toUInt8] ++ _ from hlength)
    have hfits : p + 1 + l.length ≤ bs.size :=
      (le_size_of_drop hlabelAt).resolve_right (List.ne_nil_of_length_pos hpos)
    have hcount : ¬ Name.countedLength (acc ++ [l]) > 255 := by
      rw [Name.countedLength_eq_length_labelOctets (by simp)]
      rw [Name.countedLength_eq_length_labelOctets (by simp)] at hlen
      simp only [Name.labelOctets_append, Name.labelOctets_cons, Name.labelOctets_nil,
        List.length_append, List.length_cons, List.length_nil] at hlen ⊢
      omega
    have htail := nameLabels_of_drop start ls (acc ++ [l]) (p + 1 + l.length)
      (drop_advance hlabelAt) (fun l' hl' => hlabels l' (List.mem_cons_of_mem l hl'))
      (by simpa using hlen)
    rw [nameLabels]
    simp only [Option.any, Bool.false_eq_true, if_false, dif_pos hp, hoctet]
    rw [if_neg (by omega), if_neg (by rw [hcode]; decide), if_pos hcode, if_pos hfits]
    simp only [extract_of_drop hlabelAt, if_neg hcount, htail]
    simp [Name.labelOctets_cons]
    omega

theorem runAt_name_of_drop {ls : List Label}
    (hd : bs.data.toList.drop p = Name.labelOctets ls ++ 0 :: rest)
    (hlabels : ∀ l ∈ ls, 0 < l.length ∧ l.length ≤ 63) (hshort : Name.countedLength ls < 255) :
    name.runAt bs p = .ok ({ labels := ls, fqdn := true }, p + (Name.labelOctets ls).length + 1) := by
  have hread := nameLabels_of_drop p ls [] p hd hlabels (by simp; omega)
  rw [List.nil_append] at hread
  have hbytes : (read : Decoder ByteArray).runAt bs p = .ok (bs, p) := rfl
  have hpos : (get : Decoder Nat).runAt bs p = .ok (p, p) := rfl
  have hset : (set (p + (Name.labelOctets ls).length + 1) : Decoder Unit).runAt bs p =
      .ok ((), p + (Name.labelOctets ls).length + 1) := rfl
  unfold name
  rw [runAt_bind_ok hbytes, runAt_bind_ok hpos, hread]
  dsimp only
  rw [runAt_bind_ok hset, if_neg (by omega)]
  rfl

end Decoder

namespace Header

theorem flags_read (h : Header) (hop : h.opcode < 16) (hrcode : h.rcode < 16) :
    (h.flags.1.toUInt8.toNat &&& 0x78) >>> 3 = h.opcode ∧
      (h.flags.1.toUInt8.toNat &&& 0x80 != 0) = h.response ∧
      (h.flags.1.toUInt8.toNat &&& 4 != 0) = h.authoritative ∧
      (h.flags.1.toUInt8.toNat &&& 2 != 0) = h.truncated ∧
      (h.flags.1.toUInt8.toNat &&& 1 != 0) = h.recursionDesired ∧
      (h.flags.2.toUInt8.toNat &&& 0x80 != 0) = h.recursionAvailable ∧
      (h.flags.2.toUInt8.toNat &&& 0x20 != 0) = h.authenticData ∧
      (h.flags.2.toUInt8.toNat &&& 0x10 != 0) = h.checkingDisabled ∧
      (h.flags.2.toUInt8.toNat &&& 0xF) = h.rcode := by
  -- each octet is a function of a few flags and a four-bit field: check every combination
  have hfirst : ∀ (r a t d : Bool) (op : Fin 16),
      let b := (((if r then 0x80 else 0) ||| ((op.val % 16) <<< 3) ||| (if a then 4 else 0) |||
        (if t then 2 else 0) ||| (if d then 1 else 0) : Nat)).toUInt8.toNat
      (b &&& 0x78) >>> 3 = op.val ∧ (b &&& 0x80 != 0) = r ∧ (b &&& 4 != 0) = a ∧
        (b &&& 2 != 0) = t ∧ (b &&& 1 != 0) = d := by decide
  have hsecond : ∀ (ra ad cd : Bool) (rc : Fin 16),
      let b := (((if ra then 0x80 else 0) ||| (if ad then 0x20 else 0) |||
        (if cd then 0x10 else 0) ||| (rc.val % 16) : Nat)).toUInt8.toNat
      (b &&& 0x80 != 0) = ra ∧ (b &&& 0x20 != 0) = ad ∧ (b &&& 0x10 != 0) = cd ∧
        (b &&& 0xF) = rc.val := by decide
  obtain ⟨h1, h2, h3, h4, h5⟩ := hfirst h.response h.authoritative h.truncated
    h.recursionDesired ⟨h.opcode, hop⟩
  obtain ⟨h6, h7, h8, h9⟩ := hsecond h.recursionAvailable h.authenticData h.checkingDisabled
    ⟨h.rcode, hrcode⟩
  exact ⟨h1, h2, h3, h4, h5, h6, h7, h8, h9⟩

/-- A header whose fields fit their places on the wire, with an opcode the reader takes. -/
def Fits (h : Header) : Prop :=
  h.id < 65536 ∧ knownOpcode h.opcode = true ∧ h.rcode < 16 ∧ h.questionCount < 65536 ∧
    h.answerCount < 65536 ∧ h.authorityCount < 65536 ∧ h.additionalCount < 65536

open Decoder in
theorem read_of_drop {bs : ByteArray} {p : Nat} {rest : List UInt8} {h : Header} (hfits : h.Fits)
    (hd : bs.data.toList.drop p = h.octets ++ rest) : read.runAt bs p = .ok (h, p + 12) := by
  obtain ⟨hid, hop, hrcode, hqd, han, hns, har⟩ := hfits
  have hop16 : h.opcode < 16 := by
    simp only [knownOpcode, decide_eq_true_eq] at hop
    omega
  obtain ⟨f1, f2, f3, f4, f5, f6, f7, f8, f9⟩ := flags_read h hop16 hrcode
  have hlayout : h.octets = Encoder.be16 h.id ++ h.flags.1.toUInt8 :: h.flags.2.toUInt8 ::
      (Encoder.be16 h.questionCount ++ Encoder.be16 h.answerCount ++
        Encoder.be16 h.authorityCount ++ Encoder.be16 h.additionalCount) := by
    simp [octets, Encoder.be16]
  simp only [hlayout, List.append_assoc, List.cons_append] at hd
  have d1 : bs.data.toList.drop (p + 2) = _ := drop_advance hd
  have d2 := drop_advance_cons d1
  have d3 := drop_advance_cons d2
  have d4 : bs.data.toList.drop (p + 2 + 1 + 1 + 2) = _ := drop_advance d3
  have d5 : bs.data.toList.drop (p + 2 + 1 + 1 + 2 + 2) = _ := drop_advance d4
  have d6 : bs.data.toList.drop (p + 2 + 1 + 1 + 2 + 2 + 2) = _ := drop_advance d5
  unfold read
  rw [runAt_bind_ok (runAt_u16_of_drop hd hid)]
  dsimp only
  rw [runAt_bind_ok (runAt_pop_of_drop d1)]
  rw [f1, if_neg (by simp [hop])]
  rw [runAt_bind_ok (runAt_pop_of_drop d2)]
  rw [runAt_bind_ok (runAt_u16_of_drop d3 hqd), runAt_bind_ok (runAt_u16_of_drop d4 han),
    runAt_bind_ok (runAt_u16_of_drop d5 hns), runAt_bind_ok (runAt_u16_of_drop d6 har),
    runAt_pure, f2, f3, f4, f5, f6, f7, f8, f9]

end Header
namespace Question

open Decoder in
theorem read_of_drop {bs : ByteArray} {p : Nat} {rest : List UInt8} {q : Question}
    (hd : bs.data.toList.drop p = q.octets ++ rest)
    (hlabels : ∀ l ∈ q.name.labels, 0 < l.length ∧ l.length ≤ 63)
    (hshort : Name.countedLength q.name.labels < 255) (htype : q.type < 65536)
    (hklass : q.klass < 65536) :
    read.runAt bs p = .ok ({ q with name := { q.name with fqdn := true } }, p + q.octets.length) := by
  simp only [octets, List.append_assoc, List.singleton_append] at hd
  have d1 : bs.data.toList.drop (p + (Name.labelOctets q.name.labels).length + 1) =
      Encoder.be16 q.type ++ (Encoder.be16 q.klass ++ rest) := by
    have := drop_advance (show bs.data.toList.drop p = (Name.labelOctets q.name.labels ++ [0]) ++
      (Encoder.be16 q.type ++ (Encoder.be16 q.klass ++ rest)) by rw [hd]; simp)
    rwa [List.length_append, List.length_singleton, ← Nat.add_assoc] at this
  have d2 : bs.data.toList.drop (p + (Name.labelOctets q.name.labels).length + 1 + 2) = _ :=
    drop_advance d1
  unfold read
  rw [runAt_bind_ok (runAt_name_of_drop hd hlabels hshort)]
  dsimp only
  rw [runAt_bind_ok (runAt_u16_of_drop d1 htype), runAt_bind_ok (runAt_u16_of_drop d2 hklass),
    runAt_pure]
  simp [octets, Encoder.be16]
  omega

end Question
namespace Message

open Decoder

theorem decode_of_octets {bs : ByteArray} {h : Header} {q : Question}
    (hbytes : bs.data.toList = h.octets ++ q.octets) (hfits : h.Fits)
    (hcounts : h.questionCount = 1 ∧ h.answerCount = 0 ∧ h.authorityCount = 0 ∧
      h.additionalCount = 0)
    (hlabels : ∀ l ∈ q.name.labels, 0 < l.length ∧ l.length ≤ 63)
    (hshort : Name.countedLength q.name.labels < 255) (htype : q.type < 65536)
    (hklass : q.klass < 65536) :
    decode bs = .ok { header := h, questions := [{ q with name := { q.name with fqdn := true } }] } := by
  obtain ⟨hqd, han, hns, har⟩ := hcounts
  have hheader := Header.read_of_drop hfits (show bs.data.toList.drop 0 = h.octets ++ q.octets by
    rw [List.drop_zero, hbytes])
  have hquestion := Question.read_of_drop (show bs.data.toList.drop (0 + 12) = q.octets ++ [] by
    rw [hbytes, List.append_nil, Nat.zero_add, ← Header.length_octets h, List.drop_left])
    hlabels hshort htype hklass
  have hbody : (readBody h).runAt bs (0 + 12) =
      .ok ({ header := h, questions := [{ q with name := { q.name with fqdn := true } }] },
        0 + 12 + q.octets.length) := by
    have hmany : (readMany Question.read h.questionCount).runAt bs (0 + 12) =
        .ok ([{ q with name := { q.name with fqdn := true } }], 0 + 12 + q.octets.length) := by
      rw [hqd, readMany, runAt_bind_ok hquestion]
      rfl
    have hnone : ∀ n p, n = 0 → (readMany ResourceRecord.read n).runAt bs p = .ok ([], p) := by
      rintro n p rfl
      rfl
    have hadditional : (readAdditional h.additionalCount none []).runAt bs
        (0 + 12 + q.octets.length) = .ok (([], none), 0 + 12 + q.octets.length) := by
      rw [har]
      rfl
    unfold readBody
    rw [runAt_bind_ok hmany, runAt_bind_ok (hnone _ _ han), runAt_bind_ok (hnone _ _ hns),
      runAt_bind_ok hadditional]
    rfl
  unfold decode read
  rw [runAt_bind_ok hheader, hbody]

end Message
/-! ## Queries on the wire -/

/-- A query whose name is under 255 counted octets goes out under every id as the id's two
octets followed by octets that do not depend on it, and reads back as a query: the id, the
recursion-desired flag, one question with the name (absolute), type and class, and nothing
else. Read as a response it has that id, is not truncated, succeeds and holds no records. -/
theorem Query.message_roundTrip (q : Query) {n : Name} (hn : Name.ofText q.domain = .ok n)
    (hshort : Name.countedLength n.labels < 255) :
    ∃ tail : List UInt8, ∀ id < 65536, ∃ bytes, q.message id = .ok bytes ∧
      bytes.data.toList = Encoder.be16 id ++ tail ∧
      Message.decode bytes = .ok
        { header := { id, recursionDesired := q.recursionDesired, questionCount := 1 },
          questions := [{ name := { n with fqdn := true }, type := q.type.code.toNat,
                          klass := q.klass.code.toNat }] } ∧
      Answer.ofResponse bytes =
        .ok { id, truncated := false, answer := { status := Rcode.noError, message := bytes } } := by
  have hlabels := Name.ofText_labels hn
  have hwire : (Name.labelOctets n.labels).length + 1 ≤ 255 := by
    have := Name.length_labelOctets_le n.labels
    omega
  let question : Question := { name := n, type := q.type.code.toNat, klass := q.klass.code.toNat }
  refine ⟨[if q.recursionDesired then 1 else 0, 0] ++ Encoder.be16 1 ++ Encoder.be16 0 ++
    Encoder.be16 0 ++ Encoder.be16 0 ++ question.octets, fun id hid => ?_⟩
  obtain ⟨bytes, hmessage, hbytes⟩ :=
    Query.message_octets q id hn (fun l hl => (hlabels l hl).2) hwire
  have hfits : Header.Fits { id, recursionDesired := q.recursionDesired, questionCount := 1 } :=
    ⟨hid, rfl, by simp, by simp, by simp, by simp, by simp⟩
  have hdecode := Message.decode_of_octets hbytes hfits ⟨rfl, rfl, rfl, rfl⟩ hlabels hshort
    (UInt16.toNat_lt _) (UInt16.toNat_lt _)
  refine ⟨bytes, hmessage, ?_, hdecode, ?_⟩
  · rw [hbytes, Header.octets_query]
    simp only [question, List.append_assoc]
  · simp only [Answer.ofResponse, hdecode]
    rfl

/-- An SRV query for a service name of two underscore labels goes out and reads back. -/
theorem Query.message_roundTrip_service_name :
    let q : Query := { domain := "_sip._udp.", type := ⟨33⟩ }
    let n : Name := { labels := [Name.labelOfString "_sip", Name.labelOfString "_udp"], fqdn := true }
    Name.ofText q.domain = .ok n ∧ Name.countedLength n.labels < 255 ∧
      ∃ tail : List UInt8, ∀ id < 65536, ∃ bytes, q.message id = .ok bytes ∧
        bytes.data.toList = Encoder.be16 id ++ tail ∧
        Message.decode bytes = .ok
          { header := { id, recursionDesired := q.recursionDesired, questionCount := 1 },
            questions := [{ name := { n with fqdn := true }, type := q.type.code.toNat,
                            klass := q.klass.code.toNat }] } ∧
        Answer.ofResponse bytes =
          .ok { id, truncated := false, answer := { status := Rcode.noError, message := bytes } } := by
  intro q n
  have hread : (Name.ofText q.domain).toOption = some n := by decide +kernel
  have hn : Name.ofText q.domain = .ok n := by
    cases h : Name.ofText q.domain with
    | error e =>
      rw [h] at hread
      exact nomatch hread
    | ok m =>
      rw [h] at hread
      cases hread
      rfl
  have hshort : Name.countedLength n.labels < 255 := by decide
  exact ⟨hn, hshort, Query.message_roundTrip q hn hshort⟩

/-- A name of exactly 255 counted octets, the longest a name text may give, takes 256 octets on
the wire, and its query is refused. -/
theorem Query.message_refuses_full_name (q : Query) {n : Name} (id : Nat)
    (hn : Name.ofText q.domain = .ok n) (hfull : Name.countedLength n.labels = 255) :
    q.message id = .error (.invalidDomainName
      ("Failed to serialize DNS message: " ++ (WireError.nameTooLong 256).message)) := by
  have hlabels := Name.ofText_labels hn
  have hne : n.labels ≠ [] := by
    intro hnil
    rw [hnil] at hfull
    exact absurd hfull (by decide)
  have hwire : (Name.labelOctets n.labels).length + 1 = 256 := by
    rw [← Name.countedLength_eq_length_labelOctets hne, hfull]
  rw [Query.message_refuses_long q id hn (fun l hl => (hlabels l hl).2) (by omega) (by omega),
    hwire]

/-- Four labels of 63, 63, 63 and 62 octets make a name text that reads, but whose query is
refused. -/
theorem Query.message_refuses_name_of_255_octets :
    let q : Query :=
      { domain :=
          String.join (List.replicate 3 ("_" ++ String.ofList (List.replicate 62 'a') ++ ".")) ++
            "_" ++ String.ofList (List.replicate 61 'a'),
        type := RecordType.a }
    (∃ n, Name.ofText q.domain = .ok n) ∧ q.message 0 = .error (.invalidDomainName
      ("Failed to serialize DNS message: " ++ (WireError.nameTooLong 256).message)) := by
  intro q
  have hread : ((Name.ofText q.domain).toOption.map fun m => Name.countedLength m.labels) =
      some 255 := by decide +kernel
  cases hn : Name.ofText q.domain with
  | error e =>
    rw [hn] at hread
    exact nomatch hread
  | ok n =>
    rw [hn] at hread
    exact ⟨⟨n, rfl⟩, Query.message_refuses_full_name q 0 hn (Option.some.inj hread)⟩

end SplitDns
