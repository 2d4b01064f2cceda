import Mathlib
import SplitDns.Exchange
/-!
# Writing a message at the end of the buffer

While nothing has been taken back, an encoder writes at the end of its buffer
(`Encoder.offset = buffer.size`), and every write appends its octets (`bytes_atEnd`). A name
then goes out as its labels, each after its length octet (`Name.labelOctets`), and a root octet:
the first name of a message finds no earlier label sequence to point to, and the sequences of
its own suffixes are each shorter than the one being looked up (`scan_fresh`). Whether the name
is taken then depends only on its length on the wire (`name_fresh`, `name_refuses_long`).

A query message is its question written after twelve reserved octets, over which the header of
the query is filled in last (`Query.message_eq_write`): the header's octets and the question's
(`Query.message_octets`), or a serialization error when the name is over 255 octets
(`Query.message_refuses_long`).
-/

namespace SplitDns

/-- A name's labels on the wire: each after its length octet, without the final root octet. -/
def Name.labelOctets (labels : List Label) : List UInt8 :=
  labels.flatMap fun l => l.length.toUInt8 :: l

theorem Name.labelOctets_nil : Name.labelOctets [] = [] := rfl

theorem Name.labelOctets_cons (l : Label) (ls : List Label) :
    Name.labelOctets (l :: ls) = l.length.toUInt8 :: l ++ Name.labelOctets ls := rfl

/-- Where each label of a name starts, the first at `p`. -/
def Name.labelStarts : List Label → Nat → List Nat
  | [], _ => []
  | l :: ls, p => p :: Name.labelStarts ls (p + 1 + l.length)

theorem Name.labelStarts_bounds : ∀ (ls : List Label) (p : Nat),
    ∀ pos ∈ Name.labelStarts ls p, p ≤ pos ∧ pos < p + (Name.labelOctets ls).length
  | [], _ => by simp [Name.labelStarts]
  | l :: ls, p => by
    intro pos hpos
    simp only [Name.labelStarts, List.mem_cons] at hpos
    simp only [Name.labelOctets_cons, List.length_append, List.length_cons]
    rcases hpos with rfl | hpos
    · omega
    · have := Name.labelStarts_bounds ls (p + 1 + l.length) pos hpos
      omega

theorem Name.labelStarts_sorted : ∀ (ls : List Label) (p : Nat),
    (Name.labelStarts ls p).Pairwise (· < ·)
  | [], _ => List.Pairwise.nil
  | l :: ls, p => by
    refine List.Pairwise.cons (fun pos hpos => ?_) (Name.labelStarts_sorted ls _)
    have := Name.labelStarts_bounds ls (p + 1 + l.length) pos hpos
    omega

namespace Encoder

/-- The encoder after appending octets at the end of its buffer. -/
def appendOctets (e : Encoder) (l : List UInt8) : Encoder :=
  { e with buffer := e.buffer ++ ⟨l.toArray⟩, offset := e.offset + l.length }

@[simp] theorem appendOctets_octets (e : Encoder) (l : List UInt8) :
    (e.appendOctets l).buffer.data.toList = e.buffer.data.toList ++ l := by
  simp [appendOctets]

@[simp] theorem appendOctets_size (e : Encoder) (l : List UInt8) :
    (e.appendOctets l).buffer.size = e.buffer.size + l.length := by
  rw [appendOctets, ByteArray.size_append]
  exact congrArg (e.buffer.size + ·) List.size_toArray

@[simp] theorem appendOctets_offset (e : Encoder) (l : List UInt8) :
    (e.appendOctets l).offset = e.offset + l.length := rfl

@[simp] theorem appendOctets_pointers (e : Encoder) (l : List UInt8) :
    (e.appendOctets l).pointers = e.pointers := rfl

@[simp] theorem appendOctets_maxSize (e : Encoder) (l : List UInt8) :
    (e.appendOctets l).maxSize = e.maxSize := rfl

theorem appendOctets_append (e : Encoder) (l l' : List UInt8) :
    (e.appendOctets l).appendOctets l' = e.appendOctets (l ++ l') := by
  simp only [appendOctets, ByteArray.append_assoc, List.length_append, Nat.add_assoc]
  congr 2

/-- Writing at the end appends, while the limit allows. -/
theorem bytes_atEnd {e : Encoder} {l : List UInt8} (hend : e.offset = e.buffer.size)
    (hfit : e.buffer.size + l.length ≤ e.maxSize) : bytes l e = .ok (e.appendOctets l) := by
  unfold bytes
  rw [if_neg (by omega), if_neg (by omega)]
  rfl

theorem appendOctets_withPointers (e : Encoder) (ps : List (Nat × List UInt8)) (l : List UInt8) :
    ({ e with pointers := ps } : Encoder).appendOctets l = { e.appendOctets l with pointers := ps } :=
  rfl

theorem appendOctets_nil (e : Encoder) : e.appendOctets [] = e := by
  simp only [appendOctets, List.length_nil, Nat.add_zero]
  exact congrArg (fun b => { e with buffer := b }) ByteArray.append_empty

theorem labels_atEnd : ∀ (ls : List Label) (e : Encoder), (∀ l ∈ ls, l.length ≤ 63) →
    e.offset = e.buffer.size → e.buffer.size + (Name.labelOctets ls).length ≤ e.maxSize →
    labels ls e = .ok (e.appendOctets (Name.labelOctets ls), Name.labelStarts ls e.offset)
  | [], e, _, _, _ => by
    rw [Name.labelOctets_nil, appendOctets_nil]
    rfl
  | l :: ls, e, hlen, hend, hfit => by
    have hl : l.length ≤ 63 := hlen l List.mem_cons_self
    have hrest : ∀ l' ∈ ls, l'.length ≤ 63 := fun l' h => hlen l' (List.mem_cons_of_mem l h)
    simp only [Name.labelOctets_cons, List.length_append, List.length_cons] at hfit
    have hlenOctet : u8 l.length e = .ok (e.appendOctets [l.length.toUInt8]) :=
      bytes_atEnd hend (by simp; omega)
    have hoctets : bytes l (e.appendOctets [l.length.toUInt8]) =
        .ok ((e.appendOctets [l.length.toUInt8]).appendOctets l) :=
      bytes_atEnd (by simp [hend]) (by simp; omega)
    have hdata : charData l e = .ok (e.appendOctets (l.length.toUInt8 :: l)) := by
      unfold charData
      rw [if_neg (by omega), hlenOctet, Except.bind, hoctets, appendOctets_append]
      rfl
    have htail := labels_atEnd ls (e.appendOctets (l.length.toUInt8 :: l)) hrest
      (by simp [hend]) (by simp; omega)
    have hstarts : Name.labelStarts (l :: ls) e.offset =
        e.offset :: Name.labelStarts ls (e.appendOctets (l.length.toUInt8 :: l)).offset := by
      simp only [Name.labelStarts, appendOctets_offset, List.length_cons]
      congr 2
      omega
    unfold labels
    rw [if_neg (by omega), hdata]
    simp only [bind, Except.bind, htail, pure, Except.pure]
    rw [appendOctets_append, Name.labelOctets_cons, hstarts]

theorem finishName_atEnd {before : Nat} {e : Encoder} (hend : e.offset = e.buffer.size)
    (hfit : e.buffer.size + 1 ≤ e.maxSize) (hlen : e.buffer.size + 1 - before ≤ 255) :
    finishName before e = .ok (e.appendOctets [0]) := by
  have hroot : u8 0 e = .ok (e.appendOctets [0]) := bytes_atEnd hend (by simp; omega)
  unfold finishName
  rw [hroot]
  show (if (e.appendOctets [0]).buffer.size - before > 255 then _ else _) = _
  rw [if_neg (by simp; omega)]
  rfl

theorem finishName_refuses {before : Nat} {e : Encoder} (hend : e.offset = e.buffer.size)
    (hfit : e.buffer.size + 1 ≤ e.maxSize) (hlong : e.buffer.size + 1 - before > 255) :
    finishName before e = .error
      { error := .nameTooLong (e.buffer.size + 1 - before), state := e.appendOctets [0] } := by
  have hroot : u8 0 e = .ok (e.appendOctets [0]) := bytes_atEnd hend (by simp; omega)
  unfold finishName
  rw [hroot]
  show (if (e.appendOctets [0]).buffer.size - before > 255 then _ else _) = _
  rw [if_pos (by simp; omega)]
  simp only [appendOctets_size, List.length_singleton]
  rfl

/-- Looking up the suffixes of the name just written finds none when every remembered label
sequence is longer than each of them: the name is then ended with the root octet, whatever was
remembered on the way. -/
theorem scan_fresh (before stop : Nat) : ∀ (starts : List Nat) (e : Encoder),
    e.buffer.size = stop → (∀ pos ∈ starts, pos ≤ stop) → starts.Pairwise (· < ·) →
    (∀ pt ∈ e.pointers, ∀ pos ∈ starts, stop - pos < pt.2.length) →
    ∃ ptrs, name.scan before stop starts e = finishName before { e with pointers := ptrs }
  | [], e, _, _, _, _ => ⟨e.pointers, by rw [name.scan]⟩
  | pos :: rest, e, hsize, hle, hsorted, hlonger => by
    have hpos : pos ≤ stop := hle pos List.mem_cons_self
    have hsuffix : (e.buffer.extract pos stop).data.toList.length = stop - pos := by
      simp [hsize]
    -- no remembered sequence has the length of this suffix
    have hfind : e.pointers.find? (·.2 == (e.buffer.extract pos stop).data.toList) = none := by
      rw [List.find?_eq_none]
      intro pt hpt heq
      have := hlonger pt hpt pos List.mem_cons_self
      rw [beq_iff_eq] at heq
      rw [heq, hsuffix] at this
      omega
    obtain ⟨hrestLt, hrestSorted⟩ := List.pairwise_cons.1 hsorted
    let e' : Encoder := if e.offset < 0x3FFF then
      { e with pointers := e.pointers ++ [(pos, (e.buffer.extract pos stop).data.toList)] } else e
    have he' : e' = { e with pointers := e'.pointers } := by
      simp only [e']
      split <;> rfl
    have hlonger' : ∀ pt ∈ e'.pointers, ∀ pos' ∈ rest, stop - pos' < pt.2.length := by
      intro pt hpt pos' hpos'
      have hlt := hrestLt pos' hpos'
      have hle' := hle pos' (List.mem_cons_of_mem pos hpos')
      simp only [e'] at hpt
      split at hpt
      · rcases List.mem_append.1 hpt with hold | hnew
        · exact hlonger pt hold pos' (List.mem_cons_of_mem pos hpos')
        · rw [List.mem_singleton.1 hnew, hsuffix]
          omega
      · exact hlonger pt hpt pos' (List.mem_cons_of_mem pos hpos')
    obtain ⟨ptrs, hscan⟩ := scan_fresh before stop rest e' (by rw [he']; exact hsize)
      (fun p hp => hle p (List.mem_cons_of_mem pos hp)) hrestSorted hlonger'
    refine ⟨ptrs, ?_⟩
    rw [name.scan]
    simp only [hfind]
    rw [show (if e.offset < 0x3FFF then _ else e) = e' from rfl, hscan, he']

theorem name_eq_finishName (n : Name) {e : Encoder} (hend : e.offset = e.buffer.size)
    (hnone : e.pointers = []) (hlen : ∀ l ∈ n.labels, l.length ≤ 63)
    (hfit : e.buffer.size + (Name.labelOctets n.labels).length ≤ e.maxSize) :
    ∃ ptrs, name n e = finishName e.buffer.size
      { e.appendOctets (Name.labelOctets n.labels) with pointers := ptrs } := by
  have hlabels := labels_atEnd n.labels e hlen hend hfit
  have hbounds := Name.labelStarts_bounds n.labels e.offset
  obtain ⟨ptrs, hscan⟩ := scan_fresh e.buffer.size (e.offset + (Name.labelOctets n.labels).length)
    (Name.labelStarts n.labels e.offset) (e.appendOctets (Name.labelOctets n.labels))
    (by simp [hend]) (fun pos hpos => (Nat.le_of_lt (hbounds pos hpos).2))
    (Name.labelStarts_sorted _ _) (by simp [hnone])
  refine ⟨ptrs, ?_⟩
  unfold name
  simp only
  rw [hlabels]
  show name.scan e.buffer.size (e.appendOctets (Name.labelOctets n.labels)).offset _ _ = _
  rw [appendOctets_offset, hscan]
  rfl

/-- The first name written, of at most 255 octets, goes out as its labels and the root octet. -/
theorem name_fresh (n : Name) {e : Encoder} (hend : e.offset = e.buffer.size)
    (hnone : e.pointers = []) (hlen : ∀ l ∈ n.labels, l.length ≤ 63)
    (hwire : (Name.labelOctets n.labels).length + 1 ≤ 255)
    (hfit : e.buffer.size + (Name.labelOctets n.labels).length + 1 ≤ e.maxSize) :
    ∃ ptrs, name n e =
      .ok { e.appendOctets (Name.labelOctets n.labels ++ [0]) with pointers := ptrs } := by
  obtain ⟨ptrs, hname⟩ := name_eq_finishName n hend hnone hlen (by omega)
  refine ⟨ptrs, ?_⟩
  rw [hname, finishName_atEnd (by simp [hend]) (by simp; omega) (by simp; omega),
    appendOctets_withPointers, appendOctets_append]

/-- The first name written, of more than 255 octets, is refused. -/
theorem name_refuses_long (n : Name) {e : Encoder} (hend : e.offset = e.buffer.size)
    (hnone : e.pointers = []) (hlen : ∀ l ∈ n.labels, l.length ≤ 63)
    (hwire : (Name.labelOctets n.labels).length + 1 > 255)
    (hfit : e.buffer.size + (Name.labelOctets n.labels).length + 1 ≤ e.maxSize) :
    ∃ st, name n e =
      .error { error := .nameTooLong ((Name.labelOctets n.labels).length + 1), state := st } := by
  obtain ⟨ptrs, hname⟩ := name_eq_finishName n hend hnone hlen (by omega)
  refine ⟨({ e.appendOctets (Name.labelOctets n.labels) with pointers := ptrs } : Encoder).appendOctets
    [0], ?_⟩
  rw [hname, finishName_refuses (by simp [hend]) (by simp; omega) (by simp; omega)]
  simp only [appendOctets_size]
  congr 3
  omega

theorem overwrite_zero_octets (buf : ByteArray) (l : List UInt8) :
    (overwrite buf 0 l).data.toList = l ++ buf.data.toList.drop l.length := by
  simp [overwrite]

end Encoder

/-- A question on the wire with its name written in full: the labels, the root octet, the type
and the class. -/
def Question.octets (q : Question) : List UInt8 :=
  Name.labelOctets q.name.labels ++ [0] ++ Encoder.be16 q.type ++ Encoder.be16 q.klass

theorem Question.write_fresh (q : Question) {e : Encoder} (hend : e.offset = e.buffer.size)
    (hnone : e.pointers = []) (hlen : ∀ l ∈ q.name.labels, l.length ≤ 63)
    (hwire : (Name.labelOctets q.name.labels).length + 1 ≤ 255)
    (hfit : e.buffer.size + (Name.labelOctets q.name.labels).length + 5 ≤ e.maxSize) :
    ∃ ptrs, q.write e = .ok { e.appendOctets q.octets with pointers := ptrs } := by
  obtain ⟨ptrs, hname⟩ := Encoder.name_fresh q.name hend hnone hlen hwire (by omega)
  let e1 : Encoder :=
    { e.appendOctets (Name.labelOctets q.name.labels ++ [0]) with pointers := ptrs }
  have hend1 : e1.offset = e1.buffer.size := by simp [e1, hend]
  have htype : Encoder.u16 q.type e1 = .ok (e1.appendOctets (Encoder.be16 q.type)) :=
    Encoder.bytes_atEnd hend1 (by simp [e1, Encoder.be16]; omega)
  have hclass : Encoder.u16 q.klass (e1.appendOctets (Encoder.be16 q.type)) =
      .ok ((e1.appendOctets (Encoder.be16 q.type)).appendOctets (Encoder.be16 q.klass)) :=
    Encoder.bytes_atEnd (by simp [hend1]) (by simp [e1, Encoder.be16]; omega)
  refine ⟨ptrs, ?_⟩
  unfold Question.write
  rw [hname]
  show (Encoder.u16 q.type e1).bind _ = _
  rw [htype]
  show Encoder.u16 q.klass (e1.appendOctets (Encoder.be16 q.type)) = _
  rw [hclass, Encoder.appendOctets_append]
  simp only [e1, Question.octets, Encoder.appendOctets_withPointers, Encoder.appendOctets_append,
    List.append_assoc]

theorem Encoder.reserve_header :
    Encoder.reserve 12 { maxSize := 65535 } =
      .ok (({ maxSize := 65535 } : Encoder).appendOctets (List.replicate 12 0), 0) := rfl

theorem Header.length_octets (h : Header) : h.octets.length = 12 := rfl

theorem Header.octets_query (id : Nat) (rd : Bool) :
    Header.octets { id, recursionDesired := rd, questionCount := 1 } =
      Encoder.be16 id ++ [if rd then 1 else 0, 0] ++ Encoder.be16 1 ++ Encoder.be16 0 ++
        Encoder.be16 0 ++ Encoder.be16 0 := by
  simp only [Header.octets, Header.flags]
  cases rd <;> simp [Encoder.be16]

/-- A query message is its question written after twelve reserved octets, with the header of
the query filled in over them; a fault writing the question is a serialization error. -/
theorem Query.message_eq_write (q : Query) {n : Name} (id : Nat) (hn : Name.ofText q.domain = .ok n) :
    q.message id =
      match Question.write { name := n, type := q.type.code.toNat, klass := q.klass.code.toNat }
          (({ maxSize := 65535 } : Encoder).appendOctets (List.replicate 12 0)) with
      | .ok e =>
        .ok (Encoder.fill 0
          (Header.octets { id, recursionDesired := q.recursionDesired, questionCount := 1 }) e).buffer
      | .error f =>
        .error (.invalidDomainName ("Failed to serialize DNS message: " ++ f.error.message)) := by
  have hq : q.question = .ok { name := n, type := q.type.code.toNat, klass := q.klass.code.toNat } := by
    simp only [Query.question, Query.wireName, hn]
    rfl
  simp only [Query.message, hq, bind, Except.bind]
  unfold Message.encode Message.encodeWith
  simp only [Encoder.reserve_header, bind, Except.bind, pure, Except.pure, List.foldlM_cons,
    List.foldlM_nil]
  cases Question.write { name := n, type := q.type.code.toNat, klass := q.klass.code.toNat }
    (({ maxSize := 65535 } : Encoder).appendOctets (List.replicate 12 0)) <;> rfl

/-- A query message is the header of a query, filled in after the question, and the question. -/
theorem Query.message_octets (q : Query) {n : Name} (id : Nat) (hn : Name.ofText q.domain = .ok n)
    (hlen : ∀ l ∈ n.labels, l.length ≤ 63)
    (hwire : (Name.labelOctets n.labels).length + 1 ≤ 255) :
    ∃ bytes, q.message id = .ok bytes ∧ bytes.data.toList =
      Header.octets { id, recursionDesired := q.recursionDesired, questionCount := 1 } ++
        Question.octets { name := n, type := q.type.code.toNat, klass := q.klass.code.toNat } := by
  let question : Question := { name := n, type := q.type.code.toNat, klass := q.klass.code.toNat }
  let e0 : Encoder := ({ maxSize := 65535 } : Encoder).appendOctets (List.replicate 12 0)
  obtain ⟨ptrs, hwrite⟩ := @Question.write_fresh question e0 rfl rfl hlen hwire
    (by simp [e0, question]; omega)
  rw [Query.message_eq_write q id hn, hwrite]
  refine ⟨_, rfl, ?_⟩
  rw [Encoder.fill, Encoder.overwrite_zero_octets, Header.length_octets]
  simp [e0, question]

/-- A query whose name takes more than 255 octets on the wire is refused, with the name's
length in the error. -/
theorem Query.message_refuses_long (q : Query) {n : Name} (id : Nat)
    (hn : Name.ofText q.domain = .ok n) (hlen : ∀ l ∈ n.labels, l.length ≤ 63)
    (hwire : (Name.labelOctets n.labels).length + 1 > 255)
    (hfit : (Name.labelOctets n.labels).length + 17 ≤ 65535) :
    q.message id = .error (.invalidDomainName ("Failed to serialize DNS message: " ++
      (WireError.nameTooLong ((Name.labelOctets n.labels).length + 1)).message)) := by
  let question : Question := { name := n, type := q.type.code.toNat, klass := q.klass.code.toNat }
  let e0 : Encoder := ({ maxSize := 65535 } : Encoder).appendOctets (List.replicate 12 0)
  obtain ⟨st, hname⟩ := @Encoder.name_refuses_long n e0 rfl rfl hlen hwire
    (by simp [e0]; omega)
  have hwrite : question.write e0 =
      .error { error := .nameTooLong ((Name.labelOctets n.labels).length + 1), state := st } := by
    unfold Question.write
    rw [hname]
    rfl
  rw [Query.message_eq_write q id hn, hwrite]

end SplitDns
