import Mathlib
import SplitDns.Proofs.WireReading
/-!
# Reading a response into an answer

`Answer.ofResponse` reads a response message and keeps what the forwarder needs of it. For a
message that decodes, the response has the message's id and truncation flag, the full response
code as its status, the message itself, and one answer record for each record of the answer
section, in order (`Record.Keeps`): the owner name as text, the TTL, and for `A` and `AAAA` data
the address with the type of its family, else the record's own type. Nothing is cut short:
the decoder gives a code of twelve bits and types and TTLs that fit their fields
(`Message.decode_ranges`), so each survives its narrower field in the answer.

The answer's views then read off the answer section: its addresses are the `A` and `AAAA`
addresses in order, it has addresses when one record holds one, and its least TTL is the least
TTL of the section (`Answer.minTtl?_map_toNat`). A message that does not decode gives an invalid
response error with the decoder's text. `ofResponse_reads_message` states all of it.
-/

namespace SplitDns

/-- The address a resource record's data holds: `A` and `AAAA` data only. -/
def ResourceRecord.address? (rr : ResourceRecord) : Option IpAddr :=
  match rr.data with
  | some (.a b) => some (.v4 b)
  | some (.aaaa b) => some (.v6 b)
  | _ => none

/-- An answer record keeps a resource record: its owner name as text, its TTL, and the address
of `A` and `AAAA` data with the type of its family, or else no address and the record's own
type. -/
def Record.Keeps (rec : Record) (rr : ResourceRecord) : Prop :=
  rec.name = rr.name.toText ∧ rec.ttl.toNat = rr.ttl ∧
    match rr.data with
    | some (.a b) => rec.address = some (.v4 b) ∧ rec.type = RecordType.a
    | some (.aaaa b) => rec.address = some (.v6 b) ∧ rec.type = RecordType.aaaa
    | _ => rec.address = none ∧ rec.type.code.toNat = rr.type

namespace Record

theorem ofResource_address (rr : ResourceRecord) : (ofResource rr).address = rr.address? := by
  rcases rr with ⟨name, type, klass, ttl, _ | data⟩
  · rfl
  · cases data <;> rfl

theorem ofResource_ttl (rr : ResourceRecord) : (ofResource rr).ttl = rr.ttl.toUInt32 := by
  unfold ofResource
  split <;> rfl

theorem ofResource_keeps {rr : ResourceRecord} (htype : rr.type < 65536) (httl : rr.ttl < 2 ^ 32) :
    (ofResource rr).Keeps rr := by
  have hname : (ofResource rr).name = rr.name.toText := by
    unfold ofResource
    split <;> rfl
  have hkeptTtl : (ofResource rr).ttl.toNat = rr.ttl := by
    rw [ofResource_ttl, Nat.toUInt32, UInt32.toNat_ofNat', Nat.mod_eq_of_lt httl]
  refine ⟨hname, hkeptTtl, ?_⟩
  have hkeptType : (⟨rr.type.toUInt16⟩ : RecordType).code.toNat = rr.type := by
    rw [Nat.toUInt16, UInt16.toNat_ofNat', Nat.mod_eq_of_lt htype]
  rcases rr with ⟨name, type, klass, ttl, _ | data⟩
  · exact ⟨rfl, hkeptType⟩
  · cases data
    case a b => exact ⟨rfl, rfl⟩
    case aaaa b => exact ⟨rfl, rfl⟩
    all_goals exact ⟨rfl, hkeptType⟩

end Record

namespace Answer

theorem minTtl?_map_toNat (a : Answer) :
    a.minTtl?.map UInt32.toNat = (a.records.map fun r => r.ttl.toNat).min? := by
  -- after the first record, a fold step that keeps the lesser TTL keeps the least seen so far
  have hstep : ∀ f : Option UInt32 → Record → Option UInt32,
      (∀ m r, f (some m) r = some (if r.ttl < m then r.ttl else m)) →
      ∀ (rs : List Record) (m : UInt32), (rs.foldl f (some m)).map UInt32.toNat =
        some ((rs.map fun r => r.ttl.toNat).foldl min m.toNat) := by
    intro f hf rs
    induction rs with
    | nil => intro m; rfl
    | cons r rs ih =>
      intro m
      have hmin : (if r.ttl < m then r.ttl else m).toNat = min m.toNat r.ttl.toNat := by
        split
        case isTrue h =>
          rw [UInt32.lt_iff_toNat_lt] at h
          omega
        case isFalse h =>
          rw [UInt32.lt_iff_toNat_lt] at h
          omega
      simp only [List.foldl_cons, List.map_cons, hf, ih, hmin]
  unfold minTtl?
  cases a.records with
  | nil => rfl
  | cons r rs => exact hstep _ (fun _ _ => rfl) rs r.ttl

end Answer

/-- A response message that decodes is read into its id, truncation flag, full response code
and the records of its answer section, one answer record each and in order, with the message
kept; one that does not decode is an invalid response. -/
theorem ofResponse_reads_message (bs : ByteArray) :
    (∀ m, Message.decode bs = .ok m →
      ∃ r, Answer.ofResponse bs = .ok r ∧ r.id = m.header.id ∧
        r.truncated = m.header.truncated ∧ r.answer.status.code.toNat = m.header.rcode ∧
        r.answer.message = bs ∧ List.Forall₂ Record.Keeps r.answer.records m.answers ∧
        r.answer.addresses = m.answers.filterMap ResourceRecord.address? ∧
        r.answer.hasAddresses = m.answers.any (fun rr => rr.address?.isSome) ∧
        r.answer.minTtl?.map UInt32.toNat = (m.answers.map (·.ttl)).min?) ∧
    (∀ e, Message.decode bs = .error e →
      Answer.ofResponse bs =
        .error (.invalidDnsResponse ("Failed to parse DNS response: " ++ e.message))) := by
  refine ⟨fun m hm => ?_, fun e he => by simp [Answer.ofResponse, he]⟩
  obtain ⟨hrcode, hranges⟩ := Message.decode_ranges hm
  have hkeeps : ∀ rr ∈ m.answers, (Record.ofResource rr).Keeps rr :=
    fun rr hrr => Record.ofResource_keeps (hranges rr hrr).1 (hranges rr hrr).2
  have httl : ∀ rr ∈ m.answers, (Record.ofResource rr).ttl.toNat = rr.ttl :=
    fun rr hrr => (hkeeps rr hrr).2.1
  have hread : Answer.ofResponse bs = .ok
      { id := m.header.id, truncated := m.header.truncated,
        answer := { status := ⟨m.header.rcode.toUInt16⟩,
                    records := m.answers.map Record.ofResource, message := bs } } := by
    simp [Answer.ofResponse, hm]
  have haddr : (m.answers.map Record.ofResource).filterMap (·.address) =
      m.answers.filterMap ResourceRecord.address? := by
    simp only [List.filterMap_map, Function.comp_def, Record.ofResource_address]
  refine ⟨_, hread, rfl, rfl, ?_, rfl, ?_, haddr, ?_, ?_⟩
  · -- the code has twelve bits, so its sixteen-bit form is the code
    show (m.header.rcode.toUInt16).toNat = m.header.rcode
    rw [Nat.toUInt16, UInt16.toNat_ofNat', Nat.mod_eq_of_lt (by omega)]
  · exact List.forall₂_map_left_iff.2 (List.forall₂_same.2 hkeeps)
  · show (!((m.answers.map Record.ofResource).filterMap (·.address)).isEmpty) = _
    rw [haddr, Bool.eq_iff_iff]
    simp [List.filterMap_eq_nil_iff, List.any_eq_true, Option.isSome_iff_ne_none]
  · rw [Answer.minTtl?_map_toNat, List.map_map]
    congr 1
    exact List.map_congr_left httl

end SplitDns
