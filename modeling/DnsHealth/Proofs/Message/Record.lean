import DnsHealth.Message.Record
import DnsHealth.Proofs.Rdata

/-!
# Reading questions and records

A record is well-formed when its name and its data are and its type is that of its data. Reading
yields only such records, and such a record whose data fits its length word is read back from its
form.
-/

namespace DnsHealth

/-- A record that the wire format can carry, the length of its data apart. -/
structure Record.WellFormed (record : Record) : Prop where
  name : record.name.Valid
  type : record.type = record.rdata.type
  rdata : record.rdata.WellFormed

instance (record : Record) : Decidable record.WellFormed :=
  decidable_of_iff
    (record.name.Valid ∧ record.type = record.rdata.type ∧ record.rdata.WellFormed)
    ⟨fun h => ⟨h.1, h.2.1, h.2.2⟩, fun h => ⟨h.name, h.type, h.rdata⟩⟩

namespace Decoder

variable {message : Array UInt8} {offset : Nat}

theorem Reads.question {q : Question} (h : q.name.Valid) :
    Reads Question.decoder message offset q.wire q := by
  rw [Question.wire, List.append_assoc]
  exact (Reads.name h).bind ((Reads.u16 _).bind (Reads.u16 _).last)

/-- A record whose data fits its length word is read back from its form. -/
theorem Reads.record {r : Record} (h : r.WellFormed) (hlength : r.rdata.wire.length ≤ 65535) :
    Reads Record.decoder message offset r.wire r := by
  obtain ⟨name, type, cls, ttl, rdata⟩ := r
  obtain ⟨hname, htype, hrdata⟩ := h
  obtain rfl : type = rdata.type := htype
  have hword : (UInt16.ofNat rdata.wire.length).toNat = rdata.wire.length :=
    UInt16.toNat_ofNat_of_lt' (Nat.lt_succ_of_le hlength)
  simp only [Record.wire, Record.fieldsWire, List.append_assoc]
  exact (Reads.name hname).bind ((Reads.u16 _).bind ((Reads.u16 _).bind ((Reads.u32 _).bind
    ((Reads.u16 _).bind (Reads.rdata hrdata hword).last))))

theorem Yields.question : Yields Question.decoder (fun q => q.name.Valid) :=
  Yields.name.bind fun _ hname => skip fun _ => skip fun _ => .pure hname

/-- Every record that is read is well-formed, and octets that were kept as they are were counted by
a length word. -/
theorem Yields.record : Yields Record.decoder (fun r => r.WellFormed ∧
    ∀ type data, r.rdata = .unknown type data → data.length ≤ 65535) := by
  refine Yields.name.bind fun name hname => skip fun type => skip fun cls => skip fun ttl =>
    skip fun length => Yields.rdata.bind fun rdata hrdata => .pure ⟨?_, ?_⟩
  · exact { name := hname, type := hrdata.1.symm, rdata := hrdata.2.1 }
  · intro t data heq
    have hdata := hrdata.2.2 t data heq
    have := length.toNat_lt
    omega

end Decoder

end DnsHealth
