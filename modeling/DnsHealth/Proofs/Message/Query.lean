import DnsHealth.Proofs.Message.RoundTrip

/-!
# Queries on the wire

A query for a name that keeps the limits is a well-formed message. Its form is the name and
twenty-seven octets around it, and is read as a query for the same name and type
(`Message.exists_wire_query`).
-/

namespace DnsHealth.Message

variable {name : Name}

/-- The OPT record that queries carry. -/
def queryEdns : Edns :=
  (Edns.ofPayloadSize queryPayloadSize).setDnssecOk true

theorem wellFormed_query (h : name.Valid) (type : RecordType) (id : UInt16) :
    (query name type id).WellFormed where
  fits := (by decide : Header.Fits {})
  questions_length := (by decide : 1 ≤ 65535)
  answers_length := Nat.zero_le _
  authorities_length := Nat.zero_le _
  additionals_length := (by decide : 0 + 1 ≤ 65535)
  questions := by
    intro q hq
    obtain rfl := List.mem_singleton.mp hq
    exact h
  records := fun r hr => absurd hr List.not_mem_nil
  rdata_length := fun r hr => absurd hr List.not_mem_nil
  edns_length := by
    intro edns hedns
    obtain rfl : queryEdns = edns := Option.some.inj hedns
    decide
  additionals := fun r hr => absurd hr List.not_mem_nil

/-- A question, and behind it the OPT record. -/
theorem sectionsWire_query (name : Name) (type : RecordType) (id : UInt16) :
    (query name type id).sectionsWire =
      name.wire ++ (Bytes.ofUInt16 type.code ++ (Bytes.ofUInt16 RecordClass.internet.code ++
        ednsWire queryEdns)) := by
  have hedns : (query name type id).edns.toList = [queryEdns] := rfl
  rw [sectionsWire, hedns]
  simp only [query, withEdns, Question.wire, List.flatMap_cons, List.flatMap_nil, List.append_nil,
    List.append_assoc]

/-- A query for a valid name has a form, and is read back from it with its OPT record counted. -/
theorem exists_wire_query (h : name.Valid) (type : RecordType) (id : UInt16) :
    ∃ form, (query name type id).wire = .ok form ∧ form.length = name.wireLength + 27 ∧
      ofWire form = .ok
        { header := { id, recursionDesired := true, questionCount := 1, additionalCount := 1 }
          questions := [{ name, type, cls := .internet }]
          edns := some { payloadSize := 2048, flags := 0x8000 } } := by
  have hwell := wellFormed_query h type id
  refine ⟨_, wire_of_fits hwell.fits, ?_, ofWire_countedHeader hwell⟩
  have hheader : (query name type id).countedHeader.octets.length = 12 := rfl
  have hedns : (ednsWire queryEdns).length = 11 := by decide
  rw [List.length_append, sectionsWire_query, hheader]
  simp only [List.length_append, Name.length_wire, Bytes.length_ofUInt16, hedns]
  omega

end DnsHealth.Message
