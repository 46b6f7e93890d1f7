import DnsHealth.Proofs.Message.RoundTrip
import DnsHealth.Proofs.Message.Tail

/-!
# What the counts of a header account for

Every entry that a header counts was read off octets of its own, so a message cannot count more than
it has octets for. `Decoder.Takes` says how many octets a successful read takes at least; it adds up
part by part, as the cursor never goes back, not even behind compressed names.

Together with the sections as they stand on the wire this accounts for everything in a message that
was read (`Message.ofWire_accounts`).
-/

namespace DnsHealth

/-! ### Octets that a read takes -/

namespace Decoder

variable {α β : Type}

/-- Every successful read takes at least `count` octets. -/
def Takes (d : Decoder α) (count : Nat) : Prop :=
  ∀ message offset a stop, d message offset = (.ok a, stop) → offset + count ≤ stop

namespace Takes

variable {d : Decoder α} {f : α → Decoder β} {front back : Nat}

protected theorem pure (a : α) : Takes (pure a) 0 := by
  intro _ _ _ _ h
  obtain ⟨-, rfl⟩ := pure_eq_ok.mp h
  exact Nat.le_refl _

/-- Two reads in a row take what both take. -/
protected theorem bind (hd : Takes d front) (hf : ∀ a, Takes (f a) back) :
    Takes (d >>= f) (front + back) := by
  intro message offset c stop h
  obtain ⟨a, next, ha, hc⟩ := bind_eq_ok.mp h
  have := hd _ _ _ _ ha
  have := hf a _ _ _ _ hc
  omega

theorem mono (hd : Takes d front) (h : back ≤ front) : Takes d back :=
  fun message offset a stop hread =>
    Nat.le_trans (Nat.add_le_add_left h offset) (hd message offset a stop hread)

protected theorem map (hd : Takes d front) (g : α → β) : Takes (g <$> d) front :=
  hd.bind fun a => .pure (g a)

protected theorem octets (count : Nat) : Takes (octets count) count := by
  intro message offset v stop h
  rw [Decoder.octets] at h
  split at h
  case _ => exact Nat.le_of_eq (Prod.mk.inj h).2
  case _ => cases (Prod.mk.inj h).1

protected theorem u8 : Takes u8 1 :=
  (Takes.octets 1).map _

protected theorem u16 : Takes u16 2 :=
  (Takes.octets 2).map _

protected theorem u32 : Takes u32 4 :=
  (Takes.octets 4).map _

/-- A name takes an octet of its own, wherever pointers lead. -/
protected theorem name : Takes name 1 := by
  intro message offset n stop h
  rcases hwalk : labels message offset offset 1 with e | ⟨found, next⟩
  · rw [name_of_labels_error hwalk] at h
    cases (Prod.mk.inj h).1
  · rw [name_of_labels hwalk] at h
    obtain ⟨-, rfl⟩ := Prod.mk.inj h
    exact (labels_stop hwalk).1

/-- Values in a row take as often what one of them takes. -/
protected theorem replicate (hd : Takes d front) (count : Nat) :
    Takes (replicate count d) (front * count) := by
  induction count with
  | zero => exact .pure []
  | succ count ih =>
      rw [replicate_succ, Nat.mul_succ, Nat.add_comm]
      exact hd.bind fun a => ih.map _

/-- Record data takes the octets that it declares, neither more nor less. -/
protected theorem rdata (type : RecordType) (length : Nat) :
    Takes (Rdata.decoder type length) length := by
  intro message offset value stop h
  exact Nat.le_of_eq (fields_of_rdata_eq_ok h).2.symm

protected theorem header : Takes Header.decoder Header.size := by
  intro message offset header stop h
  rw [Header.decoder] at h
  split at h
  case _ v next hread =>
      obtain ⟨-, rfl⟩ := Prod.mk.inj h
      exact Takes.octets Header.size _ _ _ _ hread
  case _ => cases (Prod.mk.inj h).1

/-- A name of the root, a type and a class. -/
protected theorem question : Takes Question.decoder 5 :=
  Takes.name.bind fun _ => Takes.u16.bind fun _ => Takes.u16.bind fun _ => .pure _

/-- A name of the root, a type, a class, a time to live and the length of no data. -/
protected theorem record : Takes Record.decoder 11 :=
  Takes.name.bind fun _ => Takes.u16.bind fun _ => Takes.u16.bind fun _ => Takes.u32.bind fun _ =>
    Takes.u16.bind fun _ => ((Takes.rdata _ _).mono (Nat.zero_le _)).bind fun _ => .pure _

end Takes

end Decoder

/-- Sections take the header and, for every entry that it counts, the octets of a smallest entry. -/
theorem Sections.le_stop {message : Array UInt8} {offset stop : Nat} {sections : Sections}
    (h : Sections.decoder message offset = (.ok sections, stop)) :
    offset + 12 + 5 * sections.header.questionCount.toNat +
      11 * (sections.header.answerCount.toNat + sections.header.authorityCount.toNat +
        sections.header.additionalCount.toNat) ≤ stop := by
  obtain ⟨header, _, hheader, h⟩ := Decoder.bind_eq_ok.mp h
  obtain ⟨questions, _, hquestions, h⟩ := Decoder.bind_eq_ok.mp h
  obtain ⟨answers, _, hanswers, h⟩ := Decoder.bind_eq_ok.mp h
  obtain ⟨authorities, _, hauthorities, h⟩ := Decoder.bind_eq_ok.mp h
  obtain ⟨additionals, _, hadditionals, h⟩ := Decoder.bind_eq_ok.mp h
  obtain ⟨rfl, rfl⟩ := Decoder.pure_eq_ok.mp h
  have := Decoder.Takes.header _ _ _ _ hheader
  have := Decoder.Takes.question.replicate _ _ _ _ _ hquestions
  have := Decoder.Takes.record.replicate _ _ _ _ _ hanswers
  have := Decoder.Takes.record.replicate _ _ _ _ _ hauthorities
  have := Decoder.Takes.record.replicate _ _ _ _ _ hadditionals
  simp only [Header.size] at *
  omega

/-! ### Names in a message -/

/-- The names in record data. -/
def Rdata.names : Rdata → List Name
  | .cname target | .ns target | .ptr target => [target]
  | .mx _ exchange => [exchange]
  | .soa zone => [zone.mname, zone.rname]
  | .srv service => [service.target]
  | .rrsig signature => [signature.signerName]
  | .a _ | .aaaa _ | .txt _ | .spf _ | .ds _ | .dnskey _ | .unknown _ _ => []

/-- The owner of a record and the names in its data. -/
def Record.names (record : Record) : List Name :=
  record.name :: record.rdata.names

theorem Rdata.WellFormed.valid_of_mem_names {value : Rdata} (h : value.WellFormed) :
    ∀ n ∈ value.names, n.Valid := by
  cases value <;> simp_all [Rdata.names, Rdata.WellFormed]

theorem Record.WellFormed.valid_of_mem_names {record : Record} (h : record.WellFormed) :
    ∀ n ∈ record.names, n.Valid :=
  List.forall_mem_cons.mpr ⟨h.name, h.rdata.valid_of_mem_names⟩

namespace Message

/-- Every name in a message: those of the questions, and of the records their owners and the names
in their data. -/
def names (message : Message) : List Name :=
  message.questions.map Question.name ++ message.records.flatMap Record.names

variable {bytes : Bytes} {message : Message} {sections : Sections}

theorem Extracts.valid_of_mem_names (hx : Extracts sections message) (hs : sections.WellFormed) :
    ∀ n ∈ message.names, n.Valid := by
  intro n hn
  rcases List.mem_append.mp hn with hn | hn
  · obtain ⟨q, hq, rfl⟩ := List.mem_map.mp hn
    exact hs.questions q (hx.questions ▸ hq)
  · obtain ⟨r, hr, hn⟩ := List.mem_flatMap.mp hn
    exact (hs.records r (hx.mem_records hr)).valid_of_mem_names n hn

/-- The last OPT record of the root is the one that the content comes from. -/
theorem Extracts.edns_of_last (hx : Extracts sections message) (hs : sections.WellFormed)
    {before after : List Record} {r : Record} (hsplit : sections.additionals = before ++ r :: after)
    (hopt : r.isRootOpt = true) (hafter : ∀ q ∈ after, q.isRootOpt = false) :
    ∃ data edns, r.rdata = .unknown .opt data ∧ Edns.ofFields r.cls.code r.ttl data = .ok edns ∧
      message.edns = some edns := by
  have hmem : r ∈ sections.additionals := hsplit ▸ List.mem_append_right before List.mem_cons_self
  obtain ⟨data, hdata⟩ :=
    Record.rdata_of_isRootOpt (hs.records r (List.mem_append_right _ hmem)) hopt
  obtain ⟨edns, hedns⟩ := Option.isSome_iff_exists.mp (hx.content r hmem hopt)
  have hnone : after.filter Record.isRootOpt = [] :=
    List.filter_eq_nil_iff.mpr fun q hq => Bool.eq_false_iff.mp (hafter q hq)
  have hlast : (sections.additionals.filter Record.isRootOpt).getLast? = some r := by
    rw [hsplit, List.filter_append, List.filter_cons_of_pos hopt, hnone, List.getLast?_concat]
  exact ⟨data, edns, hdata, Record.ofFields_of_edns?_eq_some hdata hedns,
    by rw [hx.edns, hlast, Option.bind_some, hedns]⟩

theorem Extracts.edns_eq_none_iff (hx : Extracts sections message) :
    message.edns = none ↔ sections.optCount = 0 := by
  rw [← Option.toList_eq_nil_iff, ← List.length_eq_zero_iff, hx.edns_length]
  omega

/-- **What a message that was read accounts for.** The sections hold as many entries as the header
counts; of the additional records as they stand on the wire the message keeps all but the OPT
records of the root, in their order, and there is EDNS content exactly when there was such a record,
namely that of the last one. Every record has the type of its data, every name keeps the limits, and
there are at least twelve octets for the header, five for each question and eleven for each record
that is counted. -/
theorem ofWire_accounts (h : ofWire bytes = .ok message) :
    ∃ sections, Sections.ofWire bytes = .ok sections ∧
      message.questions.length = message.header.questionCount.toNat ∧
      message.answers.length = message.header.answerCount.toNat ∧
      message.authorities.length = message.header.authorityCount.toNat ∧
      sections.additionals.length = message.header.additionalCount.toNat ∧
      message.additionals.length + sections.optCount = message.header.additionalCount.toNat ∧
      message.additionals = sections.additionals.filter (fun r => !r.isRootOpt) ∧
      (∀ r ∈ message.additionals, r.isRootOpt = false) ∧
      (message.edns = none ↔ sections.optCount = 0) ∧
      (∀ before r after, sections.additionals = before ++ r :: after → r.isRootOpt = true →
        (∀ q ∈ after, q.isRootOpt = false) →
          ∃ data edns, r.rdata = .unknown .opt data ∧
            Edns.ofFields r.cls.code r.ttl data = .ok edns ∧ message.edns = some edns) ∧
      (∀ r ∈ message.records, r.type = r.rdata.type) ∧
      (∀ n ∈ message.names, n.Valid) ∧
      12 + 5 * message.header.questionCount.toNat +
        11 * (message.header.answerCount.toNat + message.header.authorityCount.toNat +
          message.header.additionalCount.toNat) ≤ bytes.length := by
  have hread : decoder bytes.toArray 0 = (.ok message, _) := Prod.ext h rfl
  obtain ⟨sections, hsections, hx⟩ := extracts_of_decoder_eq_ok hread
  have hs := Decoder.Yields.sections _ _ _ _ hsections
  refine ⟨sections, congrArg Prod.fst hsections, ?_, ?_, ?_, ?_, ?_,
    hx.additionals, ?_, hx.edns_eq_none_iff,
    fun before r after hsplit hopt hafter => hx.edns_of_last hs hsplit hopt hafter,
    fun r hr => (hs.records r (hx.mem_records hr)).type, hx.valid_of_mem_names hs, ?_⟩
  · rw [hx.questions, hx.header, hs.questions_length]
  · rw [hx.answers, hx.header, hs.answers_length]
  · rw [hx.authorities, hx.header, hs.authorities_length]
  · rw [hx.header, hs.additionals_length]
  · rw [hx.additionals_length, hx.header, hs.additionals_length]
  · intro r hr
    rw [hx.additionals] at hr
    simpa using (List.mem_filter.mp hr).2
  · have hoctets := Sections.le_stop hsections
    have hend := decoder_stop_le hread
    rw [hx.header]
    omega

/-- A response with OPT records in every place: one of the root among the answers, and among the
additional records one of another owner between two of the root. -/
theorem ofWire_accounts_optEverywhere :
    ∃ (message : Message) (sections : Sections),
      ofWire [0, 1, 129, 128, 0, 1, 0, 2, 0, 0, 0, 3,
          2, 97, 98, 0, 0, 5, 0, 1,
          192, 12, 0, 5, 0, 1, 0, 0, 0, 60, 0, 4, 1, 99, 192, 12,
          0, 0, 41, 2, 0, 0, 0, 0, 0, 0, 0,
          0, 0, 41, 4, 208, 0, 0, 128, 0, 0, 0,
          192, 12, 0, 41, 0, 1, 0, 0, 0, 0, 0, 0,
          0, 0, 41, 16, 0, 0, 0, 0, 0, 0, 0] = .ok message ∧
      message.header.additionalCount = 3 ∧ sections.optCount = 2 ∧
      message.additionals = sections.additionals.filter (fun r => !r.isRootOpt) ∧
      message.additionals.map Record.name = [⟨["ab"]⟩] ∧ message.edns = some (.ofPayloadSize 4096) ∧
      message.names = [⟨["ab"]⟩, ⟨["ab"]⟩, ⟨["c", "ab"]⟩, .root, ⟨["ab"]⟩] := by
  have hread : ofWire [0, 1, 129, 128, 0, 1, 0, 2, 0, 0, 0, 3,
      2, 97, 98, 0, 0, 5, 0, 1,
      192, 12, 0, 5, 0, 1, 0, 0, 0, 60, 0, 4, 1, 99, 192, 12,
      0, 0, 41, 2, 0, 0, 0, 0, 0, 0, 0,
      0, 0, 41, 4, 208, 0, 0, 128, 0, 0, 0,
      192, 12, 0, 41, 0, 1, 0, 0, 0, 0, 0, 0,
      0, 0, 41, 16, 0, 0, 0, 0, 0, 0, 0] = .ok
        { header :=
            { id := 1, response := true, recursionDesired := true, recursionAvailable := true
              questionCount := 1, answerCount := 2, additionalCount := 3 }
          questions := [{ name := ⟨["ab"]⟩, type := .cname, cls := .internet }]
          answers := [.ofRdata ⟨["ab"]⟩ 60 (.cname ⟨["c", "ab"]⟩),
            { name := .root, type := .opt, cls := ⟨512⟩, ttl := 0, rdata := .unknown .opt [] }]
          additionals := [.ofRdata ⟨["ab"]⟩ 0 (.unknown .opt [])]
          edns := some (.ofPayloadSize 4096) } := by decide +kernel
  obtain ⟨sections, -, -, -, -, -, hkept, hadditionals, -⟩ := ofWire_accounts hread
  refine ⟨_, sections, hread, rfl, ?_, hadditionals, rfl, rfl, rfl⟩
  -- One record was kept of the three that are counted.
  exact Nat.add_left_cancel (hkept : 1 + sections.optCount = 1 + 2)

end Message

end DnsHealth
