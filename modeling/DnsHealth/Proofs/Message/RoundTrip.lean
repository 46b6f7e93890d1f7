import DnsHealth.Proofs.Message.Sections

/-!
# Writing and reading messages

A well-formed message is read back from its form, with the counts of its header set to what was
written (`Message.ofWire_wire`). A message that was read is well-formed as far as reading can tell,
and so writing it again loses nothing but the number of OPT records that were met
(`Message.wire_ofWire`).
-/

namespace DnsHealth

namespace Message

/-- All resource records of a message. -/
def records (message : Message) : List Record :=
  message.answers ++ message.authorities ++ message.additionals

/-- A message that the wire format can carry: the numbers of the header fit their bits, the counts
and lengths their words, and every part is well-formed. EDNS content is held apart, so no OPT record
of the root is left among the additional records. -/
structure WellFormed (message : Message) : Prop where
  fits : message.header.Fits
  questions_length : message.questions.length ≤ 65535
  answers_length : message.answers.length ≤ 65535
  authorities_length : message.authorities.length ≤ 65535
  additionals_length : message.additionals.length + message.edns.toList.length ≤ 65535
  questions : ∀ q ∈ message.questions, q.name.Valid
  records : ∀ r ∈ message.records, r.WellFormed
  rdata_length : ∀ r ∈ message.records, r.rdata.wire.length ≤ 65535
  edns_length : ∀ edns ∈ message.edns, edns.data.length ≤ 65535
  additionals : ∀ r ∈ message.additionals, r.isRootOpt = false

/-- The entries of the additional section: the records, and the EDNS content behind them. -/
def entries (message : Message) : List (Edns ⊕ Record) :=
  message.additionals.map .inr ++ message.edns.toList.map .inl

/-- An entry of the additional section on the wire. -/
def entryWire : Edns ⊕ Record → Bytes
  | .inl edns => ednsWire edns
  | .inr record => record.wire

variable {message : Message}

theorem wire_of_fits (h : message.header.Fits) :
    message.wire = .ok (message.countedHeader.octets ++ message.sectionsWire) := by
  have hfits : message.countedHeader.Fits := h
  rw [wire, Header.wire_of_fits hfits]

theorem sectionsWire_eq (message : Message) :
    message.sectionsWire = message.questions.flatMap Question.wire ++
      (message.answers.flatMap Record.wire ++ (message.authorities.flatMap Record.wire ++
        message.entries.flatMap entryWire)) := by
  have hrecords : (message.additionals.map Sum.inr).flatMap entryWire =
      message.additionals.flatMap Record.wire := List.flatMap_map ..
  have hcontent : (message.edns.toList.map Sum.inl).flatMap entryWire =
      message.edns.toList.flatMap ednsWire := List.flatMap_map ..
  simp only [sectionsWire, entries, List.flatMap_append, hrecords, hcontent, List.append_assoc]

/-- The records are found again among the entries. -/
theorem filterMap_getRight?_entries (message : Message) :
    message.entries.filterMap Sum.getRight? = message.additionals := by
  simp [entries, List.filterMap_map, Function.comp_def]

/-- The EDNS content is found again among the entries. -/
theorem getLast?_getLeft?_entries (message : Message) :
    (message.entries.filterMap Sum.getLeft?).getLast? = message.edns := by
  cases hedns : message.edns <;> simp [entries, hedns, List.filterMap_map, Function.comp_def]

/-- The counts that are written are the lengths of the sections, the EDNS content counted among the
additional records. -/
theorem WellFormed.counts (h : message.WellFormed) :
    message.countedHeader.questionCount.toNat = message.questions.length ∧
      message.countedHeader.answerCount.toNat = message.answers.length ∧
      message.countedHeader.authorityCount.toNat = message.authorities.length ∧
      message.countedHeader.additionalCount.toNat =
        message.additionals.length + message.edns.toList.length :=
  ⟨UInt16.toNat_ofNat_of_lt' (Nat.lt_succ_of_le h.questions_length),
    UInt16.toNat_ofNat_of_lt' (Nat.lt_succ_of_le h.answers_length),
    UInt16.toNat_ofNat_of_lt' (Nat.lt_succ_of_le h.authorities_length),
    UInt16.toNat_ofNat_of_lt' (Nat.lt_succ_of_le h.additionals_length)⟩

end Message

namespace Decoder

variable {octets : Array UInt8} {offset : Nat} {m : Message}

/-- An entry of the additional section is read back from its form. -/
theorem Reads.entry (h : m.WellFormed) {entry : Edns ⊕ Record} (hentry : entry ∈ m.entries) :
    Reads Message.additionalDecoder octets offset (Message.entryWire entry) entry := by
  intro hholds
  rw [additionalDecoder_eq_ok]
  rcases List.mem_append.mp hentry with hentry | hentry
  · obtain ⟨record, hrecord, rfl⟩ := List.mem_map.mp hentry
    have hmem : record ∈ m.records := List.mem_append_right _ hrecord
    exact ⟨record, Reads.record (h.records record hmem) (h.rdata_length record hmem) hholds,
      h.additionals record hrecord, rfl⟩
  · obtain ⟨edns, hedns, rfl⟩ := List.mem_map.mp hentry
    have hlength := h.edns_length edns (Option.mem_toList.mp hedns)
    exact ⟨.ofEdns edns, Reads.record (Record.wellFormed_ofEdns edns) hlength hholds, rfl,
      Record.edns?_ofEdns hlength⟩

/-- A well-formed message is read back, with the counts of its sections. -/
theorem Reads.message (h : m.WellFormed) :
    Reads Message.decoder octets offset (m.countedHeader.octets ++ m.sectionsWire)
      { m with header := m.countedHeader } := by
  obtain ⟨hquestions, hanswers, hauthorities, hadditionals⟩ := h.counts
  have hentries : m.countedHeader.additionalCount.toNat = m.entries.length := by
    rw [hadditionals, Message.entries, List.length_append, List.length_map, List.length_map]
  have hrecord : ∀ r ∈ m.records, ∀ offset, Reads Record.decoder octets offset r.wire r :=
    fun r hr _ => Reads.record (h.records r hr) (h.rdata_length r hr)
  have hvalue : { m with header := m.countedHeader } =
      { m with
        header := m.countedHeader
        additionals := m.entries.filterMap Sum.getRight?
        edns := (m.entries.filterMap Sum.getLeft?).getLast? } := by
    rw [Message.filterMap_getRight?_entries, Message.getLast?_getLeft?_entries]
  have hfits : m.countedHeader.Fits := h.fits
  rw [hvalue, Message.sectionsWire_eq]
  -- Only the counts of the header matter below, not how they were computed.
  generalize m.countedHeader = header at *
  exact (Reads.header hfits).bind
    ((Reads.replicate hquestions fun q hq _ => Reads.question (h.questions q hq)).bind
      ((Reads.replicate hanswers fun r hr => hrecord r (by simp [Message.records, hr])).bind
        ((Reads.replicate hauthorities fun r hr => hrecord r (by simp [Message.records, hr])).bind
          (Reads.replicate hentries fun entry hentry _ => Reads.entry h hentry).last)))

end Decoder

namespace Message

variable {message : Message} {bytes : Bytes}

/-! ### Reading what was written -/

/-- A well-formed message is read from its form, with its header counted anew. -/
theorem ofWire_countedHeader (h : message.WellFormed) :
    ofWire (message.countedHeader.octets ++ message.sectionsWire) =
      .ok { message with header := message.countedHeader } :=
  congrArg Prod.fst (Decoder.Reads.message h (HoldsAt.whole _))

/-- **Decoding undoes encoding.** A well-formed message has a form, and reading the form gives the
message back with the four counts of its header replaced by the lengths of its sections; EDNS
content counts as one additional record. -/
theorem ofWire_wire (h : message.WellFormed) :
    ∃ form header, message.wire = .ok form ∧ ofWire form = .ok { message with header := header } ∧
      header =
        { message.header with
          questionCount := header.questionCount
          answerCount := header.answerCount
          authorityCount := header.authorityCount
          additionalCount := header.additionalCount } ∧
      header.questionCount.toNat = message.questions.length ∧
      header.answerCount.toNat = message.answers.length ∧
      header.authorityCount.toNat = message.authorities.length ∧
      header.additionalCount.toNat =
        message.additionals.length + if message.edns.isSome then 1 else 0 := by
  obtain ⟨hquestions, hanswers, hauthorities, hadditionals⟩ := h.counts
  refine ⟨_, message.countedHeader, wire_of_fits h.fits, ofWire_countedHeader h, rfl, hquestions,
    hanswers, hauthorities, ?_⟩
  rw [hadditionals]
  cases message.edns <;> rfl

/-- The answer to a query for text, with an OPT record that is not of the root among the additional
records and a label that is not ASCII. -/
theorem ofWire_wire_textAnswer :
    ∃ message : Message, message.answers.length = 1 ∧ message.edns.isSome = true ∧
      message.WellFormed ∧ ∃ form header, message.wire = .ok form ∧
        ofWire form = .ok { message with header := header } ∧ header.additionalCount.toNat = 2 := by
  let message : Message :=
    { query ⟨["bücher", "de"]⟩ .txt 7 with
      answers := [.ofRdata ⟨["bücher", "de"]⟩ 300 (.txt [[104, 105], []])]
      additionals := [.ofRdata ⟨["ns"]⟩ 60 (.unknown .opt [1])] }
  have hwell : message.WellFormed :=
    ⟨by decide, by decide, by decide, by decide, by decide, by decide, by decide, by decide,
      by decide, by decide⟩
  obtain ⟨form, header, hform, hread, -, -, -, -, hcount⟩ := ofWire_wire hwell
  exact ⟨message, rfl, rfl, hwell, form, header, hform, hread, hcount⟩

/-! ### Writing what was read -/

/-- Every additional record was either kept or an OPT record of the root. -/
theorem Extracts.additionals_length {sections : Sections} (hx : Extracts sections message) :
    message.additionals.length + sections.optCount = sections.additionals.length := by
  have hsplit := List.length_eq_countP_add_countP Record.isRootOpt (l := sections.additionals)
  simp only [Bool.not_eq_true, Bool.decide_eq_false] at hsplit
  rw [hx.additionals, Sections.optCount, ← List.countP_eq_length_filter, hsplit, Nat.add_comm]

/-- There is EDNS content exactly when there was an OPT record of the root to take it from. -/
theorem Extracts.edns_length {sections : Sections} (hx : Extracts sections message) :
    message.edns.toList.length = min sections.optCount 1 := by
  rw [hx.edns, Sections.optCount, List.countP_eq_length_filter]
  cases hlast : (sections.additionals.filter Record.isRootOpt).getLast? with
  | none => simp [List.getLast?_eq_none_iff.mp hlast]
  | some r =>
      obtain ⟨hr, hopt⟩ := List.mem_filter.mp (List.mem_of_getLast? hlast)
      have hpos : 0 < (sections.additionals.filter Record.isRootOpt).length :=
        List.length_pos_of_mem (List.mem_of_getLast? hlast)
      obtain ⟨edns, hedns⟩ := Option.isSome_iff_exists.mp (hx.content r hr hopt)
      simp [hedns]
      omega

/-- No record of a message is new: each stood in one of the sections. -/
theorem Extracts.mem_records {sections : Sections} (hx : Extracts sections message) {r : Record}
    (hr : r ∈ message.records) : r ∈ sections.records := by
  rw [records, hx.answers, hx.authorities, hx.additionals] at hr
  simp only [Sections.records, List.mem_append, List.mem_filter] at hr ⊢
  exact hr.imp_right And.left

/-- What is true of every record that is read is true of all records of a message that was read. -/
theorem forall_records_of_ofWire {P : Record → Prop} (hd : Decoder.Yields Record.decoder P)
    (h : ofWire bytes = .ok message) : ∀ r ∈ message.records, P r := by
  obtain ⟨sections, hsections, hx⟩ :=
    extracts_of_decoder_eq_ok (Prod.ext h rfl : decoder bytes.toArray 0 = (.ok message, _))
  exact fun r hr => hd.sections_records _ _ _ _ hsections r (hx.mem_records hr)

/-- A message that was read is well-formed when its data, which is written without compression,
still fits the length words. -/
theorem Extracts.wellFormed {sections : Sections} (hx : Extracts sections message)
    (hs : sections.WellFormed) (hlength : ∀ r ∈ message.records, r.rdata.wire.length ≤ 65535) :
    message.WellFormed := by
  have hadditionals := hx.additionals_length
  have hedns := hx.edns_length
  have hcount := hs.additionals_length
  have := sections.header.additionalCount.toNat_lt
  refine
    { fits := hx.header ▸ hs.fits
      questions_length := ?_
      answers_length := ?_
      authorities_length := ?_
      additionals_length := by omega
      questions := hx.questions ▸ hs.questions
      records := fun r hr => hs.records r (hx.mem_records hr)
      rdata_length := hlength
      edns_length := ?_
      additionals := ?_ }
  · rw [hx.questions, hs.questions_length]
    exact Nat.le_of_lt_succ (UInt16.toNat_lt _)
  · rw [hx.answers, hs.answers_length]
    exact Nat.le_of_lt_succ (UInt16.toNat_lt _)
  · rw [hx.authorities, hs.authorities_length]
    exact Nat.le_of_lt_succ (UInt16.toNat_lt _)
  · intro edns hedns
    rw [hx.edns] at hedns
    obtain ⟨r, hr, hcontent⟩ := Option.bind_eq_some_iff.mp hedns
    obtain ⟨hmem, hopt⟩ := List.mem_filter.mp (List.mem_of_getLast? hr)
    have hrecord : r ∈ sections.records := List.mem_append_right _ hmem
    obtain ⟨data, hdata⟩ := Record.rdata_of_isRootOpt (hs.records r hrecord) hopt
    rw [Record.data_of_edns?_eq_some hdata hcontent]
    exact hs.octets_length r hrecord _ data hdata
  · intro r hr
    rw [hx.additionals] at hr
    simpa using (List.mem_filter.mp hr).2

/-- Counting the sections of a message that was read changes at most the last count, which no longer
counts the OPT records that were not kept. -/
theorem Extracts.countedHeader_eq {sections : Sections} (hx : Extracts sections message)
    (hs : sections.WellFormed) :
    message.countedHeader =
      { message.header with additionalCount := message.countedHeader.additionalCount } := by
  have hquestions : UInt16.ofNat message.questions.length = message.header.questionCount := by
    rw [hx.questions, hs.questions_length, hx.header, UInt16.ofNat_toNat]
  have hanswers : UInt16.ofNat message.answers.length = message.header.answerCount := by
    rw [hx.answers, hs.answers_length, hx.header, UInt16.ofNat_toNat]
  have hauthorities : UInt16.ofNat message.authorities.length = message.header.authorityCount := by
    rw [hx.authorities, hs.authorities_length, hx.header, UInt16.ofNat_toNat]
  simp only [countedHeader, hquestions, hanswers, hauthorities]

/-- **Writing a message that was read loses nothing.** Whatever was read, compressed or not, has a
form; it is read as the same message, except that the header counts the additional records that were
kept and the EDNS content; there is no difference exactly when the message had at most one OPT
record of the root among its additional records; and the message read again has the same form. -/
theorem wire_ofWire (h : ofWire bytes = .ok message)
    (hlength : ∀ r ∈ message.records, r.rdata.wire.length ≤ 65535) :
    ∃ sections form again, Sections.ofWire bytes = .ok sections ∧ message.wire = .ok form ∧
      ofWire form = .ok again ∧
      again =
        { message with
          header := { message.header with additionalCount := again.header.additionalCount } } ∧
      again.header.additionalCount.toNat =
        (message.additionals.length + if message.edns.isSome then 1 else 0) ∧
      (again = message ↔ sections.optCount ≤ 1) ∧
      again.wire = .ok form := by
  obtain ⟨sections, hsections, hx⟩ :=
    extracts_of_decoder_eq_ok (Prod.ext h rfl : decoder bytes.toArray 0 = (.ok message, _))
  have hs := Decoder.Yields.sections _ _ _ _ hsections
  have hwell := hx.wellFormed hs hlength
  have hheader := hx.countedHeader_eq hs
  have hcount := hwell.counts.2.2.2
  refine ⟨sections, _, _, congrArg Prod.fst hsections, wire_of_fits hwell.fits,
    ofWire_countedHeader hwell, ?_, ?_, ?_, ?_⟩
  · rw [← hheader]
  · rw [hcount]
    cases message.edns <;> rfl
  · have hmet : message.additionals.length + sections.optCount =
        message.header.additionalCount.toNat := by
      rw [hx.additionals_length, hs.additionals_length, hx.header]
    have hkept := hx.edns_length
    constructor
    · intro hsame
      have hsame := congrArg (fun m : Message => m.header.additionalCount.toNat) hsame
      dsimp only at hsame
      omega
    · intro hfew
      have hsame : message.countedHeader.additionalCount = message.header.additionalCount :=
        UInt16.toNat_inj.mp (by omega)
      rw [hheader, hsame]
  · exact wire_of_fits hwell.fits

/-- A response with compressed names, two OPT records of the root and an octet too many: it is read
again as the same message but for the count of additional records. -/
theorem wire_ofWire_twoOptions :
    ∃ message form again,
      ofWire [0, 1, 129, 128, 0, 1, 0, 1, 0, 0, 0, 2,
          2, 97, 98, 0, 0, 5, 0, 1,
          192, 12, 0, 5, 0, 1, 0, 0, 0, 60, 0, 4, 1, 99, 192, 12,
          0, 0, 41, 4, 208, 0, 0, 128, 0, 0, 0,
          0, 0, 41, 16, 0, 0, 0, 0, 0, 0, 0, 255] = .ok message ∧
      (∀ r ∈ message.records, r.rdata.wire.length ≤ 65535) ∧
      message.wire = .ok form ∧ ofWire form = .ok again ∧ again ≠ message ∧
      again.wire = .ok form := by
  have hread : ofWire [0, 1, 129, 128, 0, 1, 0, 1, 0, 0, 0, 2,
      2, 97, 98, 0, 0, 5, 0, 1,
      192, 12, 0, 5, 0, 1, 0, 0, 0, 60, 0, 4, 1, 99, 192, 12,
      0, 0, 41, 4, 208, 0, 0, 128, 0, 0, 0,
      0, 0, 41, 16, 0, 0, 0, 0, 0, 0, 0, 255] = .ok
        { header :=
            { id := 1, response := true, recursionDesired := true, recursionAvailable := true
              questionCount := 1, answerCount := 1, additionalCount := 2 }
          questions := [{ name := ⟨["ab"]⟩, type := .cname, cls := .internet }]
          answers := [.ofRdata ⟨["ab"]⟩ 60 (.cname ⟨["c", "ab"]⟩)]
          edns := some (.ofPayloadSize 4096) } := by decide +kernel
  obtain ⟨_, form, again, -, hform, hagain, -, hcount, -, hstable⟩ := wire_ofWire hread (by decide)
  refine ⟨_, form, again, hread, by decide, hform, hagain, ?_, hstable⟩
  rintro rfl
  exact absurd hcount (by decide)

end Message

end DnsHealth
