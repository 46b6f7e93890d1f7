import DnsHealth.Message
import DnsHealth.Proofs.Message.Edns
import DnsHealth.Proofs.Message.Header
import DnsHealth.Proofs.Message.Record

/-!
# The sections of a message

On the wire an OPT record stands among the additional records. `Sections.decoder` reads a message as
it stands there, and `Message.Extracts` says what a message keeps of its sections: reading a message
is reading its sections and taking the OPT records of the root out
(`Message.extracts_of_decoder_eq_ok`). All that reading makes sure of is said of the sections, once.
-/

namespace DnsHealth

/-! ### The OPT record -/

namespace Record

/-- An OPT record of the root, which carries EDNS content in the additional section. -/
def isRootOpt (record : Record) : Bool :=
  record.type = .opt ∧ record.name.isRoot

/-- The EDNS content of a record, if its data can be read as such. -/
def edns? (record : Record) : Option Edns :=
  match record.rdata with
  | .unknown _ data => (Edns.ofFields record.cls.code record.ttl data).toOption
  | _ => none

/-- The OPT record of EDNS content. -/
def ofEdns (edns : Edns) : Record :=
  { name := .root, type := .opt, cls := ⟨edns.payloadSize⟩, ttl := edns.ttl
    rdata := .unknown .opt edns.data }

theorem wellFormed_ofEdns (edns : Edns) : (ofEdns edns).WellFormed where
  name := (by decide : Name.root.Valid)
  type := rfl
  rdata := (by decide : RecordType.opt ∉ RecordType.interpreted)

/-- A well-formed OPT record has octets without an interpretation. -/
theorem rdata_of_isRootOpt {record : Record} (h : record.WellFormed)
    (hopt : record.isRootOpt = true) : ∃ data, record.rdata = .unknown .opt data := by
  have htype : record.rdata.type = .opt := by
    rw [← h.type]
    exact (decide_eq_true_eq.mp hopt).1
  have hplain : record.rdata.type ∉ RecordType.interpreted := by
    rw [htype]
    decide
  rw [← htype]
  exact Rdata.eq_unknown_of_not_mem hplain

/-- The content of the OPT record that carries it. -/
theorem edns?_ofEdns {edns : Edns} (h : edns.data.length ≤ 65535) :
    (ofEdns edns).edns? = some edns := by
  have hfit : ∀ option ∈ edns.options, option.data.length ≤ 65535 :=
    fun option hoption => Nat.le_trans (Edns.length_le_of_mem hoption) h
  simp only [ofEdns, edns?, Edns.ofFields_fields hfit, Except.toOption]

/-- Content that was read off a record is the reading of its fields. -/
theorem ofFields_of_edns?_eq_some {record : Record} {type : RecordType} {data : Bytes} {edns : Edns}
    (hdata : record.rdata = .unknown type data) (h : record.edns? = some edns) :
    Edns.ofFields record.cls.code record.ttl data = .ok edns := by
  simp only [edns?, hdata] at h
  cases hfields : Edns.ofFields record.cls.code record.ttl data with
  | ok content =>
      rw [hfields] at h
      exact congrArg Except.ok (Option.some.inj h)
  | error e => simp [hfields, Except.toOption] at h

/-- Content that was read off a record has the data of the record. -/
theorem data_of_edns?_eq_some {record : Record} {type : RecordType} {data : Bytes} {edns : Edns}
    (hdata : record.rdata = .unknown type data) (h : record.edns? = some edns) : edns.data = data :=
  congrArg (fun fields => fields.2.2)
    (Edns.fields_of_ofFields_eq_ok (ofFields_of_edns?_eq_some hdata h))

end Record

namespace Decoder

variable {message : Array UInt8} {offset stop : Nat}

/-- What an entry of the additional section stands for: the content of an OPT record of the root, or
any other record. -/
def StandsFor (record : Record) : Edns ⊕ Record → Prop
  | .inl edns => record.isRootOpt = true ∧ record.edns? = some edns
  | .inr other => record.isRootOpt = false ∧ other = record

/-- What is made of a record does not move the cursor. -/
theorem additionalDecoder_eq_ok_of_record {record : Record} {entry : Edns ⊕ Record} {next : Nat}
    (hrecord : Record.decoder message offset = (.ok record, next)) :
    Message.additionalDecoder message offset = (.ok entry, stop) ↔
    next = stop ∧ StandsFor record entry := by
  have hwell := (Yields.record _ _ _ _ hrecord).1
  rw [Message.additionalDecoder, bind_ok hrecord]
  cases hopt : record.isRootOpt with
  | true =>
      -- Such a record has octets, so what happens to it is what happens to them.
      obtain ⟨data, hdata⟩ := Record.rdata_of_isRootOpt hwell hopt
      have hsome : Message.ednsData? record = some data := by
        rw [Message.ednsData?, if_pos (decide_eq_true_eq.mp hopt), hdata]
      rw [hsome]
      dsimp only
      cases hedns : Edns.ofFields record.cls.code record.ttl data with
      | ok edns =>
          have hcontent : record.edns? = some edns := by
            simp only [Record.edns?, hdata, hedns, Except.toOption]
          cases entry <;> simp [StandsFor, hopt, hcontent, and_comm]
      | error e =>
          have hcontent : record.edns? = none := by
            simp only [Record.edns?, hdata, hedns, Except.toOption]
          cases entry <;> simp [StandsFor, fail, hopt, hcontent]
  | false =>
      have hnone : Message.ednsData? record = none := by
        rw [Message.ednsData?, if_neg (decide_eq_false_iff_not.mp hopt)]
      rw [hnone]
      cases entry <;> simp [StandsFor, hopt, and_comm, eq_comm]

/-- An entry is read off a record that it stands for. -/
theorem additionalDecoder_eq_ok {entry : Edns ⊕ Record} :
    Message.additionalDecoder message offset = (.ok entry, stop) ↔
      ∃ record, Record.decoder message offset = (.ok record, stop) ∧ StandsFor record entry := by
  constructor
  · intro h
    obtain ⟨record, next, hrecord, -⟩ := bind_eq_ok.mp h
    obtain ⟨rfl, hstands⟩ := (additionalDecoder_eq_ok_of_record hrecord).mp h
    exact ⟨record, hrecord, hstands⟩
  · rintro ⟨record, hrecord, hstands⟩
    exact (additionalDecoder_eq_ok_of_record hrecord).mpr ⟨rfl, hstands⟩

/-- The additional section is read off the records that stand in it, and loses none: the OPT records
of the root become content and the others stay, each in their order. -/
theorem replicate_additionalDecoder {count : Nat} {entries : List (Edns ⊕ Record)}
    (h : replicate count Message.additionalDecoder message offset = (.ok entries, stop)) :
    ∃ records, replicate count Record.decoder message offset = (.ok records, stop) ∧
      entries.filterMap Sum.getRight? = records.filter (fun r => !r.isRootOpt) ∧
      (entries.filterMap Sum.getLeft?).map some =
      (records.filter Record.isRootOpt).map Record.edns? := by
  induction count generalizing offset entries with
  | zero =>
      obtain ⟨rfl, rfl⟩ := pure_eq_ok.mp h
      exact ⟨[], rfl, rfl, rfl⟩
  | succ count ih =>
      rw [replicate_succ] at h ⊢
      obtain ⟨entry, _, hentry, h⟩ := bind_eq_ok.mp h
      obtain ⟨more, _, hmore, h⟩ := bind_eq_ok.mp h
      obtain ⟨rfl, rfl⟩ := pure_eq_ok.mp h
      obtain ⟨record, hrecord, hstands⟩ := additionalDecoder_eq_ok.mp hentry
      obtain ⟨rest, hrest, hothers, hcontents⟩ := ih hmore
      refine ⟨record :: rest, ?_, ?_⟩
      · rw [bind_ok hrecord, bind_ok hrest, pure_apply]
      · cases entry with
        | inl edns =>
            obtain ⟨hopt, hedns⟩ := hstands
            simp [List.filterMap_cons, hopt, hedns, hothers, hcontents]
        | inr other =>
            obtain ⟨hopt, rfl⟩ := hstands
            simp [List.filterMap_cons, hopt, hothers, hcontents]

end Decoder

/-! ### Sections -/

/-- A header and four sections as they stand on the wire, OPT records included. -/
structure Sections where
  header : Header
  questions : List Question
  answers : List Record
  authorities : List Record
  additionals : List Record

namespace Sections

/-- Read a header and the sections that it counts. -/
def decoder : Decoder Sections := do
  let header ← Header.decoder
  let questions ← Decoder.replicate header.questionCount.toNat Question.decoder
  let answers ← Decoder.replicate header.answerCount.toNat Record.decoder
  let authorities ← Decoder.replicate header.authorityCount.toNat Record.decoder
  let additionals ← Decoder.replicate header.additionalCount.toNat Record.decoder
  pure { header, questions, answers, authorities, additionals }

/-- The header and sections at the start of a byte string. -/
def ofWire (bytes : Bytes) : Except FormatError Sections :=
  decoder.decode bytes

/-- How many OPT records of the root stand in the additional section. -/
def optCount (sections : Sections) : Nat :=
  sections.additionals.countP Record.isRootOpt

/-- All resource records, OPT records included. -/
def records (sections : Sections) : List Record :=
  sections.answers ++ sections.authorities ++ sections.additionals

/-- What reading makes sure of. -/
structure WellFormed (sections : Sections) : Prop where
  fits : sections.header.Fits
  questions_length : sections.questions.length = sections.header.questionCount.toNat
  answers_length : sections.answers.length = sections.header.answerCount.toNat
  authorities_length : sections.authorities.length = sections.header.authorityCount.toNat
  additionals_length : sections.additionals.length = sections.header.additionalCount.toNat
  questions : ∀ q ∈ sections.questions, q.name.Valid
  records : ∀ r ∈ sections.records, r.WellFormed
  octets_length : ∀ r ∈ sections.records, ∀ type data, r.rdata = .unknown type data →
    data.length ≤ 65535

end Sections

/-- The sections that are read are as many and as well-formed as the header says. -/
theorem Decoder.Yields.sections : Yields Sections.decoder Sections.WellFormed := by
  refine Yields.header.bind fun header hfits =>
    (Yields.question.replicate _).bind fun questions hq =>
    (Yields.record.replicate _).bind fun answers han => (Yields.record.replicate _).bind
      fun authorities hau => (Yields.record.replicate _).bind fun additionals had => .pure ?_
  have hrecords : ∀ r ∈ answers ++ authorities ++ additionals, r.WellFormed ∧
      ∀ type data, r.rdata = .unknown type data → data.length ≤ 65535 := by
    intro r hr
    rcases List.mem_append.mp hr with hr | hr
    · rcases List.mem_append.mp hr with hr | hr
      · exact han.2 r hr
      · exact hau.2 r hr
    · exact had.2 r hr
  exact
    { fits := hfits
      questions_length := hq.1
      answers_length := han.1
      authorities_length := hau.1
      additionals_length := had.1
      questions := hq.2
      records := fun r hr => (hrecords r hr).1
      octets_length := fun r hr => (hrecords r hr).2 }

/-- What is true of every record that is read is true of all records of the sections. -/
theorem Decoder.Yields.sections_records {P : Record → Prop} (h : Yields Record.decoder P) :
    Yields Sections.decoder (fun sections => ∀ r ∈ sections.records, P r) := by
  refine skip fun header => skip fun questions => (h.replicate _).bind fun answers han =>
    (h.replicate _).bind fun authorities hau => (h.replicate _).bind fun additionals had => .pure ?_
  simp only [Sections.records, List.forall_mem_append]
  exact ⟨⟨han.2, hau.2⟩, had.2⟩

namespace Message

/-- A message is what its sections say, with the OPT records of the root taken out of the additional
section. Of several ones the last counts. -/
structure Extracts (sections : Sections) (message : Message) : Prop where
  header : message.header = sections.header
  questions : message.questions = sections.questions
  answers : message.answers = sections.answers
  authorities : message.authorities = sections.authorities
  additionals : message.additionals = sections.additionals.filter fun r => !r.isRootOpt
  edns : message.edns = (sections.additionals.filter Record.isRootOpt).getLast?.bind Record.edns?
  content : ∀ r ∈ sections.additionals, r.isRootOpt = true → r.edns?.isSome = true

/-- Two ways to say that an optional value is the result of a partial function on another one. -/
theorem eq_bind_of_map_some {α β : Type} {x : Option α} {y : Option β} {f : β → Option α}
    (h : x.map some = y.map f) : x = y.bind f := by
  cases y with
  | none => simpa using h
  | some b =>
      cases x with
      | none => simp at h
      | some a => simpa using h

/-- Reading a message is reading its sections and taking out the OPT records. -/
theorem extracts_of_decoder_eq_ok {octets : Array UInt8} {offset stop : Nat} {message : Message}
    (h : decoder octets offset = (.ok message, stop)) :
    ∃ sections, Sections.decoder octets offset = (.ok sections, stop) ∧
      Extracts sections message := by
  obtain ⟨header, _, hheader, h⟩ := Decoder.bind_eq_ok.mp h
  obtain ⟨questions, _, hquestions, h⟩ := Decoder.bind_eq_ok.mp h
  obtain ⟨answers, _, hanswers, h⟩ := Decoder.bind_eq_ok.mp h
  obtain ⟨authorities, _, hauthorities, h⟩ := Decoder.bind_eq_ok.mp h
  obtain ⟨entries, _, hentries, h⟩ := Decoder.bind_eq_ok.mp h
  obtain ⟨rfl, rfl⟩ := Decoder.pure_eq_ok.mp h
  obtain ⟨additionals, hadditionals, hothers, hcontents⟩ :=
    Decoder.replicate_additionalDecoder hentries
  refine ⟨{ header, questions, answers, authorities, additionals }, ?_, ?_⟩
  · rw [Sections.decoder, Decoder.bind_ok hheader, Decoder.bind_ok hquestions,
      Decoder.bind_ok hanswers, Decoder.bind_ok hauthorities, Decoder.bind_ok hadditionals,
      Decoder.pure_apply]
  · refine ⟨rfl, rfl, rfl, rfl, hothers, ?_, ?_⟩
    · have hlast := congrArg List.getLast? hcontents
      rw [List.getLast?_map, List.getLast?_map] at hlast
      exact eq_bind_of_map_some hlast
    · intro r hr hopt
      have hmem : r.edns? ∈ (additionals.filter Record.isRootOpt).map Record.edns? :=
        List.mem_map_of_mem (List.mem_filter.mpr ⟨hr, hopt⟩)
      rw [← hcontents] at hmem
      obtain ⟨edns, -, hedns⟩ := List.mem_map.mp hmem
      rw [← hedns]
      rfl

/-- A message that was read stands for well-formed sections. -/
theorem exists_sections_of_ofWire {bytes : Bytes} {message : Message}
    (h : ofWire bytes = .ok message) :
    ∃ sections : Sections, sections.WellFormed ∧ Extracts sections message := by
  obtain ⟨sections, hsections, hx⟩ :=
    extracts_of_decoder_eq_ok (Prod.ext h rfl : decoder bytes.toArray 0 = (.ok message, _))
  exact ⟨sections, Decoder.Yields.sections _ _ _ _ hsections, hx⟩

end Message

end DnsHealth
