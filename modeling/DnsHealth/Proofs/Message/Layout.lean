import DnsHealth.Message
import DnsHealth.Proofs.Message.Header
import DnsHealth.Proofs.Wire.BitField
import Mathlib.Tactic.ByContra

/-!
# The fields of a message

A message is written as one sequence of fields: the thirteen of its header, then those of its
questions, its records and its EDNS content. The wire form has exactly the bits of these fields, and
there is none exactly when one of the fields is too wide (`Message.map_bits_wire`). Names and data
are octets and most numbers are words of their own size, so only three numbers of the header can be
too wide, whatever the sections hold.

Reading takes a header apart again. It is the inverse of writing on the headers that can be written,
and any twelve octets are one of them.
-/

namespace DnsHealth

open BitField (Spells ofBytes ofUInt16 ofUInt32)

variable {error : FormatError}

/-! ### Headers -/

namespace Header

variable {header : Header}

/-- The fields of the second word. -/
def flagsLayout (header : Header) : List BitField :=
  [⟨1, header.response.toNat⟩, ⟨4, header.opcode.toNat⟩, ⟨1, header.authoritative.toNat⟩,
    ⟨1, header.truncated.toNat⟩, ⟨1, header.recursionDesired.toNat⟩,
    ⟨1, header.recursionAvailable.toNat⟩, ⟨3, header.reserved.toNat⟩, ⟨4, header.rcode.toNat⟩]

/-- The fields of a header. -/
def layout (header : Header) : List BitField :=
  [ofUInt16 header.id] ++ header.flagsLayout ++ [ofUInt16 header.questionCount] ++
    [ofUInt16 header.answerCount] ++ [ofUInt16 header.authorityCount] ++
    [ofUInt16 header.additionalCount]

theorem fits_iff_flagsLayout : header.Fits ↔ ∀ field ∈ header.flagsLayout, field.Fits := by
  have hflag : ∀ flag : Bool, (⟨1, flag.toNat⟩ : BitField).Fits := fun flag => flag.toNat_lt
  simp only [flagsLayout, List.forall_mem_cons, hflag, List.not_mem_nil, false_imp_iff,
    implies_true, true_and, and_true]
  exact Iff.rfl

/-- The second word has its fields as digits. -/
theorem spells_flagsLayout (h : header.Fits) :
    Spells header.flagsLayout (Bytes.ofUInt16 header.flagsWord) := by
  have hfits := fits_iff_flagsLayout.mp h
  refine Spells.of_pack hfits rfl ?_
  obtain ⟨hopcode, hreserved, hrcode⟩ := h
  replace hopcode : header.opcode.toNat < 16 := hopcode
  replace hreserved : header.reserved.toNat < 8 := hreserved
  replace hrcode : header.rcode.toNat < 16 := hrcode
  have hqr := header.response.toNat_lt
  have haa := header.authoritative.toNat_lt
  have htc := header.truncated.toNat_lt
  have hrd := header.recursionDesired.toNat_lt
  have hra := header.recursionAvailable.toNat_lt
  simp only [flagsLayout, flagsWord, BitField.pack, BitField.ofBytes, Bytes.ofUInt16, List.map_cons,
    List.map_nil, List.foldl_cons, List.foldl_nil, UInt8.toNat_ofNat', UInt16.toNat_ofNat']
  omega

theorem spells_layout (h : header.Fits) : Spells header.layout header.octets :=
  (((((Spells.ofUInt16 _).append (spells_flagsLayout h)).append (.ofUInt16 _)).append
    (.ofUInt16 _)).append (.ofUInt16 _)).append (.ofUInt16 _)

theorem exists_flagsLayout_not_fits (h : ¬ header.Fits) :
    ∃ field ∈ header.flagsLayout, ¬ field.Fits := by
  simpa [fits_iff_flagsLayout] using h

/-- A header and what stands behind it have the bits of their fields, and there is no form when a
field of the header is too wide. -/
theorem map_bits_wire_append {fields : List BitField} {bytes : Bytes} (h : Spells fields bytes) :
    (header.wire.map (· ++ bytes)).map Bytes.bits =
    BitField.writeAll (header.layout ++ fields) := by
  by_cases hfits : header.Fits
  · rw [wire_of_fits hfits, ((spells_layout hfits).append h).writeAll]
    rfl
  · obtain ⟨field, hmem, hwide⟩ := exists_flagsLayout_not_fits hfits
    rw [wire, if_neg hfits, BitField.writeAll_of_not_fits ⟨field, by simp [layout, hmem], hwide⟩]
    rfl

theorem map_bits_wire (header : Header) :
    header.wire.map Bytes.bits = BitField.writeAll header.layout := by
  have happend := header.map_bits_wire_append (Spells.ofBytes [])
  cases hwire : header.wire <;> simpa [hwire, Except.map, BitField.ofBytes] using happend

/-- Any octets of the right number are the form of the header that is read from them. -/
theorem exists_decode_eq_ok (octets : Vector UInt8 size) :
    ∃ read, decoder.decode octets.toList = .ok read ∧ read.wire = .ok octets.toList := by
  obtain ⟨id, flags, questions, answers, authorities, additionals, hwords⟩ := exists_words octets
  have hread := Decoder.Reads.words id flags questions answers authorities additionals (.whole _)
  refine ⟨_, by rw [hwords]; exact congrArg Prod.fst hread, ?_⟩
  rw [wire_of_fits (fits_ofWords ..), Header.octets, flagsWord_ofWords, hwords]
  rfl

/-- The headers that are written and read back are those whose numbers fit. -/
theorem fits_iff_exists_wire :
    header.Fits ↔ ∃ octets : Vector UInt8 size,
      header.wire = .ok octets.toList ∧ decoder.decode octets.toList = .ok header := by
  constructor
  · intro h
    have hread := Decoder.Reads.header h (.whole header.octets)
    exact ⟨⟨header.octets.toArray, rfl⟩, wire_of_fits h, congrArg Prod.fst hread⟩
  · rintro ⟨octets, hwire, -⟩
    by_contra h
    rw [wire, if_neg h] at hwire
    cases hwire

theorem not_fits_iff : ¬ header.Fits ↔
    16 ≤ header.opcode ∨ 8 ≤ header.reserved ∨ 16 ≤ header.rcode := by
  rw [Fits, not_and_or, not_and_or, UInt8.not_lt, UInt8.not_lt, UInt8.not_lt]

end Header

/-! ### Sections -/

/-- The fields of a question. -/
def Question.layout (question : Question) : List BitField :=
  ofBytes question.name.wire ++ [ofUInt16 question.type.code] ++ [ofUInt16 question.cls.code]

theorem Question.spells_layout (question : Question) : Spells question.layout question.wire :=
  ((Spells.ofBytes _).append (.ofUInt16 _)).append (.ofUInt16 _)

namespace Record

/-- The fields of a record, its data as octets behind their number. -/
def layoutOf (name : Name) (type : RecordType) (cls : RecordClass) (ttl : UInt32) (data : Bytes) :
    List BitField :=
  ofBytes name.wire ++ [ofUInt16 type.code] ++ [ofUInt16 cls.code] ++ [ofUInt32 ttl] ++
    [ofUInt16 (UInt16.ofNat data.length)] ++ ofBytes data

def layout (record : Record) : List BitField :=
  layoutOf record.name record.type record.cls record.ttl record.rdata.wire

theorem spells_layoutOf (name : Name) (type : RecordType) (cls : RecordClass) (ttl : UInt32)
    (data : Bytes) : Spells (layoutOf name type cls ttl data) (fieldsWire name type cls ttl data) :=
  (((((Spells.ofBytes _).append (.ofUInt16 _)).append (.ofUInt16 _)).append (.ofUInt32 _)).append
    (.ofUInt16 _)).append (.ofBytes _)

theorem spells_layout (record : Record) : Spells record.layout record.wire :=
  spells_layoutOf ..

end Record

namespace Message

variable {message : Message}

/-- The fields of the EDNS content, as a record of the root. -/
def ednsLayout (edns : Edns) : List BitField :=
  Record.layoutOf .root .opt ⟨edns.payloadSize⟩ edns.ttl edns.data

/-- The fields behind the header. -/
def sectionsLayout (message : Message) : List BitField :=
  message.questions.flatMap Question.layout ++
    (message.answers ++ message.authorities ++ message.additionals).flatMap Record.layout ++
    message.edns.toList.flatMap ednsLayout

/-- The fields of a message. Its sections are counted modulo 65536, except that the EDNS content is
counted with the additional records and the sum is not cut. -/
def layout (message : Message) : List BitField :=
  [ofUInt16 message.header.id] ++ message.header.flagsLayout ++
    [⟨16, message.questions.length % 65536⟩] ++
    [⟨16, message.answers.length % 65536⟩] ++ [⟨16, message.authorities.length % 65536⟩] ++
    [⟨16, message.additionals.length + message.edns.toList.length⟩] ++ message.sectionsLayout

theorem spells_sectionsLayout (message : Message) :
    Spells message.sectionsLayout message.sectionsWire :=
  ((Spells.flatMap fun q _ => q.spells_layout).append (.flatMap fun r _ => r.spells_layout)).append
    (.flatMap fun _ _ => Record.spells_layoutOf ..)

theorem layout_eq (hcount : message.additionals.length + message.edns.toList.length ≤ 65535) :
    message.layout = message.countedHeader.layout ++ message.sectionsLayout := by
  have hword : ∀ n, (⟨16, n % 65536⟩ : BitField) = .ofUInt16 (UInt16.ofNat n) := fun n => by
    rw [BitField.ofUInt16, UInt16.toNat_ofNat']
  have hsum : (⟨16, message.additionals.length + message.edns.toList.length⟩ : BitField) =
      .ofUInt16 (UInt16.ofNat (message.additionals.length + message.edns.toList.length)) := by
    rw [← hword, Nat.mod_eq_of_lt (Nat.lt_succ_of_le hcount)]
  simp only [layout, hword, hsum]
  rfl

/-- The form of a message has the bits of its fields, and there is none when one of them is too
wide. -/
theorem map_bits_wire (hcount : message.additionals.length + message.edns.toList.length ≤ 65535) :
    message.wire.map Bytes.bits = BitField.writeAll message.layout := by
  rw [layout_eq hcount, ← Header.map_bits_wire_append message.spells_sectionsLayout, wire]
  cases message.countedHeader.wire <;> rfl

/-- Only fields of the header can be too wide. -/
theorem exists_layout_not_fits_iff
    (hcount : message.additionals.length + message.edns.toList.length ≤ 65535) :
    (∃ field ∈ message.layout, ¬ field.Fits) ↔ ¬ message.header.Fits := by
  rw [layout_eq hcount]
  constructor
  · rintro ⟨field, hmem, hwide⟩ hfits
    have hcounted : Spells message.countedHeader.layout message.countedHeader.octets :=
      Header.spells_layout hfits
    exact hwide ((hcounted.append message.spells_sectionsLayout).fits field hmem)
  · intro h
    have hcounted : ∃ field ∈ message.countedHeader.flagsLayout, ¬ field.Fits :=
      Header.exists_flagsLayout_not_fits h
    obtain ⟨field, hmem, hwide⟩ := hcounted
    exact ⟨field, by simp [Header.layout, hmem], hwide⟩

theorem wire_eq_error_iff
    (hcount : message.additionals.length + message.edns.toList.length ≤ 65535) :
    message.wire = .error error ↔ error = .fieldTooWide ∧
      (16 ≤ message.header.opcode ∨ 8 ≤ message.header.reserved ∨ 16 ≤ message.header.rcode) := by
  rw [← Header.not_fits_iff, ← exists_layout_not_fits_iff hcount, ← BitField.writeAll_eq_error_iff,
    ← map_bits_wire hcount]
  cases message.wire <;> simp [Except.map]

/-- **Headers decide whether a message is written.** Reading and writing are inverse to each other
between all strings of twelve octets and the headers whose numbers fit. Headers and messages are
written as their fields, and as long as the additional records can be counted nothing in the
sections of a message keeps it from being written. -/
theorem header_bijection_and_wire_errors :
    (∀ octets : Vector UInt8 Header.size,
        ∃ read, Header.decoder.decode octets.toList = .ok read ∧ read.wire = .ok octets.toList) ∧
      (∀ header : Header, (header.opcode < 16 ∧ header.reserved < 8 ∧ header.rcode < 16) ↔
        ∃ octets : Vector UInt8 Header.size,
          header.wire = .ok octets.toList ∧ Header.decoder.decode octets.toList = .ok header) ∧
      (∀ header : Header, header.wire.map Bytes.bits = BitField.writeAll header.layout) ∧
      ∀ message : Message, message.additionals.length + message.edns.toList.length ≤ 65535 →
        message.wire.map Bytes.bits = BitField.writeAll message.layout ∧
          ∀ error, message.wire = .error error ↔ error = .fieldTooWide ∧
            (16 ≤ message.header.opcode ∨ 8 ≤ message.header.reserved ∨
              16 ≤ message.header.rcode) :=
  ⟨Header.exists_decode_eq_ok, fun _ => Header.fits_iff_exists_wire, Header.map_bits_wire,
    fun _ hcount => ⟨map_bits_wire hcount, fun _ => wire_eq_error_iff hcount⟩⟩

/-- With no room for another record, an operation code of five bits is refused, and one of four bits
is not. -/
theorem header_bijection_and_wire_errors_full :
    ({ header := { opcode := 16 }
       additionals := List.replicate 65534 default
       edns := some default } : Message).wire = .error .fieldTooWide ∧
      ∀ error,
        ({ header := { opcode := 15 }
           additionals := List.replicate 65534 default
           edns := some default } : Message).wire ≠ .error error := by
  have hcount : ∀ message : Message, message.additionals.length = 65534 →
      message.edns.toList.length = 1 →
      message.additionals.length + message.edns.toList.length ≤ 65535 := by
    intro message hlength hedns
    omega
  have herrors := header_bijection_and_wire_errors.2.2.2
  constructor
  · exact ((herrors _ (hcount _ List.length_replicate rfl)).2 _).mpr ⟨rfl, .inl (UInt8.le_refl 16)⟩
  · intro error hwire
    have hwide := ((herrors _ (hcount _ List.length_replicate rfl)).2 error).mp hwire
    exact absurd hwide.2 (show ¬ ((16 : UInt8) ≤ 15 ∨ (8 : UInt8) ≤ 0 ∨ (16 : UInt8) ≤ 0) by decide)

end Message

end DnsHealth
