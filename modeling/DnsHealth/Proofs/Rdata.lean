import DnsHealth.Proofs.Wire.Names
import DnsHealth.Rdata.Decoder

/-!
# Reading record data

`Rdata.WellFormed` is what the wire format asks of typed record data: embedded names keep the
limits, a character string fits its length octet, and octets without an interpretation go with a
type without one. Reading yields such data only (`Decoder.Yields.rdata`), and such data is read back
from its uncompressed form wherever that stands (`Decoder.Reads.rdata`). The two meet in the proofs
about messages.
-/

namespace DnsHealth

/-- The types whose data is interpreted. -/
def RecordType.interpreted : List RecordType :=
  [.a, .aaaa, .cname, .ns, .ptr, .mx, .soa, .txt, .spf, .srv, .ds, .dnskey, .rrsig]

/-- Record data that the wire format can carry. -/
def Rdata.WellFormed : Rdata → Prop
  | .cname target | .ns target | .ptr target => target.Valid
  | .mx _ exchange => exchange.Valid
  | .soa zone => zone.mname.Valid ∧ zone.rname.Valid
  | .txt strings | .spf strings => ∀ s ∈ strings, s.length ≤ 255
  | .srv service => service.target.Valid
  | .rrsig signature => signature.signerName.Valid
  | .unknown type _ => type ∉ RecordType.interpreted
  | .a _ | .aaaa _ | .ds _ | .dnskey _ => True

instance : (value : Rdata) → Decidable value.WellFormed
  | .cname target | .ns target | .ptr target => inferInstanceAs (Decidable target.Valid)
  | .mx _ exchange => inferInstanceAs (Decidable exchange.Valid)
  | .soa zone => inferInstanceAs (Decidable (zone.mname.Valid ∧ zone.rname.Valid))
  | .txt strings | .spf strings => inferInstanceAs (Decidable (∀ s ∈ strings, s.length ≤ 255))
  | .srv service => inferInstanceAs (Decidable service.target.Valid)
  | .rrsig signature => inferInstanceAs (Decidable signature.signerName.Valid)
  | .unknown type _ => inferInstanceAs (Decidable (type ∉ RecordType.interpreted))
  | .a _ | .aaaa _ | .ds _ | .dnskey _ => .isTrue trivial

/-- Data of a type without an interpretation is octets under that type. -/
theorem Rdata.eq_unknown_of_not_mem {value : Rdata} (h : value.type ∉ RecordType.interpreted) :
    ∃ data, value = .unknown value.type data := by
  cases value with
  | unknown type data => exact ⟨data, rfl⟩
  | _ => exact absurd (by simp [Rdata.type, RecordType.interpreted]) h

namespace Decoder

variable {message : Array UInt8} {offset stop next : Nat}

/-! ### Character strings -/

theorem stringsWire_cons (s : Bytes) (rest : List Bytes) :
    Rdata.stringsWire (s :: rest) = UInt8.ofNat s.length :: (s ++ Rdata.stringsWire rest) := by
  simp only [Rdata.stringsWire, List.flatMap_cons, List.cons_append]

/-- Strings are read behind those that were read before. -/
theorem stringsOnto_stringsWire {strings done : List Bytes} (hfit : ∀ s ∈ strings, s.length ≤ 255)
    (hstop : stop = offset + (Rdata.stringsWire strings).length)
    (h : HoldsAt message offset (Rdata.stringsWire strings)) :
    stringsOnto message offset stop done = (.ok (done.reverse ++ strings), stop) := by
  -- What was read before is kept backwards, so the induction is for any strings in front.
  induction strings generalizing offset done with
  | nil =>
      obtain rfl : stop = offset := hstop
      rw [stringsOnto, if_neg (Nat.lt_irrefl stop), List.append_nil]
  | cons s rest ih =>
      have hs := hfit s List.mem_cons_self
      have hrest : ∀ other ∈ rest, other.length ≤ 255 :=
        fun other hother => hfit other (List.mem_cons_of_mem s hother)
      rw [stringsWire_cons] at h hstop
      have hbody := h.tail.append_left
      have hend := hbody.end_le
      have hlength : (UInt8.ofNat s.length).toNat = s.length :=
        UInt8.toNat_ofNat_of_lt' (Nat.lt_succ_of_le hs)
      simp only [List.length_cons, List.length_append] at hstop
      rw [stringsOnto, if_pos (by omega)]
      simp only [h.head, hlength, if_pos hend]
      rw [hbody.toList_extract, ih hrest (by omega) h.tail.append_right]
      simp only [List.reverse_cons, List.append_assoc, List.singleton_append]

/-- No string that was read is longer than its length octet can say. -/
theorem length_le_of_stringsOnto_eq_ok {strings done : List Bytes}
    (h : stringsOnto message offset stop done = (.ok strings, next))
    (hdone : ∀ s ∈ done, s.length ≤ 255) : ∀ s ∈ strings, s.length ≤ 255 := by
  fun_induction stringsOnto message offset stop done with
  | case1 => simp at h
  | case2 offset done hlt length hoctet start past hpast ih =>
      apply ih h
      intro s hs
      rcases List.mem_cons.mp hs with rfl | hs
      · have := length.toNat_lt
        rw [Array.length_toList, Array.size_extract]
        omega
      · exact hdone s hs
  | case3 => simp at h
  | case4 =>
      obtain ⟨hstrings, -⟩ := Prod.mk.inj h
      obtain rfl := Except.ok.inj hstrings
      intro s hs
      exact hdone s (List.mem_reverse.mp hs)

/-- Character strings are read back from their form. -/
theorem Reads.strings {found : List Bytes} (hfit : ∀ s ∈ found, s.length ≤ 255)
    (hstop : stop = offset + (Rdata.stringsWire found).length) :
    Reads (strings stop) message offset (Rdata.stringsWire found) found := by
  intro h
  rw [Decoder.strings, stringsOnto_stringsWire hfit hstop h, hstop]
  rfl

/-! ### The fields of each type -/

section Fields

variable {length : Nat} {value : Rdata}

theorem Reads.soa {zone : Soa} (h : (Rdata.soa zone).WellFormed) :
    Reads Rdata.soaDecoder message offset (Rdata.soa zone).wire (.soa zone) := by
  rw [show (Rdata.soa zone).wire = zone.mname.wire ++ (zone.rname.wire ++
    (Bytes.ofUInt32 zone.serial ++ (Bytes.ofUInt32 zone.refresh ++ (Bytes.ofUInt32 zone.retry ++
      (Bytes.ofUInt32 zone.expire ++ Bytes.ofUInt32 zone.minimum))))) by
    simp only [Rdata.wire, Rdata.write, List.append_assoc]]
  exact (Reads.name h.1).bind ((Reads.name h.2).bind ((Reads.u32 _).bind ((Reads.u32 _).bind
    ((Reads.u32 _).bind ((Reads.u32 _).bind (Reads.u32 _).last)))))

theorem Reads.srv {service : Srv} (h : (Rdata.srv service).WellFormed) :
    Reads Rdata.srvDecoder message offset (Rdata.srv service).wire (.srv service) := by
  rw [show (Rdata.srv service).wire = Bytes.ofUInt16 service.priority ++
    (Bytes.ofUInt16 service.weight ++ (Bytes.ofUInt16 service.port ++ service.target.wire)) by
    simp only [Rdata.wire, Rdata.write, List.append_assoc]]
  exact (Reads.u16 _).bind ((Reads.u16 _).bind ((Reads.u16 _).bind (Reads.name h).last))

theorem Reads.ds {signer : Ds} (hstop : stop = offset + (Rdata.ds signer).wire.length) :
    Reads (Rdata.dsDecoder stop) message offset (Rdata.ds signer).wire (.ds signer) := by
  have hwire : (Rdata.ds signer).wire = Bytes.ofUInt16 signer.keyTag ++ ([signer.algorithm] ++
      ([signer.digestType] ++ signer.digest)) := by
    simp only [Rdata.wire, Rdata.write, List.append_assoc, List.cons_append, List.nil_append]
  rw [hwire] at hstop ⊢
  simp only [List.length_append, ← Nat.add_assoc] at hstop
  exact (Reads.u16 _).bind ((Reads.u8 _).bind ((Reads.u8 _).bind (Reads.bytesUpTo hstop).last))

theorem Reads.dnskey {key : Dnskey} (hstop : stop = offset + (Rdata.dnskey key).wire.length) :
    Reads (Rdata.dnskeyDecoder stop) message offset (Rdata.dnskey key).wire (.dnskey key) := by
  have hwire : (Rdata.dnskey key).wire = Bytes.ofUInt16 key.flags ++ ([key.protocol] ++
      ([key.algorithm] ++ key.publicKey)) := by
    simp only [Rdata.wire, Rdata.write, Dnskey.wire, List.append_assoc, List.cons_append,
      List.nil_append]
  rw [hwire] at hstop ⊢
  simp only [List.length_append, ← Nat.add_assoc] at hstop
  exact (Reads.u16 _).bind ((Reads.u8 _).bind ((Reads.u8 _).bind (Reads.bytesUpTo hstop).last))

theorem Reads.rrsig {signature : Rrsig} (h : (Rdata.rrsig signature).WellFormed)
    (hstop : stop = offset + (Rdata.rrsig signature).wire.length) :
    Reads (Rdata.rrsigDecoder stop) message offset (Rdata.rrsig signature).wire
      (.rrsig signature) := by
  have hwire : (Rdata.rrsig signature).wire = Bytes.ofUInt16 signature.typeCovered.code ++
      ([signature.algorithm] ++ ([signature.labels] ++ (Bytes.ofUInt32 signature.originalTtl ++
        (Bytes.ofUInt32 signature.expiration ++ (Bytes.ofUInt32 signature.inception ++
          (Bytes.ofUInt16 signature.keyTag ++ (signature.signerName.wire ++
            signature.signature))))))) := by
    simp only [Rdata.wire, Rdata.write, Rrsig.fixedFields, List.append_assoc, List.cons_append,
      List.nil_append]
  rw [hwire] at hstop ⊢
  simp only [List.length_append, ← Nat.add_assoc] at hstop
  exact (Reads.u16 _).bind ((Reads.u8 _).bind ((Reads.u8 _).bind ((Reads.u32 _).bind
    ((Reads.u32 _).bind ((Reads.u32 _).bind ((Reads.u16 _).bind ((Reads.name h).bind
      (Reads.bytesUpTo hstop).last)))))))

/-- A type without an interpretation keeps its octets. -/
theorem fieldsDecoder_of_not_mem {type : RecordType} (h : type ∉ RecordType.interpreted) :
    Rdata.fieldsDecoder type length stop = Rdata.unknown type <$> bytes length := by
  simp only [RecordType.interpreted, List.mem_cons, List.not_mem_nil, or_false, not_or] at h
  simp only [Rdata.fieldsDecoder, h, if_false]

/-- Well-formed data is read back from its uncompressed form, one constructor at a time. -/
theorem Reads.fields (h : value.WellFormed) (hlength : length = value.wire.length)
    (hstop : stop = offset + value.wire.length) :
    Reads (Rdata.fieldsDecoder value.type length stop) message offset value.wire value := by
  cases value with
  | a address => exact (Reads.octets address).map
  | aaaa address => exact (Reads.octets address).map
  | cname target => exact (Reads.name h).map
  | ns target => exact (Reads.name h).map
  | ptr target => exact (Reads.name h).map
  | mx preference exchange => exact (Reads.u16 preference).bind (Reads.name h).last
  | soa zone => exact Reads.soa h
  | txt found => exact (Reads.strings h hstop).map
  | spf found => exact (Reads.strings h hstop).map
  | srv service => exact Reads.srv h
  | ds signer => exact Reads.ds hstop
  | dnskey key => exact Reads.dnskey hstop
  | rrsig signature => exact Reads.rrsig h hstop
  | unknown type data =>
      rw [show (Rdata.unknown type data).type = type from rfl, fieldsDecoder_of_not_mem h]
      exact (Reads.bytes hlength).map

/-- Well-formed data is read back under its type and length. -/
theorem Reads.rdata (h : value.WellFormed) (hlength : length = value.wire.length) :
    Reads (Rdata.decoder value.type length) message offset value.wire value := by
  intro hholds
  have hend := hholds.end_le
  have hstop : offset + length = offset + value.wire.length := by rw [hlength]
  rw [Rdata.decoder, position_bind, remaining_bind, if_neg (by omega),
    bind_ok (Reads.fields h hlength hstop hholds), position_bind, if_pos hstop.symm, pure_apply]

/-! ### What is read is well-formed -/

/-- No string that was read is longer than its length octet can say. -/
theorem Yields.strings : Yields (strings stop) (fun found => ∀ s ∈ found, s.length ≤ 255) := by
  intro _ _ _ _ h
  exact length_le_of_stringsOnto_eq_ok h fun s hs => absurd hs List.not_mem_nil

/-- Data that was read for a type and a length. -/
def ReadAs (type : RecordType) (length : Nat) (value : Rdata) : Prop :=
  value.type = type ∧ value.WellFormed ∧ ∀ t data, value = .unknown t data → data.length = length

variable {type : RecordType}

/-- The fields of a type make well-formed data of that type. -/
theorem Yields.fields : Yields (Rdata.fieldsDecoder type length stop) (ReadAs type length) := by
  by_cases htype : type ∈ RecordType.interpreted
  · simp only [RecordType.interpreted, List.mem_cons, List.not_mem_nil, or_false] at htype
    rcases htype with rfl | rfl | rfl | rfl | rfl | rfl | rfl | rfl | rfl | rfl | rfl | rfl | rfl
    · exact skip fun _ => .pure ⟨rfl, trivial, by simp⟩
    · exact skip fun _ => .pure ⟨rfl, trivial, by simp⟩
    · exact Yields.name.map fun _ htarget => ⟨rfl, htarget, by simp⟩
    · exact Yields.name.map fun _ htarget => ⟨rfl, htarget, by simp⟩
    · exact Yields.name.map fun _ htarget => ⟨rfl, htarget, by simp⟩
    · exact skip fun _ => Yields.name.bind fun _ hexchange => .pure ⟨rfl, hexchange, by simp⟩
    · exact Yields.name.bind fun _ hmname => Yields.name.bind fun _ hrname => skip fun _ =>
        skip fun _ => skip fun _ => skip fun _ => skip fun _ =>
          .pure ⟨rfl, ⟨hmname, hrname⟩, by simp⟩
    · exact Yields.strings.map fun _ hfit => ⟨rfl, hfit, by simp⟩
    · exact Yields.strings.map fun _ hfit => ⟨rfl, hfit, by simp⟩
    · exact skip fun _ => skip fun _ => skip fun _ => Yields.name.bind fun _ htarget =>
        .pure ⟨rfl, htarget, by simp⟩
    · exact skip fun _ => skip fun _ => skip fun _ => skip fun _ => .pure ⟨rfl, trivial, by simp⟩
    · exact skip fun _ => skip fun _ => skip fun _ => skip fun _ => .pure ⟨rfl, trivial, by simp⟩
    · exact skip fun _ => skip fun _ => skip fun _ => skip fun _ => skip fun _ => skip fun _ =>
        skip fun _ => Yields.name.bind fun _ hsigner => skip fun _ =>
          .pure ⟨rfl, hsigner, by simp⟩
  · rw [fieldsDecoder_of_not_mem htype]
    refine Yields.bytes.map fun data hdata => ⟨rfl, htype, ?_⟩
    intro t other heq
    obtain ⟨-, rfl⟩ := Rdata.unknown.inj heq
    exact hdata

/-- Where data was read its fields were, and they took the octets declared. -/
theorem fields_of_rdata_eq_ok {next : Nat}
    (h : Rdata.decoder type length message offset = (.ok value, next)) :
    Rdata.fieldsDecoder type length (offset + length) message offset = (.ok value, next) ∧
      next = offset + length := by
  rw [Rdata.decoder, position_bind, remaining_bind] at h
  split at h
  case _ => cases (Prod.mk.inj h).1
  case _ =>
      obtain ⟨rdata, stop, hfields, h⟩ := bind_eq_ok.mp h
      rw [position_bind] at h
      split at h
      case _ hstop =>
          obtain ⟨rfl, rfl⟩ := pure_eq_ok.mp h
          exact ⟨hfields, hstop⟩
      case _ => cases (Prod.mk.inj h).1

/-- Data that was read has the type asked for and is well-formed. -/
theorem Yields.rdata : Yields (Rdata.decoder type length) (ReadAs type length) :=
  fun message offset _ _ h => Yields.fields message offset _ _ (fields_of_rdata_eq_ok h).1

end Fields

end Decoder

end DnsHealth
