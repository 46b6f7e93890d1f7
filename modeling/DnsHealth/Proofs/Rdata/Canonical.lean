import DnsHealth.Proofs.Name.Case
import DnsHealth.Proofs.Rdata

/-!
# Canonical record data

Signatures and digests cover record data in canonical form. Said without that form: it is the wire
form of the same data with the names in it written in small letters (`Rdata.wire_lower`). Nothing
else is changed, also where octets happen to be letters, as in texts, digests, keys, signatures and
data of types without an interpretation.

Small letters keep data well-formed, so the canonical form is read back wherever it stands
(`Decoder.Reads.canonical`). What is read is the data with its names in small letters, and hence
that is all that the form says about data of a given type (`Rdata.canonical_eq_iff`).
-/

namespace DnsHealth

/-! ### Names in small letters -/

namespace Name

/-- The name with its ASCII letters in lower case. -/
def lower (name : Name) : Name :=
  ⟨name.labels.map String.toLower⟩

theorem utf8ByteSize_toLower (label : String) :
    label.toLower.utf8ByteSize = label.utf8ByteSize := by
  rw [← length_utf8, ← lower_utf8, Bytes.length_lower, length_utf8]

/-- The canonical form of a name is the wire form of the name in small letters. -/
theorem wire_lower (name : Name) : name.lower.wire = name.canonical := by
  simp only [wire, canonical, lower, List.flatMap_map, utf8ByteSize_toLower, lower_utf8]

theorem wireLength_lower (name : Name) : name.lower.wireLength = name.wireLength := by
  rw [← length_wire, wire_lower, length_canonical]

theorem Valid.lower {name : Name} (h : name.Valid) : name.lower.Valid := by
  obtain ⟨hlabels, hlength⟩ := h
  refine ⟨?_, (wireLength_lower name).symm ▸ hlength⟩
  intro label hlabel
  obtain ⟨received, hreceived, rfl⟩ := List.mem_map.mp hlabel
  rw [Label.Valid, utf8ByteSize_toLower]
  exact hlabels received hreceived

end Name

namespace Rdata

/-! ### Changing the names in record data -/

/-- The data with every name in it replaced by its image. -/
def mapNames (f : Name → Name) : Rdata → Rdata
  | .a address => .a address
  | .aaaa address => .aaaa address
  | .cname target => .cname (f target)
  | .ns target => .ns (f target)
  | .ptr target => .ptr (f target)
  | .mx preference exchange => .mx preference (f exchange)
  | .soa zone => .soa { zone with mname := f zone.mname, rname := f zone.rname }
  | .txt strings => .txt strings
  | .spf strings => .spf strings
  | .srv service => .srv { service with target := f service.target }
  | .ds signer => .ds signer
  | .dnskey key => .dnskey key
  | .rrsig signature => .rrsig { signature with signerName := f signature.signerName }
  | .unknown type data => .unknown type data

/-- The data with its names in small letters. -/
def lower (value : Rdata) : Rdata :=
  value.mapNames Name.lower

@[simp] theorem type_mapNames (f : Name → Name) (value : Rdata) :
    (value.mapNames f).type = value.type := by
  cases value <;> rfl

@[simp] theorem type_lower (value : Rdata) : value.lower.type = value.type :=
  type_mapNames Name.lower value

/-- Names can be changed before they are written or while they are. -/
theorem write_mapNames (nameWire : Name → Bytes) (f : Name → Name) (value : Rdata) :
    (value.mapNames f).write nameWire = value.write fun name => nameWire (f name) := by
  cases value <;> rfl

/-- Only names are held to limits that another name could break. -/
theorem WellFormed.mapNames {f : Name → Name} (hf : ∀ name : Name, name.Valid → (f name).Valid)
    {value : Rdata} (h : value.WellFormed) : (value.mapNames f).WellFormed := by
  cases value with
  | cname target => exact hf target h
  | ns target => exact hf target h
  | ptr target => exact hf target h
  | mx preference exchange => exact hf exchange h
  | soa zone => exact ⟨hf zone.mname h.1, hf zone.rname h.2⟩
  | srv service => exact hf service.target h
  | rrsig signature => exact hf signature.signerName h
  | a | aaaa | txt | spf | ds | dnskey | unknown => exact h

theorem WellFormed.lower {value : Rdata} (h : value.WellFormed) : value.lower.WellFormed :=
  h.mapNames fun _ hname => hname.lower

/-- Forms of names of the same length make forms of data of the same length. -/
theorem length_write_congr {v w : Name → Bytes} (h : ∀ name, (v name).length = (w name).length)
    (value : Rdata) : (value.write v).length = (value.write w).length := by
  cases value <;> simp only [write, List.length_append, h]

/-! ### The canonical form -/

theorem wire_lower (value : Rdata) : value.lower.wire = value.canonical := by
  rw [wire, lower, write_mapNames, canonical, funext Name.wire_lower]

theorem length_canonical (value : Rdata) : value.canonical.length = value.wire.length :=
  length_write_congr (fun name => by rw [Name.length_canonical, Name.length_wire]) value

end Rdata

/-- The canonical form of well-formed data is read back as the data with its names in small
letters. -/
theorem Decoder.Reads.canonical {message : Array UInt8} {offset : Nat} {value : Rdata}
    (h : value.WellFormed) :
    Reads (Rdata.decoder value.type value.canonical.length) message offset value.canonical
      value.lower := by
  rw [← Rdata.wire_lower, ← Rdata.type_lower]
  exact Reads.rdata h.lower rfl

namespace Rdata

/-- Data of one type has one canonical form exactly when it is the same in small letters. -/
theorem canonical_eq_iff {a b : Rdata} (ha : a.WellFormed) (hb : b.WellFormed)
    (htype : a.type = b.type) : a.canonical = b.canonical ↔ a.lower = b.lower := by
  constructor
  · intro h
    have hread := Decoder.Reads.canonical ha (HoldsAt.whole _)
    rw [htype, h, Decoder.Reads.canonical hb (HoldsAt.whole _)] at hread
    exact (Except.ok.inj (Prod.mk.inj hread).1).symm
  · intro h
    rw [← wire_lower, h, wire_lower]

/-- **Canonical data is the wire form up to the case of names, and nothing else.** For well-formed
data it is the wire form of the data with its names in small letters, as long as the wire form of
the data itself. Under the type of the data and this length it is read back as that data, from any
offset of any message and up to its very end. And well-formed data of the same type has the same
canonical form only if it is the same in small letters. -/
theorem canonical_of_wellFormed {value : Rdata} (h : value.WellFormed) :
    value.canonical = value.lower.wire ∧ value.canonical.length = value.wire.length ∧
      (∀ before after : Bytes,
        decoder value.type value.canonical.length (before ++ value.canonical ++ after).toArray
          before.length = (.ok value.lower, before.length + value.canonical.length)) ∧
      ∀ other : Rdata, other.WellFormed → other.type = value.type →
        (other.canonical = value.canonical ↔ other.lower = value.lower) := by
  refine ⟨(wire_lower value).symm, length_canonical value, ?_, ?_⟩
  · intro before after
    exact Decoder.Reads.canonical h (HoldsAt.between before value.canonical after)
  · intro other hother htype
    exact canonical_eq_iff hother h htype

/-- A signature whose octets are capital letters, like those of its signer name. Only the name is
written in small letters, and the form is read back from behind two octets that look like a
pointer. -/
theorem canonical_of_wellFormed_signer :
    let received : Rrsig :=
      { typeCovered := .a, algorithm := 15, labels := 2, originalTtl := 300, expiration := 2000
        inception := 1000, keyTag := 7
        signerName := ⟨["Example", "COM"]⟩, signature := [65, 66, 67] }
    let small : Rrsig := { received with signerName := ⟨["example", "com"]⟩ }
    (Rdata.rrsig received).canonical = (Rdata.rrsig small).wire ∧
      (Rdata.rrsig small).canonical = (Rdata.rrsig received).canonical ∧
      ∃ length stop,
        decoder .rrsig length ([192, 0] ++ (Rdata.rrsig received).canonical ++ [46]).toArray 2 =
        (.ok (.rrsig small), stop) := by
  intro received small
  have hwell : (Rdata.rrsig received).WellFormed := by decide
  have hlower : (Rdata.rrsig received).lower = .rrsig small := by decide +kernel
  obtain ⟨hform, -, hread, hsame⟩ := canonical_of_wellFormed hwell
  rw [hlower] at hform hread hsame
  exact ⟨hform, (hsame (.rrsig small) (by decide) rfl).mpr (by decide +kernel), _, _,
    hread [192, 0] [46]⟩

end Rdata

end DnsHealth
