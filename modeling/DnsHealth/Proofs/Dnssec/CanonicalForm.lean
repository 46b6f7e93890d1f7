import DnsHealth.Proofs.Dnssec.SignedData
import DnsHealth.Proofs.Name.Case

/-!
# The canonical form of signed data

RFC 4034 says in sections 3.1.8.1 and 6.3 what a signature covers: its own record data without the
signature, and then the records in canonical form, each of them once, in the order of their
canonical data as strings of unsigned octets, where a missing octet comes before any octet.

`CanonicalForm` states that form on its own, without sorting and dropping anything, and
`signedData_canonicalForm` says that signed data has it. The order of the octets is spelled out in
`Bytes.Precedes`.
-/

namespace DnsHealth

/-! ### The canonical order -/

/-- The order of octet strings: behind what they begin with in common, the first has ended and the
second goes on, or the octet of the first is below that of the second. -/
def Bytes.Precedes (x y : Bytes) : Prop :=
  ∃ common, (∃ b rest, x = common ∧ y = common ++ b :: rest) ∨
    ∃ a b xs ys, x = common ++ a :: xs ∧ y = common ++ b :: ys ∧ a.toNat < b.toNat

theorem Bytes.precedes_of_lt {x y : Bytes} (h : x < y) : x.Precedes y := by
  have hlex : List.Lex (· < ·) x y := h
  induction hlex with
  | @nil b rest => exact ⟨[], .inl ⟨b, rest, rfl, rfl⟩⟩
  | @rel a xs b ys hab => exact ⟨[], .inr ⟨a, b, xs, ys, rfl, rfl, hab⟩⟩
  | @cons c xs ys hrest ih =>
      obtain ⟨common, ⟨b, rest, hxs, hys⟩ | ⟨a, b, us, vs, hxs, hys, hab⟩⟩ := ih hrest
      · exact ⟨c :: common, .inl ⟨b, rest, congrArg (c :: ·) hxs, congrArg (c :: ·) hys⟩⟩
      · exact ⟨c :: common, .inr ⟨a, b, us, vs, congrArg (c :: ·) hxs, congrArg (c :: ·) hys, hab⟩⟩

/-! ### The form -/

/-- A record of the set in canonical form, under the original TTL: the length word in front of the
data says how many octets of data there are. -/
def IsCanonicalRecord (owner : Name) (type : RecordType) (cls : RecordClass) (ttl : UInt32)
    (rdata form : Bytes) : Prop :=
  ∃ high low : UInt8, high.toNat * 256 + low.toNat = rdata.length ∧
    form =
      owner.canonical ++ Bytes.ofUInt16 type.code ++ Bytes.ofUInt16 cls.code ++
      Bytes.ofUInt32 ttl ++ [high, low] ++ rdata

/-- Signed data in canonical form, made of the canonical data `rdatas` of the records, in the order
in which they stand, and of the canonical form `forms` of the record for each. -/
structure CanonicalForm (sig : Rrsig) (first : Record) (rrset : List Record) (owner : Name)
    (rdatas forms : List Bytes) (data : Bytes) : Prop where
  /-- A signature that counts all labels is over the owner itself. -/
  whole : sig.labels.toNat = first.name.labelCount → owner = first.name
  /-- A signature that counts fewer is over a wildcard in front of as many last labels. -/
  wildcard : sig.labels.toNat < first.name.labelCount →
    ∃ dropped kept, first.name.labels = dropped ++ kept ∧ kept.length = sig.labels.toNat ∧
      owner = ⟨"*" :: kept⟩
  /-- The data ascend strictly. -/
  ascending : rdatas.Pairwise Bytes.Precedes
  /-- They are the canonical data of the records, and no others. -/
  members : ∀ rdata, rdata ∈ rdatas ↔ ∃ r ∈ rrset, r.rdata.canonical = rdata
  /-- The data of each record stand in one place only. -/
  once : ∀ r ∈ rrset, rdatas.count r.rdata.canonical = 1
  /-- Each has its record, of the type and class of the first one and with the original TTL. -/
  records : List.Forall₂ (IsCanonicalRecord owner first.type first.cls sig.originalTtl) rdatas forms
  /-- They stand one behind the other, and in front of them the signed fields of the signature. -/
  layout : data = sig.signedFields ++ forms.flatten
  /-- The signed fields are the numbers of the signature record in their order, and the signer. -/
  fields : sig.signedFields =
    Bytes.ofUInt16 sig.typeCovered.code ++ [sig.algorithm, sig.labels] ++
      Bytes.ofUInt32 sig.originalTtl ++ Bytes.ofUInt32 sig.expiration ++
      Bytes.ofUInt32 sig.inception ++ Bytes.ofUInt16 sig.keyTag ++ sig.signerName.canonical
  /-- The signed fields are the canonical data of the signature record without the signature
  itself. -/
  unsigned : (Rdata.rrsig sig).canonical = sig.signedFields ++ sig.signature

namespace SignedData

variable {sig : Rrsig} {first : Record} {rest rrset : List Record}

/-- The length word is exact as long as the length fits into it. -/
theorem isCanonicalRecord_block {owner : Name} {type : RecordType} {cls : RecordClass}
    {ttl : UInt32} {rdata : Bytes} (h : rdata.length ≤ 65535) :
    IsCanonicalRecord owner type cls ttl rdata (block owner type cls ttl rdata) := by
  obtain ⟨high, low, hlength, hform⟩ := isRecordBlock_block owner type cls ttl rdata
  exact ⟨high, low, hlength.trans (Nat.mod_eq_of_lt (Nat.lt_succ_of_le h)), hform⟩

/-- The owner that the signer saw is as RFC 4034 tells it from the label count. -/
theorem signedOwner_of_eq {labels : UInt8} {received : Name}
    (h : labels.toNat = received.labelCount) : signedOwner labels received = received :=
  if_neg (Nat.not_lt_of_le (Nat.le_of_eq h.symm))

theorem signedOwner_of_lt {labels : UInt8} {received : Name}
    (h : labels.toNat < received.labelCount) :
    ∃ dropped kept, received.labels = dropped ++ kept ∧ kept.length = labels.toNat ∧
      signedOwner labels received = ⟨"*" :: kept⟩ := by
  obtain ⟨dropped, kept, hlabels, -, hkept, hsuffix⟩ := Name.exists_wildcardSuffix_of_lt h
  exact ⟨dropped, kept, hlabels, hkept, (if_pos h).trans hsuffix⟩

/-- Where there are records, signed data fails for the label count alone. -/
theorem signedData_cons_eq_error_iff {e : DnssecError} : signedData sig (first :: rest) = .error e ↔
    first.name.labelCount < sig.labels.toNat ∧
      e = .invalidLabelCount sig.labels first.name.labelCount := by
  rcases Nat.lt_or_ge first.name.labelCount sig.labels.toNat with hlt | hle
  · rw [signedData_of_lt rest hlt, Except.error.injEq, eq_comm, and_iff_right hlt]
  · rw [signedData_eq_ok_iff.mpr ⟨hle, rfl⟩]
    exact ⟨fun h => absurd h (by simp), fun h => absurd h.1 (Nat.not_lt_of_le hle)⟩

/-- Signed data cannot be built of no records, nor for a signature that counts more labels than the
first owner has. There is no other reason. -/
theorem signedData_eq_error_iff {e : DnssecError} : signedData sig rrset = .error e ↔
    rrset = [] ∧ e = .rrsetMismatch ∨
      ∃ first rest, rrset = first :: rest ∧ first.name.labelCount < sig.labels.toNat ∧
        e = .invalidLabelCount sig.labels first.name.labelCount := by
  cases rrset with
  | nil => simp [signedData, eq_comm]
  | cons first rest =>
      rw [signedData_cons_eq_error_iff]
      constructor
      · exact fun h => .inr ⟨first, rest, rfl, h⟩
      · rintro (⟨hnil, -⟩ | ⟨_, _, hcons, h⟩)
        · exact absurd hnil (List.cons_ne_nil _ _)
        · obtain ⟨rfl, -⟩ := List.cons.inj hcons
          exact h

/-- The blocks in the order of the canonical data, behind the signed fields, are in canonical
form. -/
theorem canonicalForm_blocks (hfit : ∀ r ∈ first :: rest, r.rdata.canonical.length ≤ 65535) :
    CanonicalForm sig first (first :: rest) (signedOwner sig.labels first.name)
      (canonicalRdata (first :: rest)) ((canonicalRdata (first :: rest)).map
        (block (signedOwner sig.labels first.name) first.type first.cls sig.originalTtl))
      (sig.signedFields ++ (canonicalRdata (first :: rest)).flatMap
        (block (signedOwner sig.labels first.name) first.type first.cls sig.originalTtl)) where
  whole := signedOwner_of_eq
  wildcard := signedOwner_of_lt
  ascending := (pairwise_canonicalRdata _).imp Bytes.precedes_of_lt
  members rdata := mem_canonicalRdata
  once r hr := by
    have hnodup : (canonicalRdata (first :: rest)).Nodup := by
      refine (pairwise_canonicalRdata _).imp ?_
      rintro x _ hlt rfl
      exact Std.lt_irrefl hlt
    exact List.count_eq_one_of_mem hnodup (mem_canonicalRdata.mpr ⟨r, hr, rfl⟩)
  records := by
    rw [List.forall₂_map_right_iff, List.forall₂_same]
    intro rdata hrdata
    obtain ⟨r, hr, rfl⟩ := mem_canonicalRdata.mp hrdata
    exact isCanonicalRecord_block (hfit r hr)
  layout := by rw [List.flatMap_def]
  fields := rfl
  unsigned := rfl

end SignedData

/-- **Signed data is in canonical form.** It is an error exactly when there are no records, or when
the signature counts more labels than the owner of the first record has. Otherwise, where all
canonical data fit their length word, it is the signed fields of the signature and, in ascending
order, one record for each distinct canonical data among the records. -/
theorem signedData_canonicalForm (sig : Rrsig) (rrset : List Record) :
    (∀ e, signedData sig rrset = .error e ↔
      rrset = [] ∧ e = .rrsetMismatch ∨
        ∃ first rest, rrset = first :: rest ∧ first.name.labelCount < sig.labels.toNat ∧
          e = .invalidLabelCount sig.labels first.name.labelCount) ∧
    ∀ first rest, rrset = first :: rest → sig.labels.toNat ≤ first.name.labelCount →
      (∀ r ∈ rrset, r.rdata.canonical.length ≤ 65535) →
        ∃ owner rdatas forms data, signedData sig rrset = .ok data ∧
          CanonicalForm sig first rrset owner rdatas forms data := by
  refine ⟨fun e => SignedData.signedData_eq_error_iff, ?_⟩
  rintro first rest rfl hlabels hfit
  exact ⟨_, _, _, _, SignedData.signedData_eq_ok_iff.mpr ⟨hlabels, rfl⟩,
    SignedData.canonicalForm_blocks hfit⟩

/-- Mail servers of a host under a wildcard, two of them the same in small letters. -/
theorem signedData_canonicalForm_mailServers :
    let host : Name := ⟨["a", "example"]⟩
    let sig : Rrsig :=
      { typeCovered := .mx, algorithm := 8, labels := 1, originalTtl := 3600, expiration := 2000
        inception := 1000, keyTag := 7, signerName := ⟨["example"]⟩, signature := [] }
    let first : Record := .ofRdata host 60 (.mx 10 ⟨["Mail", "example"]⟩)
    let rrset : List Record :=
      [first, .ofRdata host 30 (.mx 10 ⟨["mail", "EXAMPLE"]⟩),
        .ofRdata host 60 (.mx 5 ⟨["b", "example"]⟩)]
    ∃ owner rdatas forms data, signedData sig rrset = .ok data ∧
      CanonicalForm sig first rrset owner rdatas forms data ∧ owner = ⟨["*", "example"]⟩ ∧
      rdatas.count [0, 10, 4, 109, 97, 105, 108, 7, 101, 120, 97, 109, 112, 108, 101, 0] = 1 := by
  intro host sig first rrset
  obtain ⟨owner, rdatas, forms, data, hdata, hform⟩ :=
    (signedData_canonicalForm sig rrset).2 first _ rfl (by decide) (by decide)
  refine ⟨owner, rdatas, forms, data, hdata, hform, ?_, hform.once first List.mem_cons_self⟩
  obtain ⟨dropped, kept, hlabels, hkept, rfl⟩ := hform.wildcard (by decide)
  obtain ⟨-, rfl⟩ :=
    List.append_inj' (show ["a"] ++ ["example"] = dropped ++ kept from hlabels) hkept.symm
  rfl

end DnsHealth
