import DnsHealth.Message.Edns

/-!
# EDNS content and its record fields

The two readings of an OPT record undo each other: options that fit their length words are read off
their own form, and a form that is read is exactly the form of what was read. What is no form at all
is said without either of them: data that is not options in a row, each of them delimited by its own
length (`EdnsOption.list?_eq_none_iff`, `Edns.ofFields_eq_iff`).
-/

namespace DnsHealth

namespace EdnsOption

/-- The form of an option whose data fits its length word. -/
theorem wire_eq_cons (option : EdnsOption) (rest : Bytes) :
    option.wire ++ rest = UInt8.ofNat (option.code.toNat / 256) :: UInt8.ofNat option.code.toNat ::
      UInt8.ofNat ((UInt16.ofNat option.data.length).toNat / 256) ::
        UInt8.ofNat (UInt16.ofNat option.data.length).toNat :: (option.data ++ rest) := by
  simp only [wire, Bytes.ofUInt16, List.cons_append, List.nil_append]

/-- Options are read off their form, behind those that were read before. -/
theorem listOnto_flatMap_wire {options done : List EdnsOption}
    (hfit : ∀ option ∈ options, option.data.length ≤ 65535) :
    listOnto done (options.flatMap wire) = some (done.reverse ++ options) := by
  induction options generalizing done with
  | nil => rw [List.flatMap_nil, listOnto, List.append_nil]
  | cons option rest ih =>
      have hoption := hfit option List.mem_cons_self
      have hlength : (UInt16.ofNat option.data.length).toNat = option.data.length :=
        UInt16.toNat_ofNat_of_lt' (Nat.lt_succ_of_le hoption)
      rw [List.flatMap_cons, wire_eq_cons, listOnto]
      simp only [Bytes.toUInt16_ofUInt16]
      simp only [hlength, List.take_left, List.drop_left, if_true]
      rw [ih (fun other hother => hfit other (List.mem_cons_of_mem option hother))]
      simp only [List.reverse_cons, List.append_assoc, List.singleton_append]

/-- What is read has the form that it was read from. -/
theorem flatMap_wire_of_listOnto {options done : List EdnsOption} {bytes : Bytes}
    (h : listOnto done bytes = some options) :
    options.flatMap wire = done.reverse.flatMap wire ++ bytes := by
  fun_induction listOnto done bytes with
  | case1 done =>
      obtain rfl := Option.some.inj h
      rw [List.append_nil]
  | case2 done c₁ c₂ l₁ l₂ rest length data hdata ih =>
      have hform : wire ⟨Bytes.toUInt16 c₁ c₂, data⟩ = c₁ :: c₂ :: l₁ :: l₂ :: data := by
        have hword : UInt16.ofNat data.length = Bytes.toUInt16 l₁ l₂ := by
          rw [hdata]
          exact UInt16.ofNat_toNat
        simp only [wire, hword, Bytes.ofUInt16_toUInt16, List.cons_append, List.nil_append]
      rw [ih h, List.reverse_cons, List.flatMap_append, List.flatMap_singleton, hform]
      simp only [List.append_assoc, List.cons_append]
      rw [List.take_append_drop]
  | case3 => simp at h
  | case4 => simp at h

/-- The length of the data of an option that was read stood in a word. -/
theorem length_le_of_listOnto {options done : List EdnsOption} {bytes : Bytes}
    (h : listOnto done bytes = some options) (hdone : ∀ option ∈ done, option.data.length ≤ 65535) :
    ∀ option ∈ options, option.data.length ≤ 65535 := by
  fun_induction listOnto done bytes with
  | case1 done =>
      obtain rfl := Option.some.inj h
      intro option hoption
      exact hdone option (List.mem_reverse.mp hoption)
  | case2 done c₁ c₂ l₁ l₂ rest length data hdata ih =>
      have hword : length < 65536 := (Bytes.toUInt16 l₁ l₂).toNat_lt
      have hfit : data.length ≤ 65535 := by omega
      exact ih h (List.forall_mem_cons.mpr ⟨hfit, hdone⟩)
  | case3 => simp at h
  | case4 => simp at h

/-! ### Which data is options -/

/-- Octets that are one option and nothing more: a code and a length of two octets each, the high
octet first, and as much data as the length says. -/
def IsDelimited (bytes : Bytes) : Prop :=
  ∃ (c₁ c₂ l₁ l₂ : UInt8) (data : Bytes),
    bytes = [c₁, c₂, l₁, l₂] ++ data ∧ data.length = l₁.toNat * 256 + l₂.toNat

/-- An option in front of other octets is read, and they are what is read next. -/
theorem exists_listOnto_append {part : Bytes} (h : IsDelimited part) (done : List EdnsOption)
    (rest : Bytes) : ∃ option, listOnto done (part ++ rest) = listOnto (option :: done) rest := by
  obtain ⟨c₁, c₂, l₁, l₂, data, rfl, hlength⟩ := h
  have hword : (Bytes.toUInt16 l₁ l₂).toNat = data.length := by
    rw [Bytes.toNat_toUInt16, hlength]
  refine ⟨⟨Bytes.toUInt16 c₁ c₂, data⟩, ?_⟩
  rw [List.append_assoc, List.cons_append, List.cons_append, List.cons_append, List.cons_append,
    List.nil_append, listOnto]
  simp only [hword, List.take_left, List.drop_left, if_true]

/-- Options in a row are read, behind any that were read before. -/
theorem exists_listOnto_flatten {parts : List Bytes} (h : ∀ part ∈ parts, IsDelimited part)
    (done : List EdnsOption) : ∃ options, listOnto done parts.flatten = some options := by
  induction parts generalizing done with
  | nil =>
      refine ⟨done.reverse, ?_⟩
      rw [List.flatten_nil, listOnto]
  | cons part parts ih =>
      obtain ⟨hpart, hparts⟩ := List.forall_mem_cons.mp h
      obtain ⟨option, hoption⟩ := exists_listOnto_append hpart done parts.flatten
      rw [List.flatten_cons, hoption]
      exact ih hparts (option :: done)

/-- Whatever is read consists of options in a row, one part for each option that the loop took. -/
theorem exists_parts_of_listOnto {options done : List EdnsOption} {bytes : Bytes}
    (h : listOnto done bytes = some options) :
    ∃ parts : List Bytes, (∀ part ∈ parts, IsDelimited part) ∧ bytes = parts.flatten := by
  fun_induction listOnto done bytes with
  | case1 => exact ⟨[], by simp, rfl⟩
  | case2 done c₁ c₂ l₁ l₂ rest length data hdata ih =>
      obtain ⟨parts, hparts, hrest⟩ := ih h
      have hlength : data.length = l₁.toNat * 256 + l₂.toNat := by
        rw [hdata]
        exact Bytes.toNat_toUInt16 l₁ l₂
      refine ⟨([c₁, c₂, l₁, l₂] ++ data) :: parts, ?_, ?_⟩
      · exact List.forall_mem_cons.mpr ⟨⟨c₁, c₂, l₁, l₂, data, rfl, hlength⟩, hparts⟩
      · rw [List.flatten_cons, ← hrest]
        simp only [List.cons_append, List.nil_append]
        rw [List.take_append_drop]
  | case3 => simp at h
  | case4 => simp at h

/-- Nothing is read exactly when the octets cannot be divided into options. -/
theorem list?_eq_none_iff {bytes : Bytes} :
    list? bytes = none ↔
      ¬ ∃ parts : List Bytes, (∀ part ∈ parts, IsDelimited part) ∧ bytes = parts.flatten := by
  constructor
  · rintro hnone ⟨parts, hparts, rfl⟩
    obtain ⟨options, hoptions⟩ := exists_listOnto_flatten hparts []
    rw [list?, hoptions] at hnone
    simp at hnone
  · intro hparts
    cases hlist : list? bytes with
    | none => rfl
    | some options => exact absurd (exists_parts_of_listOnto hlist) hparts

end EdnsOption

namespace Edns

variable {cls : UInt16} {ttl : UInt32} {data : Bytes} {edns : Edns}

/-- The content is read off its own fields. -/
theorem ofFields_fields (hfit : ∀ option ∈ edns.options, option.data.length ≤ 65535) :
    ofFields edns.payloadSize edns.ttl edns.data = .ok edns := by
  -- The response code, the version and the flags are the digits of the TTL.
  obtain ⟨size, rcode, version, flags, options⟩ := edns
  have hrcode := rcode.toNat_lt
  have hversion := version.toNat_lt
  have hflags := flags.toNat_lt
  rw [ofFields, EdnsOption.list?, Edns.data, EdnsOption.listOnto_flatMap_wire hfit]
  simp only [Edns.ttl, UInt32.toNat_ofNat', List.reverse_nil, List.nil_append, Except.ok.injEq,
    mk.injEq, true_and, and_true]
  refine ⟨?_, ?_, ?_⟩
  · apply UInt8.toNat_inj.mp
    rw [UInt8.toNat_ofNat']
    omega
  · apply UInt8.toNat_inj.mp
    rw [UInt8.toNat_ofNat']
    omega
  · apply UInt16.toNat_inj.mp
    rw [UInt16.toNat_ofNat']
    omega

/-- Content that was read has the fields that it was read from. -/
theorem fields_of_ofFields_eq_ok (h : ofFields cls ttl data = .ok edns) :
    edns.fields = (cls, ttl, data) := by
  rw [ofFields] at h
  split at h
  case _ options hoptions =>
      obtain rfl := Except.ok.inj h
      have hform := EdnsOption.flatMap_wire_of_listOnto hoptions
      have httl := ttl.toNat_lt
      refine Prod.ext rfl (Prod.ext ?_ hform)
      apply UInt32.toNat_inj.mp
      simp only [fields, Edns.ttl, UInt32.toNat_ofNat', UInt16.toNat_ofNat', UInt8.toNat_ofNat']
      omega
  case _ => simp at h

/-- An option is no longer than all the data. -/
theorem length_le_of_mem {option : EdnsOption} (h : option ∈ edns.options) :
    option.data.length ≤ edns.data.length := by
  obtain ⟨front, back, hsplit⟩ := List.append_of_mem h
  rw [Edns.data, hsplit, List.flatMap_append, List.flatMap_cons]
  simp only [EdnsOption.wire, List.length_append]
  omega

/-! ### Both directions -/

/-- Content that was read consists of options that fit their length words. -/
theorem length_le_of_ofFields_eq_ok (h : ofFields cls ttl data = .ok edns) :
    ∀ option ∈ edns.options, option.data.length ≤ 65535 := by
  rw [ofFields] at h
  split at h
  case _ options hoptions =>
      obtain rfl := Except.ok.inj h
      exact EdnsOption.length_le_of_listOnto hoptions fun option hoption =>
        absurd hoption List.not_mem_nil
  case _ => simp at h

/-- There is one error, and it is about the data alone. -/
theorem ofFields_eq_error_iff {e : FormatError} :
    ofFields cls ttl data = .error e ↔ e = .invalidEdns ∧ EdnsOption.list? data = none := by
  rw [ofFields]
  cases EdnsOption.list? data with
  | none => simp [eq_comm]
  | some options => simp

/-- **Decoding and encoding of EDNS content are mutually inverse.** Fields are read as some content
exactly when they are the fields of that content, octet for octet and its options in order, and no
option is longer than its length word can say. Fields are refused, always with the same error,
exactly when their data is not a concatenation of options that each hold the data that their length
announces, whatever the class and the TTL are. -/
theorem ofFields_eq_iff (cls : UInt16) (ttl : UInt32) (data : Bytes) :
    (∀ edns, ofFields cls ttl data = .ok edns ↔
      edns.fields = (cls, ttl, data) ∧ ∀ option ∈ edns.options, option.data.length ≤ 65535) ∧
    ∀ e, ofFields cls ttl data = .error e ↔
      e = .invalidEdns ∧
        ¬ ∃ parts : List Bytes, (∀ part ∈ parts, EdnsOption.IsDelimited part) ∧
          data = parts.flatten := by
  refine ⟨fun edns => ⟨?_, ?_⟩, fun e => ?_⟩
  · intro h
    exact ⟨fields_of_ofFields_eq_ok h, length_le_of_ofFields_eq_ok h⟩
  · rintro ⟨hfields, hfit⟩
    simp only [fields, Prod.mk.injEq] at hfields
    obtain ⟨rfl, rfl, rfl⟩ := hfields
    exact ofFields_fields hfit
  · rw [ofFields_eq_error_iff, EdnsOption.list?_eq_none_iff]

end Edns

end DnsHealth
