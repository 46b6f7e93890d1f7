import DnsHealth.Dnssec.SignedData
import DnsHealth.Proofs.Name
import Mathlib.Data.List.Sort

/-!
# What signed data identifies

The byte string that a signature covers is a concatenation of parts that each say where they end:
fixed fields, names, and record data behind its length. So it can be taken apart again
(`signedFields_append_inj`, `SignedData.block_append_inj`), and what it was made of can be read off
it. The other half is that the parts depend on the records only as a set: sorting and dropping
repetitions yields the one strictly ascending list of the record data
(`SignedData.canonicalRdata_eq_iff`).
-/

namespace DnsHealth

/-! ### Words in front of other octets -/

namespace Bytes

theorem ofUInt16_append_inj {v w : UInt16} {x y : Bytes} (h : ofUInt16 v ++ x = ofUInt16 w ++ y) :
    v = w ∧ x = y := by
  obtain ⟨hword, hrest⟩ := List.append_inj h rfl
  obtain ⟨hhigh, hlow⟩ := List.cons.inj hword
  refine ⟨?_, hrest⟩
  rw [← toUInt16_ofUInt16 v, hhigh, (List.cons.inj hlow).1, toUInt16_ofUInt16]

theorem ofUInt32_append_inj {v w : UInt32} {x y : Bytes} (h : ofUInt32 v ++ x = ofUInt32 w ++ y) :
    v = w ∧ x = y := by
  obtain ⟨hword, hrest⟩ := List.append_inj h rfl
  simp only [ofUInt32, List.cons.injEq] at hword
  obtain ⟨h₁, h₂, h₃, h₄, -⟩ := hword
  refine ⟨?_, hrest⟩
  rw [← toUInt32_ofUInt32 v, h₁, h₂, h₃, h₄, toUInt32_ofUInt32]

end Bytes

/-! ### The fields of the signature -/

namespace Rrsig

/-- Two signatures agree on every field in front of the signature itself, the signer up to case. -/
structure SignsAlike (s t : Rrsig) : Prop where
  typeCovered : s.typeCovered.code = t.typeCovered.code
  algorithm : s.algorithm = t.algorithm
  labels : s.labels = t.labels
  originalTtl : s.originalTtl = t.originalTtl
  expiration : s.expiration = t.expiration
  inception : s.inception = t.inception
  keyTag : s.keyTag = t.keyTag
  signerName : s.signerName.eqIgnoreCase t.signerName = true

variable {s t : Rrsig} {x y : Bytes}

theorem signedFields_congr (h : SignsAlike s t) : s.signedFields = t.signedFields := by
  simp only [signedFields, fixedFields, h.typeCovered, h.algorithm, h.labels, h.originalTtl,
    h.expiration, h.inception, h.keyTag, Name.canonical_congr h.signerName]

/-- The signed fields can be split off what follows in one way only. -/
theorem signedFields_append_inj (hs : s.signerName.LabelsValid) (ht : t.signerName.LabelsValid)
    (h : s.signedFields ++ x = t.signedFields ++ y) : SignsAlike s t ∧ x = y := by
  simp only [signedFields, fixedFields, List.append_assoc, List.cons_append, List.nil_append] at h
  obtain ⟨htype, h⟩ := Bytes.ofUInt16_append_inj h
  obtain ⟨halgorithm, h⟩ := List.cons.inj h
  obtain ⟨hlabels, h⟩ := List.cons.inj h
  obtain ⟨httl, h⟩ := Bytes.ofUInt32_append_inj h
  obtain ⟨hexpiration, h⟩ := Bytes.ofUInt32_append_inj h
  obtain ⟨hinception, h⟩ := Bytes.ofUInt32_append_inj h
  obtain ⟨htag, h⟩ := Bytes.ofUInt16_append_inj h
  obtain ⟨hsigner, hrest⟩ := Name.canonical_append_inj hs ht h
  exact ⟨⟨htype, halgorithm, hlabels, httl, hexpiration, hinception, htag, hsigner⟩, hrest⟩

end Rrsig

namespace SignedData

/-! ### The owner -/

/-- The owner that the signer saw: the received one, or its wildcard when the signature counts fewer
labels. -/
def signedOwner (labels : UInt8) (received : Name) : Name :=
  if labels.toNat < received.labelCount then received.wildcardSuffix labels.toNat else received

theorem owner_eq_ok_iff {labels : UInt8} {received name : Name} :
    owner labels received = .ok name ↔
      labels.toNat ≤ received.labelCount ∧ name = signedOwner labels received := by
  by_cases hmore : received.labelCount < labels.toNat
  · simp only [owner, if_pos hmore, reduceCtorEq, false_iff]
    omega
  · by_cases hfewer : labels.toNat < received.labelCount
    · simp only [owner, signedOwner, if_neg hmore, if_pos hfewer, Except.ok.injEq, eq_comm]
      simp [Nat.le_of_lt hfewer]
    · simp only [owner, signedOwner, if_neg hmore, if_neg hfewer, Except.ok.injEq, eq_comm]
      simp [Nat.le_of_not_lt hmore]

/-- Putting a wildcard in front of some labels of a name leaves every label within its limits. -/
theorem labelsValid_signedOwner (labels : UInt8) {received : Name} (h : received.LabelsValid) :
    (signedOwner labels received).LabelsValid := by
  rw [signedOwner]
  split
  case _ =>
      intro label hlabel
      rcases List.mem_cons.mp hlabel with rfl | hlabel
      · decide
      · exact h label (List.mem_of_mem_drop hlabel)
  case _ => exact h

/-! ### Blocks -/

section Blocks

variable {o p : Name} {type type' : RecordType} {cls cls' : RecordClass} {ttl ttl' : UInt32}
  {x y u v : Bytes}

/-- The form of a record with some data: behind the owner, the type, the class and the TTL stands
the length of the data, in two octets and cut to what these can say, and then the data. -/
def IsRecordBlock (owner : Name) (type : RecordType) (cls : RecordClass) (ttl : UInt32)
    (rdata form : Bytes) : Prop :=
  ∃ high low : UInt8, high.toNat * 256 + low.toNat = rdata.length % 65536 ∧
    form = owner.canonical ++ Bytes.ofUInt16 type.code ++ Bytes.ofUInt16 cls.code ++
      Bytes.ofUInt32 ttl ++ [high, low] ++ rdata

theorem isRecordBlock_block (owner : Name) (type : RecordType) (cls : RecordClass) (ttl : UInt32)
    (rdata : Bytes) : IsRecordBlock owner type cls ttl rdata (block owner type cls ttl rdata) := by
  have hword : (UInt16.ofNat rdata.length).toNat = rdata.length % 65536 := UInt16.toNat_ofNat'
  refine ⟨UInt8.ofNat ((UInt16.ofNat rdata.length).toNat / 256),
    UInt8.ofNat (UInt16.ofNat rdata.length).toNat, ?_, rfl⟩
  rw [hword, UInt8.toNat_ofNat', UInt8.toNat_ofNat']
  omega

/-- Blocks in a row are the forms of the records with their data. -/
theorem forall₂_isRecordBlock (owner : Name) (type : RecordType) (cls : RecordClass) (ttl : UInt32)
    (rdatas : List Bytes) : List.Forall₂ (IsRecordBlock owner type cls ttl) rdatas
      (rdatas.map (block owner type cls ttl)) := by
  induction rdatas with
  | nil => exact .nil
  | cons rdata rest ih => exact .cons (isRecordBlock_block owner type cls ttl rdata) ih

theorem block_congr (howner : o.eqIgnoreCase p = true) (htype : type.code = type'.code)
    (hcls : cls.code = cls'.code) (httl : ttl = ttl') :
    block o type cls ttl = block p type' cls' ttl' := by
  funext rdata
  simp only [block, Name.canonical_congr howner, htype, hcls, httl]

/-- A block whose data fits its length word can be split off what follows in one way only. -/
theorem block_append_inj (ho : o.LabelsValid) (hp : p.LabelsValid) (hx : x.length ≤ 65535)
    (hy : y.length ≤ 65535) (h : block o type cls ttl x ++ u = block p type' cls' ttl' y ++ v) :
    (o.eqIgnoreCase p = true ∧ type.code = type'.code ∧ cls.code = cls'.code) ∧ x = y ∧ u = v := by
  simp only [block, List.append_assoc] at h
  obtain ⟨howner, h⟩ := Name.canonical_append_inj ho hp h
  obtain ⟨htype, h⟩ := Bytes.ofUInt16_append_inj h
  obtain ⟨hcls, h⟩ := Bytes.ofUInt16_append_inj h
  obtain ⟨-, h⟩ := Bytes.ofUInt32_append_inj h
  obtain ⟨hword, h⟩ := Bytes.ofUInt16_append_inj h
  have hlength : x.length = y.length := by
    rw [← UInt16.toNat_ofNat_of_lt' (Nat.lt_succ_of_le hx), hword,
      UInt16.toNat_ofNat_of_lt' (Nat.lt_succ_of_le hy)]
  obtain ⟨hdata, hrest⟩ := List.append_inj h hlength
  exact ⟨⟨howner, htype, hcls⟩, hdata, hrest⟩

theorem block_ne_nil : block o type cls ttl x ≠ [] := by
  simp [block, Bytes.ofUInt16]

/-- A sequence of blocks determines the data in them. -/
theorem flatMap_block_inj {xs ys : List Bytes} (ho : o.LabelsValid) (hp : p.LabelsValid)
    (hxs : ∀ x ∈ xs, x.length ≤ 65535) (hys : ∀ y ∈ ys, y.length ≤ 65535)
    (h : xs.flatMap (block o type cls ttl) = ys.flatMap (block p type' cls' ttl')) : xs = ys := by
  -- No block is empty, so the two sequences end together.
  induction xs generalizing ys with
  | nil =>
      cases ys with
      | nil => rfl
      | cons y ys => exact absurd (List.append_eq_nil_iff.mp h.symm).1 block_ne_nil
  | cons x xs ih =>
      cases ys with
      | nil => exact absurd (List.append_eq_nil_iff.mp h).1 block_ne_nil
      | cons y ys =>
          obtain ⟨hx, hxs'⟩ := List.forall_mem_cons.mp hxs
          obtain ⟨hy, hys'⟩ := List.forall_mem_cons.mp hys
          rw [List.flatMap_cons, List.flatMap_cons] at h
          obtain ⟨-, rfl, hrest⟩ := block_append_inj ho hp hx hy h
          rw [ih hxs' hys' hrest]

end Blocks

/-! ### The canonical record data of a set -/

section Canonical

variable {α : Type} [BEq α] [LawfulBEq α]

theorem eraseReps_cons_cons (a b : α) (rest : List α) :
    (a :: b :: rest).eraseReps =
      if a == b then (b :: rest).eraseReps else a :: (b :: rest).eraseReps := by
  -- The loop of the library collects backwards, and what it has collected only stands in front.
  have hloop : ∀ (c : α) (l done : List α), List.eraseRepsBy.loop (· == ·) c l done =
      done.reverse ++ List.eraseRepsBy.loop (· == ·) c l [] := by
    intro c l
    induction l generalizing c with
    | nil => intro done; simp [List.eraseRepsBy.loop]
    | cons d l ih =>
        intro done
        simp only [List.eraseRepsBy.loop]
        split
        case _ => exact ih c done
        case _ => rw [ih d (c :: done), ih d [c]]; simp
  simp only [List.eraseReps, List.eraseRepsBy, List.eraseRepsBy.loop]
  split
  case _ heq =>
      obtain rfl := eq_of_beq heq
      rw [if_pos heq]
  case _ hne =>
      rw [if_neg (by simp [hne]), hloop b rest [a]]
      rfl

/-- Dropping repetitions drops no member. -/
theorem mem_eraseReps {x : α} : ∀ {l : List α}, x ∈ l.eraseReps ↔ x ∈ l
  | [] => Iff.rfl
  | [_] => Iff.rfl
  | a :: b :: rest => by
      rw [eraseReps_cons_cons]
      have ih := mem_eraseReps (x := x) (l := b :: rest)
      by_cases hab : a == b
      · rw [if_pos hab, ih, eq_of_beq hab]
        simp
      · rw [if_neg hab, List.mem_cons, ih, List.mem_cons (a := x) (b := a)]

/-- An ascending list ascends strictly once repetitions are dropped. -/
theorem pairwise_lt_eraseReps : ∀ {l : List Bytes}, l.Pairwise (· ≤ ·) →
    l.eraseReps.Pairwise (· < ·)
  | [], _ => List.Pairwise.nil
  | [a], _ => List.pairwise_singleton (· < ·) a
  | a :: b :: rest, h => by
      rw [eraseReps_cons_cons]
      obtain ⟨hfirst, hrest⟩ := List.pairwise_cons.mp h
      have ih := pairwise_lt_eraseReps hrest
      by_cases hab : a == b
      · rw [if_pos hab]
        exact ih
      · rw [if_neg hab]
        refine List.pairwise_cons.mpr ⟨?_, ih⟩
        intro x hx
        have hlt : a < b :=
          Std.lt_of_le_of_ne (hfirst b List.mem_cons_self) (fun heq => hab (beq_iff_eq.mpr heq))
        have hle : b ≤ x := by
          rcases List.mem_cons.mp (mem_eraseReps.mp hx) with rfl | hx
          · exact Std.le_refl x
          · exact (List.pairwise_cons.mp hrest).1 x hx
        exact Std.lt_of_lt_of_le hlt hle

end Canonical

variable {rrset other : List Record}

theorem mem_canonicalRdata {data : Bytes} :
    data ∈ canonicalRdata rrset ↔ ∃ r ∈ rrset, r.rdata.canonical = data := by
  rw [canonicalRdata, mem_eraseReps, List.mem_mergeSort, List.mem_map]

/-- The record data of a set is listed in strictly ascending order. -/
theorem pairwise_canonicalRdata (rrset : List Record) :
    (canonicalRdata rrset).Pairwise (· < ·) := by
  refine pairwise_lt_eraseReps ?_
  have htrans : ∀ x y z : Bytes, decide (x ≤ y) = true → decide (y ≤ z) = true →
      decide (x ≤ z) = true := by
    intro x y z hxy hyz
    rw [decide_eq_true_eq] at hxy hyz ⊢
    exact Std.le_trans hxy hyz
  have htotal : ∀ x y : Bytes, (decide (x ≤ y) || decide (y ≤ x)) = true := by
    intro x y
    rw [Bool.or_eq_true, decide_eq_true_eq, decide_eq_true_eq]
    exact Std.le_total
  exact (List.pairwise_mergeSort htrans htotal _).imp fun h => of_decide_eq_true h

/-- The list of record data is the same for two sequences of records exactly when the set is. -/
theorem canonicalRdata_eq_iff : canonicalRdata rrset = canonicalRdata other ↔
    ∀ data, (∃ r ∈ rrset, r.rdata.canonical = data) ↔ ∃ r ∈ other, r.rdata.canonical = data := by
  constructor
  · intro h data
    rw [← mem_canonicalRdata, h, mem_canonicalRdata]
  · intro h
    refine (pairwise_canonicalRdata rrset).eq_of_mem_iff (pairwise_canonicalRdata other) ?_
    intro data
    rw [mem_canonicalRdata, mem_canonicalRdata]
    exact h data

/-! ### What the signed data identifies -/

/-- A signature and a record set in which every part fits the field that says how long it is. -/
structure Delimited (sig : Rrsig) (rrset : List Record) : Prop where
  signer : sig.signerName.LabelsValid
  owners : ∀ r ∈ rrset, r.name.LabelsValid
  data : ∀ r ∈ rrset, r.rdata.canonical.length ≤ 65535

theorem Delimited.canonicalRdata {sig : Rrsig} (h : Delimited sig rrset) :
    ∀ data ∈ canonicalRdata rrset, data.length ≤ 65535 := by
  intro data hdata
  obtain ⟨r, hr, rfl⟩ := mem_canonicalRdata.mp hdata
  exact h.data r hr

/-- Signed data that could be built is the signed fields and one block for each distinct record
data. -/
theorem signedData_eq_ok_iff {sig : Rrsig} {first : Record} {rest : List Record} {data : Bytes} :
    signedData sig (first :: rest) = .ok data ↔
      sig.labels.toNat ≤ first.name.labelCount ∧
        data = sig.signedFields ++ (canonicalRdata (first :: rest)).flatMap
          (block (signedOwner sig.labels first.name) first.type first.cls sig.originalTtl) := by
  rw [signedData]
  cases howner : owner sig.labels first.name with
  | error e =>
      simp only [reduceCtorEq, false_iff]
      intro h
      have hok := owner_eq_ok_iff.mpr ⟨h.1, rfl⟩
      rw [howner] at hok
      simp at hok
  | ok name =>
      obtain ⟨hlabels, rfl⟩ := owner_eq_ok_iff.mp howner
      simp only [Except.ok.injEq, hlabels, true_and, eq_comm]

/-- A signature that counts more labels than the owner of the first record has covers nothing. -/
theorem signedData_of_lt {sig : Rrsig} {first : Record} (rest : List Record)
    (h : first.name.labelCount < sig.labels.toNat) :
    signedData sig (first :: rest) =
    .error (.invalidLabelCount sig.labels first.name.labelCount) := by
  have howner : owner sig.labels first.name =
      .error (.invalidLabelCount sig.labels first.name.labelCount) :=
    if_pos h
  rw [signedData, howner]

end SignedData

open SignedData in
/-- **Signed data identifies the record set that it covers.** Two signatures over two record sets
cover the same byte string exactly when they agree on their fields, the signer up to case, and the
record sets on the owner that the signer saw, up to case, on type and class, and on the set of
canonical record data. -/
theorem signedData_eq_iff {s₁ s₂ : Rrsig} {first₁ first₂ : Record} {rest₁ rest₂ : List Record}
    {data₁ data₂ : Bytes} (h₁ : signedData s₁ (first₁ :: rest₁) = .ok data₁)
    (h₂ : signedData s₂ (first₂ :: rest₂) = .ok data₂) (hfit₁ : Delimited s₁ (first₁ :: rest₁))
    (hfit₂ : Delimited s₂ (first₂ :: rest₂)) :
    data₁ = data₂ ↔
      s₁.SignsAlike s₂ ∧
      (signedOwner s₁.labels first₁.name).eqIgnoreCase (signedOwner s₂.labels first₂.name) = true ∧
      first₁.type.code = first₂.type.code ∧ first₁.cls.code = first₂.cls.code ∧
      ∀ data, (∃ r ∈ first₁ :: rest₁, r.rdata.canonical = data) ↔
        ∃ r ∈ first₂ :: rest₂, r.rdata.canonical = data := by
  obtain ⟨-, rfl⟩ := signedData_eq_ok_iff.mp h₁
  obtain ⟨-, rfl⟩ := signedData_eq_ok_iff.mp h₂
  have howner₁ := labelsValid_signedOwner s₁.labels (hfit₁.owners first₁ List.mem_cons_self)
  have howner₂ := labelsValid_signedOwner s₂.labels (hfit₂.owners first₂ List.mem_cons_self)
  rw [← canonicalRdata_eq_iff]
  constructor
  · intro h
    obtain ⟨hfields, hblocks⟩ := Rrsig.signedFields_append_inj hfit₁.signer hfit₂.signer h
    have hdata :=
      flatMap_block_inj howner₁ howner₂ hfit₁.canonicalRdata hfit₂.canonicalRdata hblocks
    -- The sets are not empty, so there is a first block to read the owner, type and class off.
    have hmem : first₁.rdata.canonical ∈ canonicalRdata (first₁ :: rest₁) :=
      mem_canonicalRdata.mpr ⟨first₁, List.mem_cons_self, rfl⟩
    have hfit := hfit₁.canonicalRdata
    rw [← hdata] at hblocks
    cases hlist : canonicalRdata (first₁ :: rest₁) with
    | nil =>
        rw [hlist] at hmem
        exact absurd hmem List.not_mem_nil
    | cons x xs =>
        rw [hlist] at hblocks hfit
        rw [List.flatMap_cons, List.flatMap_cons] at hblocks
        have hx := hfit x List.mem_cons_self
        obtain ⟨⟨howner, htype, hcls⟩, -, -⟩ := block_append_inj howner₁ howner₂ hx hx hblocks
        exact ⟨hfields, howner, htype, hcls, by rw [← hdata, hlist]⟩
  · rintro ⟨hfields, howner, htype, hcls, hdata⟩
    rw [Rrsig.signedFields_congr hfields, hdata, block_congr howner htype hcls hfields.originalTtl]

/-- Two expansions of one wildcard, with the addresses in another order and one of them twice, with
other TTLs and in other letters. -/
theorem signedData_eq_wildcard :
    let sig : Name → Rrsig := fun signer =>
      { typeCovered := .a, algorithm := 8, labels := 1, originalTtl := 3600, expiration := 2000
        inception := 1000, keyTag := 7, signerName := signer, signature := [] }
    let low : Rdata := .a #v[192, 0, 2, 1]
    let high : Rdata := .a #v[192, 0, 2, 2]
    ∃ data,
      signedData (sig ⟨["example"]⟩)
        [.ofRdata ⟨["a", "example"]⟩ 60 low, .ofRdata ⟨["a", "example"]⟩ 60 high] = .ok data ∧
      signedData (sig ⟨["Example"]⟩)
        [.ofRdata ⟨["B", "EXAMPLE"]⟩ 30 high, .ofRdata ⟨["b", "example"]⟩ 20 low,
          .ofRdata ⟨["b", "example"]⟩ 10 high] = .ok data := by
  intro sig low high
  have h₁ : signedData (sig ⟨["example"]⟩)
      [.ofRdata ⟨["a", "example"]⟩ 60 low, .ofRdata ⟨["a", "example"]⟩ 60 high] = .ok _ :=
    SignedData.signedData_eq_ok_iff.mpr ⟨by decide, rfl⟩
  have h₂ : signedData (sig ⟨["Example"]⟩)
      [.ofRdata ⟨["B", "EXAMPLE"]⟩ 30 high, .ofRdata ⟨["b", "example"]⟩ 20 low,
        .ofRdata ⟨["b", "example"]⟩ 10 high] = .ok _ :=
    SignedData.signedData_eq_ok_iff.mpr ⟨by decide, rfl⟩
  have heq := (signedData_eq_iff h₁ h₂ ⟨by decide, by decide, by decide⟩
    ⟨by decide, by decide, by decide⟩).mpr
      ⟨⟨rfl, rfl, rfl, rfl, rfl, rfl, rfl, by decide⟩, by decide, rfl, rfl, ?_⟩
  · exact ⟨_, h₁, heq ▸ h₂⟩
  · intro data
    constructor
    · rintro ⟨r, hr, rfl⟩
      rcases List.mem_pair.mp hr with rfl | rfl
      · exact ⟨_, .tail _ (.head _), rfl⟩
      · exact ⟨_, .head _, rfl⟩
    · rintro ⟨r, hr, rfl⟩
      rcases List.mem_cons.mp hr with rfl | hr
      · exact ⟨_, .tail _ (.head _), rfl⟩
      · rcases List.mem_pair.mp hr with rfl | rfl
        · exact ⟨_, .head _, rfl⟩
        · exact ⟨_, .tail _ (.head _), rfl⟩

end DnsHealth
