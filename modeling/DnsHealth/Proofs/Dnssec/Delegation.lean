import DnsHealth.Proofs.Dnssec.KeyMaterial
import DnsHealth.Proofs.Dnssec.SignedData

/-!
# Delegations and the key that they name

The parent of a zone names a key of the zone by a digest. `KeyMaterial.agreesWith` looks at the
first key-signing key alone and asks of every delegation record that it names this key, so without
such a key there is nothing to disagree with, and a record of an unsupported digest type is as bad
as one with a wrong digest.

What is digested is the canonical owner with the key data behind it. A canonical name says itself
where it ends, and the fields of a key have fixed lengths but for the last, so different keys are
never digested as the same octets (`ZoneKey.digestInput_inj`).
-/

namespace DnsHealth

/-! ### What is digested -/

namespace Dnskey

theorem isKsk_eq_true_iff {key : Dnskey} : key.isKsk = true ↔ key.flags = 257 :=
  decide_eq_true_iff

/-- The wire form of a key determines all its fields. -/
theorem wire_inj {a b : Dnskey} (h : a.wire = b.wire) : a = b := by
  simp only [wire, List.append_assoc, List.cons_append, List.nil_append] at h
  obtain ⟨hflags, h⟩ := Bytes.ofUInt16_append_inj h
  obtain ⟨hprotocol, h⟩ := List.cons.inj h
  obtain ⟨halgorithm, hkey⟩ := List.cons.inj h
  cases a
  cases b
  simp_all

end Dnskey

namespace ZoneKey

variable {key other : ZoneKey}

/-- The class of a key and the case of its owner are not digested. -/
theorem digestInput_congr (howner : key.owner.eqIgnoreCase other.owner = true)
    (hkey : key.key = other.key) : key.digestInput = other.digestInput := by
  rw [digestInput, digestInput, Name.canonical_congr howner, hkey]

/-- Everything else is, and can be told from the octets. -/
theorem digestInput_inj (howner : key.owner.LabelsValid) (hother : other.owner.LabelsValid) :
    key.digestInput = other.digestInput ↔
      key.owner.eqIgnoreCase other.owner = true ∧ key.key = other.key := by
  constructor
  · intro h
    obtain ⟨hcase, hwire⟩ := Name.canonical_append_inj howner hother h
    exact ⟨hcase, Dnskey.wire_inj hwire⟩
  · rintro ⟨hcase, hkey⟩
    exact digestInput_congr hcase hkey

end ZoneKey

/-! ### Delegation records -/

theorem DigestType.ofNumber?_eq_some_iff {n : UInt8} {type : DigestType} :
    ofNumber? n = some type ↔ type.number = n := by
  constructor
  · intro h
    simpa using List.find?_some h
  · rintro rfl
    exact ofNumber?_number type

/-- The record does not name the key with these octets: digests of its type are not supported, or
its digest is not that of the octets. -/
inductive Ds.Denies (digest : DigestType → Bytes → Bytes) (octets : Bytes) (ds : Ds) : Prop
  | unsupported (h : ds.digestType ≠ 1 ∧ ds.digestType ≠ 2 ∧ ds.digestType ≠ 4)
  | sha1 (htype : ds.digestType = 1) (hdigest : ds.digest ≠ digest .sha1 octets)
  | sha256 (htype : ds.digestType = 2) (hdigest : ds.digest ≠ digest .sha256 octets)
  | sha384 (htype : ds.digestType = 4) (hdigest : ds.digest ≠ digest .sha384 octets)

/-- Each of the records is among the others, if not with the same key tag and algorithm. -/
def Ds.Among (records others : List Ds) : Prop :=
  ∀ ds ∈ records, ∃ ds' ∈ others, ds'.digestType = ds.digestType ∧ ds'.digest = ds.digest

section

variable {digest : DigestType → Bytes → Bytes} {octets : Bytes} {ds ds' : Ds}
  {records others : List Ds}

theorem Ds.denies_iff : ds.Denies digest octets ↔
    ∀ type : DigestType, type.number = ds.digestType → digest type octets ≠ ds.digest := by
  constructor
  · rintro (⟨h₁, h₂, h₄⟩ | ⟨htype, hdigest⟩ | ⟨htype, hdigest⟩ | ⟨htype, hdigest⟩) type hnumber heq
    all_goals cases type <;> simp_all [DigestType.number]
  · intro h
    have hnamed : ∀ type : DigestType, ds.digestType = type.number →
        ds.digest ≠ digest type octets :=
      fun type htype heq => h type htype.symm heq.symm
    by_cases h₁ : ds.digestType = 1
    · exact .sha1 h₁ (hnamed .sha1 h₁)
    · by_cases h₂ : ds.digestType = 2
      · exact .sha256 h₂ (hnamed .sha256 h₂)
      · by_cases h₄ : ds.digestType = 4
        · exact .sha384 h₄ (hnamed .sha384 h₄)
        · exact .unsupported ⟨h₁, h₂, h₄⟩

theorem Ds.Among.of_forall₂
    (h : List.Forall₂ (fun ds ds' =>
      ds'.digestType = ds.digestType ∧ ds'.digest = ds.digest) records others) :
    Among records others ∧ Among others records := by
  induction h with
  | nil => simp [Among]
  | cons hfirst _ ih =>
      obtain ⟨hin, hout⟩ := ih
      simp only [Among, List.forall_mem_cons, List.exists_mem_cons_iff]
      refine ⟨⟨.inl hfirst, fun ds hds => .inr (hin ds hds)⟩, ?_⟩
      exact ⟨.inl ⟨hfirst.1.symm, hfirst.2.symm⟩, fun ds hds => .inr (hout ds hds)⟩

end

namespace KeyMaterial

variable {digest : DigestType → Bytes → Bytes} {material other : KeyMaterial} {key key' : ZoneKey}
  {records others : List Ds} {ds : Ds}

theorem matchesKey_eq_true_iff : matchesKey digest key ds = true ↔
    ¬ ds.Denies digest key.digestInput := by
  rw [Ds.denies_iff, matchesKey]
  cases htype : DigestType.ofNumber? ds.digestType with
  | none =>
      have hnone : ∀ type : DigestType, type.number ≠ ds.digestType := by
        intro type hnumber
        rw [DigestType.ofNumber?_eq_some_iff.mpr hnumber] at htype
        cases htype
      simp [hnone]
  | some type =>
      -- No other type has the number.
      have honly : ∀ t : DigestType, t.number = ds.digestType ↔ t = type := by
        intro t
        rw [← DigestType.ofNumber?_eq_some_iff, htype, Option.some.injEq, eq_comm]
      simp [honly]

/-! ### The first key-signing key -/

/-- The key is the first one with the flags of a key-signing key. -/
def IsFirstKsk (material : KeyMaterial) (key : ZoneKey) : Prop :=
  ∃ before after, material.keys = before ++ key :: after ∧ key.key.flags = 257 ∧
    ∀ earlier ∈ before, earlier.key.flags ≠ 257

theorem firstKsk?_eq_some_iff : material.firstKsk? = some key ↔ material.IsFirstKsk key := by
  rw [firstKsk?, ksks, List.head?_filter, List.find?_eq_some_iff_append, IsFirstKsk]
  simp only [Bool.not_eq_true', ← Bool.not_eq_true, Dnskey.isKsk_eq_true_iff]
  constructor
  · rintro ⟨hflags, before, after, hkeys, hbefore⟩
    exact ⟨before, after, hkeys, hflags, hbefore⟩
  · rintro ⟨before, after, hkeys, hflags, hbefore⟩
    exact ⟨hflags, before, after, hkeys, hbefore⟩

/-! ### The cross check -/

theorem agreesWith_eq_false_iff_denies : material.agreesWith digest records = false ↔
    ∃ key, material.IsFirstKsk key ∧ ∃ ds ∈ records, ds.Denies digest key.digestInput := by
  simp only [← firstKsk?_eq_some_iff, agreesWith]
  cases material.firstKsk? with
  | none => simp
  | some key => simp [← Bool.not_eq_true, matchesKey_eq_true_iff]

/-- Of the first key-signing key only what is digested matters. -/
theorem agreesWith_congr_key (hkey : material.IsFirstKsk key) (hkey' : other.IsFirstKsk key')
    (h : key'.digestInput = key.digestInput) (records : List Ds) :
    other.agreesWith digest records = material.agreesWith digest records := by
  simp only [agreesWith, firstKsk?_eq_some_iff.mpr hkey, firstKsk?_eq_some_iff.mpr hkey']
  congr 1
  funext ds
  rw [Bool.eq_iff_iff, matchesKey_eq_true_iff, matchesKey_eq_true_iff, h]

/-- With fewer records there is less to disagree with. -/
theorem agreesWith_of_among (h : Ds.Among records others)
    (hothers : material.agreesWith digest others = true) :
    material.agreesWith digest records = true := by
  rw [← Bool.not_eq_false, agreesWith_eq_false_iff_denies] at hothers ⊢
  rintro ⟨key, hkey, ds, hds, hdenies⟩
  obtain ⟨ds', hds', htype, hdigest⟩ := h ds hds
  refine hothers ⟨key, hkey, ds', hds', ?_⟩
  rw [Ds.denies_iff, htype, hdigest]
  exact Ds.denies_iff.mp hdenies

theorem agreesWith_congr_records (h : Ds.Among records others) (h' : Ds.Among others records) :
    material.agreesWith digest others = material.agreesWith digest records :=
  Bool.eq_iff_iff.mpr ⟨agreesWith_of_among h, agreesWith_of_among h'⟩

/-- **What the cross check says.** It fails exactly when there is a key-signing key and some
delegation record does not name the first one: its digest type is not supported, or its digest is
not that of the canonical owner with the key data behind it. So it does not matter in which order
and how often the records come, nor what key tags and algorithms they have, and further records can
only make it fail. Of the keys only the first key-signing key matters, and not the case of its
owner. Different keys are digested as different octets, up to the case of the owner. -/
theorem agreesWith_eq_false_iff (digest : DigestType → Bytes → Bytes) (material : KeyMaterial)
    (records : List Ds) : (material.agreesWith digest records = false ↔
      ∃ key, material.IsFirstKsk key ∧
        ∃ ds ∈ records, ds.Denies digest (key.owner.canonical ++ key.key.wire)) ∧
    (∀ others, (∀ ds, ds ∈ others ↔ ds ∈ records) →
      material.agreesWith digest others = material.agreesWith digest records) ∧
    (∀ others,
      List.Forall₂ (fun ds ds' =>
        ds'.digestType = ds.digestType ∧ ds'.digest = ds.digest) records others →
        material.agreesWith digest others = material.agreesWith digest records) ∧
    (∀ others, records ⊆ others → material.agreesWith digest others = true →
      material.agreesWith digest records = true) ∧
    (∀ (other : KeyMaterial) (key key' : ZoneKey), material.IsFirstKsk key → other.IsFirstKsk key' →
      key'.key = key.key → key'.owner.eqIgnoreCase key.owner = true →
        other.agreesWith digest records = material.agreesWith digest records) ∧
    ∀ key key' : ZoneKey, key.owner.LabelsValid → key'.owner.LabelsValid →
      (key.owner.canonical ++ key.key.wire = key'.owner.canonical ++ key'.key.wire ↔
        key.owner.eqIgnoreCase key'.owner = true ∧ key.key.flags = key'.key.flags ∧
          key.key.protocol = key'.key.protocol ∧ key.key.algorithm = key'.key.algorithm ∧
          key.key.publicKey = key'.key.publicKey) := by
  have hamong : ∀ {l m : List Ds}, l ⊆ m → Ds.Among l m := fun h ds hds => ⟨ds, h hds, rfl, rfl⟩
  refine ⟨agreesWith_eq_false_iff_denies, ?_, ?_, ?_, ?_, ?_⟩
  · intro others hothers
    exact agreesWith_congr_records (hamong fun ds => (hothers ds).mpr)
      (hamong fun ds => (hothers ds).mp)
  · intro others hothers
    obtain ⟨hin, hout⟩ := Ds.Among.of_forall₂ hothers
    exact agreesWith_congr_records hin hout
  · intro others hothers
    exact agreesWith_of_among (hamong hothers)
  · intro other key key' hkey hkey' hdata howner
    exact agreesWith_congr_key hkey hkey' (ZoneKey.digestInput_congr howner hdata) records
  · intro key key' howner howner'
    refine (ZoneKey.digestInput_inj howner howner').trans (and_congr_right fun _ => ?_)
    cases key.key
    cases key'.key
    simp

/-- Behind a key that is no key-signing key stand two that are. The delegation names the first of
them, its owner in other letters, and a second delegation has a digest of an unknown type. -/
theorem agreesWith_eq_false_iff_unknownDigest :
    let zone : Name := ⟨["Example", "COM"]⟩
    let key (flags : UInt16) (publicKey : Bytes) : ZoneKey :=
      { owner := zone, cls := .internet
        key := { flags, protocol := 3, algorithm := 15, publicKey } }
    let material : KeyMaterial :=
      { keys := [key 256 [1], key 257 [2], key 257 [3]], signature := none, rrset := [] }
    let named : ZoneKey := { key 257 [2] with owner := ⟨["example", "com"]⟩ }
    let first : Ds :=
      { keyTag := 7, algorithm := 8, digestType := 2,
        digest := DigestType.digest .sha256 named.digestInput }
    let second : Ds := { first with digestType := 3 }
    material.agreesWith DigestType.digest
        [first, { first with keyTag := 0, algorithm := 0 }] = true ∧
      material.agreesWith DigestType.digest [second, first] = false := by
  intro zone key material named first second
  have hfirst : material.IsFirstKsk (key 257 [2]) :=
    ⟨[key 256 [1]], [key 257 [3]], rfl, rfl, by decide⟩
  have hoctets : (key 257 [2]).digestInput = named.digestInput :=
    ZoneKey.digestInput_congr (by decide) rfl
  have hnames : matchesKey DigestType.digest (key 257 [2]) first = true :=
    decide_eq_true (congrArg (DigestType.digest .sha256) hoctets)
  have hone : material.agreesWith DigestType.digest [first] = true := by
    rw [agreesWith, firstKsk?_eq_some_iff.mpr hfirst]
    simpa using hnames
  obtain ⟨-, hmembers, -⟩ := agreesWith_eq_false_iff DigestType.digest material [first]
  obtain ⟨-, -, hfields, -⟩ := agreesWith_eq_false_iff DigestType.digest material [first, first]
  obtain ⟨hfalse, -⟩ := agreesWith_eq_false_iff DigestType.digest material [second, first]
  constructor
  · have htwice := hmembers [first, first] (by simp)
    exact (hfields _ (.cons ⟨rfl, rfl⟩ (.cons ⟨rfl, rfl⟩ .nil))).trans (htwice.trans hone)
  · exact hfalse.mpr ⟨_, hfirst, second, List.mem_cons_self, .unsupported (by decide)⟩

end KeyMaterial

end DnsHealth
