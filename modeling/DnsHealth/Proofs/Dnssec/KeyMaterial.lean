import DnsHealth.Dnssec.KeyMaterial
import Mathlib.Data.List.Basic

/-!
# Signatures and keys among answers

Answers are sorted by the type of the record first and by what the data is second. Where the two
agree, as in every message that was read, the second alone decides: the first signature is the first
answer that holds one, and the keys are all keys in the order of the answers.
-/

namespace DnsHealth

variable {record : Record} {answers : List Record}

theorem SignatureRecord.ofRecord?_eq_some_iff {sig : SignatureRecord} :
    ofRecord? record = some sig ↔ ∃ rrsig, record.rdata = .rrsig rrsig ∧
      sig = { owner := record.name, cls := record.cls, ttl := record.ttl, rrsig } := by
  rw [ofRecord?]
  split
  case _ rrsig heq =>
      constructor
      · intro h
        exact ⟨rrsig, heq, (Option.some.inj h).symm⟩
      · rintro ⟨other, hother, rfl⟩
        obtain rfl := Rdata.rrsig.inj (heq.symm.trans hother)
        rfl
  case _ hother => exact ⟨nofun, fun ⟨rrsig, heq, _⟩ => absurd heq (hother rrsig)⟩

theorem SignatureRecord.ofRecord?_eq_none_iff :
    ofRecord? record = none ↔ ∀ rrsig, record.rdata ≠ .rrsig rrsig := by
  constructor
  · intro hnone rrsig heq
    have hsome := ofRecord?_eq_some_iff.mpr ⟨rrsig, heq, rfl⟩
    exact Option.some_ne_none _ (hsome.symm.trans hnone)
  · intro h
    refine Option.eq_none_iff_forall_ne_some.mpr fun sig hsig => ?_
    obtain ⟨rrsig, heq, -⟩ := ofRecord?_eq_some_iff.mp hsig
    exact h rrsig heq

theorem SignatureRecord.ofRecord?_eq_none (h : record.rdata.type ≠ .rrsig) :
    SignatureRecord.ofRecord? record = none :=
  ofRecord?_eq_none_iff.mpr fun _ heq => h (congrArg Rdata.type heq)

theorem ZoneKey.ofRecord?_eq_some_iff {key : ZoneKey} : ofRecord? record = some key ↔
    ∃ dnskey, record.rdata = .dnskey dnskey ∧
      key = { owner := record.name, cls := record.cls, key := dnskey } := by
  rw [ofRecord?]
  split
  case _ dnskey heq =>
      constructor
      · intro h
        exact ⟨dnskey, heq, (Option.some.inj h).symm⟩
      · rintro ⟨other, hother, rfl⟩
        obtain rfl := Rdata.dnskey.inj (heq.symm.trans hother)
        rfl
  case _ hother => exact ⟨nofun, fun ⟨dnskey, heq, _⟩ => absurd heq (hother dnskey)⟩

theorem ZoneKey.ofRecord?_eq_none (h : record.rdata.type ≠ .dnskey) :
    ZoneKey.ofRecord? record = none := by
  refine Option.eq_none_iff_forall_ne_some.mpr fun key hkey => ?_
  obtain ⟨dnskey, heq, -⟩ := ofRecord?_eq_some_iff.mp hkey
  exact h (congrArg Rdata.type heq)

/-- The first signature is in the first answer that is of the type of signatures and holds one. -/
theorem firstSignature?_eq_some_iff {sig : SignatureRecord} : firstSignature? answers = some sig ↔
    ∃ before r after, answers = before ++ r :: after ∧
      (r.type = .rrsig ∧ SignatureRecord.ofRecord? r = some sig) ∧
      ∀ q ∈ before, q.type = .rrsig → SignatureRecord.ofRecord? q = none := by
  rw [firstSignature?, ← List.head?_filterMap, List.filterMap_filter, List.head?_filterMap,
    List.findSome?_eq_some_iff]
  simp only [decide_eq_true_eq, Option.ite_none_right_eq_some, ite_eq_right_iff]

/-- There are keys when some answer is of the type of keys and holds one. -/
theorem KeyMaterial.isEmpty_ofAnswers_eq_false_iff : (ofAnswers answers).isEmpty = false ↔
    ∃ r ∈ answers, r.type = .dnskey ∧ ∃ key, r.rdata = .dnskey key := by
  rw [isEmpty, List.isEmpty_eq_false_iff_exists_mem]
  constructor
  · rintro ⟨key, hkey⟩
    obtain ⟨r, hr, hsome⟩ := List.mem_filterMap.mp hkey
    obtain ⟨hr, htype⟩ := List.mem_filter.mp hr
    obtain ⟨dnskey, hdata, -⟩ := ZoneKey.ofRecord?_eq_some_iff.mp hsome
    exact ⟨r, (List.mem_filter.mp hr).1, of_decide_eq_true htype, dnskey, hdata⟩
  · rintro ⟨r, hr, htype, dnskey, hdata⟩
    have hplain : r ∈ withoutSignatures answers := List.mem_filter.mpr ⟨hr, by rw [htype]; decide⟩
    exact ⟨_, List.mem_filterMap.mpr ⟨r, List.mem_filter.mpr ⟨hplain, decide_eq_true htype⟩,
      ZoneKey.ofRecord?_eq_some_iff.mpr ⟨dnskey, hdata, rfl⟩⟩⟩

/-- The first signature is the first answer that holds one. -/
theorem firstSignature?_eq_findSome? (h : ∀ r ∈ answers, r.type = r.rdata.type) :
    firstSignature? answers = answers.findSome? SignatureRecord.ofRecord? := by
  rw [firstSignature?]
  induction answers with
  | nil => rfl
  | cons first rest ih =>
      obtain ⟨hfirst, hrest⟩ := List.forall_mem_cons.mp h
      by_cases htype : first.type = .rrsig
      · rw [List.filter_cons_of_pos (by simp [htype]), List.findSome?_cons, List.findSome?_cons,
          ih hrest]
      · have hnone := SignatureRecord.ofRecord?_eq_none (hfirst ▸ htype)
        rw [List.filter_cons_of_neg (by simp [htype]), List.findSome?_cons, hnone, ih hrest]

/-- The keys are all keys among the answers, in their order. -/
theorem KeyMaterial.keys_ofAnswers (h : ∀ r ∈ answers, r.type = r.rdata.type) :
    (ofAnswers answers).keys = answers.filterMap ZoneKey.ofRecord? := by
  dsimp only [ofAnswers, withoutSignatures]
  rw [List.filter_filter, List.filterMap_filter]
  refine List.filterMap_congr ?_
  intro r hr
  by_cases htype : r.type = .dnskey
  · rw [if_pos (by simp [htype, RecordType.dnskey, RecordType.rrsig])]
  · rw [if_neg (by simp [htype]), ZoneKey.ofRecord?_eq_none (h r hr ▸ htype)]

end DnsHealth
