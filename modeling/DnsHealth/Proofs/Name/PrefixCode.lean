import DnsHealth.Proofs.Name.Case
import Mathlib.Data.List.Forall2

/-!
# Names as a prefix code

Names are compared label by label, while the canonical form runs the labels together. The two agree:
every label stands behind its length, so names are the same up to case exactly when their canonical
forms are the same, even when anything follows (`Name.canonical_append_eq_iff`). No form is the
start of another one, and it is the same for the plain form and equality of names.

The limit for names plays no part, so that wildcards are covered, which may be longer.
-/

namespace DnsHealth

namespace Name

variable {a b : Name} {u v : Bytes}

/-! ### Label by label -/

/-- Comparison goes through the labels side by side, once there are as many of either. -/
theorem eqIgnoreCase_iff_labelwise : a.eqIgnoreCase b = true ↔
    a.labels.length = b.labels.length ∧
      ∀ pair ∈ a.labels.zip b.labels, Bytes.lower (utf8 pair.1) = Bytes.lower (utf8 pair.2) := by
  rw [eqIgnoreCase_iff, foldedLabels, foldedLabels, ← List.forall₂_eq_eq_eq,
    List.forall₂_map_left_iff, List.forall₂_map_right_iff, List.forall₂_iff_zip]
  exact and_congr_right fun _ => ⟨fun h _ hpair => h hpair, fun h _ _ hpair => h _ hpair⟩

theorem equivalence_eqIgnoreCase : Equivalence fun a b : Name => a.eqIgnoreCase b = true :=
  ⟨eqIgnoreCase_refl, eqIgnoreCase_symm, eqIgnoreCase_trans⟩

/-! ### What stands behind a name -/

theorem wire_eq_delimited (name : Name) : name.wire = delimited (name.labels.map utf8) := by
  simp only [wire, delimited, List.flatMap_map, length_utf8]

theorem LabelsValid.utf8Labels {name : Name} (h : name.LabelsValid) :
    ∀ label ∈ name.labels.map utf8, 1 ≤ label.length ∧ label.length ≤ 63 := by
  intro label hlabel
  obtain ⟨text, htext, rfl⟩ := List.mem_map.mp hlabel
  exact h text htext

/-- The plain form of a name, with anything behind it, determines the name and what is behind it. -/
theorem wire_append_eq_iff (ha : a.LabelsValid) (hb : b.LabelsValid) :
    a.wire ++ u = b.wire ++ v ↔ a = b ∧ u = v := by
  constructor
  · intro h
    rw [wire_eq_delimited, wire_eq_delimited] at h
    obtain ⟨hlabels, hbehind⟩ := delimited_append_inj ha.utf8Labels hb.utf8Labels h
    have hlabels : a.labels = b.labels :=
      List.map_injective_iff.mpr (fun _ _ => utf8_inj.mp) hlabels
    cases a
    cases b
    exact ⟨congrArg Name.mk hlabels, hbehind⟩
  · rintro ⟨rfl, rfl⟩
    rfl

theorem canonical_append_eq_iff (ha : a.LabelsValid) (hb : b.LabelsValid) :
    a.canonical ++ u = b.canonical ++ v ↔ a.eqIgnoreCase b = true ∧ u = v := by
  refine ⟨canonical_append_inj ha hb, ?_⟩
  rintro ⟨hname, rfl⟩
  rw [canonical_congr hname]

/-! ### One form in front of another -/

/-- What determines itself in front of anything is not a strict prefix. -/
theorem isPrefix_iff_of_append {x y : Bytes} {same : Prop}
    (h : ∀ u v, x ++ u = y ++ v ↔ same ∧ u = v) : x <+: y ↔ same := by
  constructor
  · rintro ⟨rest, hrest⟩
    exact ((h rest []).mp (hrest.trans (List.append_nil y).symm)).1
  · intro hsame
    have heq := (h [] []).mpr ⟨hsame, rfl⟩
    rw [List.append_nil, List.append_nil] at heq
    exact heq ▸ List.prefix_rfl

/-- **Equality up to case, the canonical form and self-delimitation agree.** Names of labels that
keep the limits are the same up to case, which is asked label by label, exactly when they have the
same canonical form; this is an equivalence. The canonical form of a name is the start of that of
another only when the names are the same up to case, and the plain form only when they are the same.
With anything behind them, names can be split off in one way. -/
theorem eqIgnoreCase_iff_canonical (ha : a.LabelsValid) (hb : b.LabelsValid) :
    (a.eqIgnoreCase b = true ↔ a.canonical = b.canonical) ∧
      (a.eqIgnoreCase b = true ↔ a.labels.length = b.labels.length ∧
        ∀ pair ∈ a.labels.zip b.labels, Bytes.lower (utf8 pair.1) = Bytes.lower (utf8 pair.2)) ∧
      Equivalence (fun a b : Name => a.eqIgnoreCase b = true) ∧
      (a.canonical <+: b.canonical ↔ a.canonical = b.canonical) ∧
      (a.wire <+: b.wire ↔ a.wire = b.wire) ∧
      (∀ u v, a.canonical ++ u = b.canonical ++ v ↔ a.eqIgnoreCase b = true ∧ u = v) ∧
      ∀ u v, a.wire ++ u = b.wire ++ v ↔ a = b ∧ u = v := by
  have hcanonical : a.eqIgnoreCase b = true ↔ a.canonical = b.canonical := by
    simpa using (canonical_append_eq_iff ha hb (u := []) (v := [])).symm
  have hwire : a = b ↔ a.wire = b.wire := by
    simpa using (wire_append_eq_iff ha hb (u := []) (v := [])).symm
  refine ⟨hcanonical, eqIgnoreCase_iff_labelwise, equivalence_eqIgnoreCase, ?_, ?_,
    fun _ _ => canonical_append_eq_iff ha hb, fun _ _ => wire_append_eq_iff ha hb⟩
  · rw [isPrefix_iff_of_append fun _ _ => canonical_append_eq_iff ha hb, hcanonical]
  · rw [isPrefix_iff_of_append fun _ _ => wire_append_eq_iff ha hb, hwire]

/-- Two wildcards of 257 octets that differ in the case of a letter. -/
theorem eqIgnoreCase_iff_canonical_longWildcards :
    ∃ a b : Name, a.LabelsValid ∧ b.LabelsValid ∧ a.wireLength = 257 ∧ a ≠ b ∧
      a.canonical = b.canonical ∧ ¬ a.wire <+: b.wire := by
  let full := String.ofList (List.replicate 63 'a')
  let small := wildcardSuffix ⟨[full, full, full, "é" ++ String.ofList (List.replicate 59 'b')]⟩ 4
  let large := wildcardSuffix ⟨[full, full, full, "é" ++ String.ofList (List.replicate 59 'B')]⟩ 4
  have hsmall : small.LabelsValid := by decide +kernel
  have hlarge : large.LabelsValid := by decide +kernel
  have hne : small.wire ≠ large.wire := by decide +kernel
  obtain ⟨hcanonical, -, -, -, hstart, -⟩ := eqIgnoreCase_iff_canonical hsmall hlarge
  refine ⟨small, large, hsmall, hlarge, by decide +kernel, fun h => hne (congrArg wire h),
    hcanonical.mp (by decide +kernel), ?_⟩
  rw [hstart]
  exact hne

end Name

end DnsHealth
