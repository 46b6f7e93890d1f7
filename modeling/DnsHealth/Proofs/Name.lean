import DnsHealth.Name

/-!
# Names on the wire as codes

Every label stands behind its length and the root label ends the name, so a name on the wire says
itself where it ends. This needs no limit on the length of the name, and so it holds of names that
were put together from parts of others, too.
-/

namespace DnsHealth

namespace Name

/-- Every label keeps its limits, whatever the length of the name. -/
def LabelsValid (name : Name) : Prop :=
  ∀ label ∈ name.labels, Label.Valid label

instance (name : Name) : Decidable name.LabelsValid :=
  inferInstanceAs (Decidable (∀ label ∈ name.labels, Label.Valid label))

/-- Labels as octets, each after its length, and the root label behind them. -/
def delimited (labels : List Bytes) : Bytes :=
  labels.flatMap (fun label => UInt8.ofNat label.length :: label) ++ [0]

theorem delimited_cons (label : Bytes) (rest : List Bytes) :
    delimited (label :: rest) = UInt8.ofNat label.length :: (label ++ delimited rest) := by
  simp only [delimited, List.flatMap_cons, List.cons_append, List.append_assoc]

/-- The length octet of a label of a length that an octet can hold. -/
theorem toNat_length {label : Bytes} (h : label.length ≤ 63) :
    (UInt8.ofNat label.length).toNat = label.length :=
  UInt8.toNat_ofNat_of_lt' (Nat.lt_of_le_of_lt h (by decide))

/-- Delimited labels can be split off what follows in one way only. -/
theorem delimited_append_inj {xs ys : List Bytes} {u v : Bytes}
    (hxs : ∀ x ∈ xs, 1 ≤ x.length ∧ x.length ≤ 63) (hys : ∀ y ∈ ys, 1 ≤ y.length ∧ y.length ≤ 63)
    (h : delimited xs ++ u = delimited ys ++ v) : xs = ys ∧ u = v := by
  -- A length octet is not zero, so a label is never taken for the root label.
  have hpos : ∀ {x : Bytes}, 1 ≤ x.length ∧ x.length ≤ 63 → UInt8.ofNat x.length ≠ 0 := by
    intro x hx hzero
    have := toNat_length hx.2
    rw [hzero] at this
    exact absurd this.symm (Nat.ne_of_gt hx.1)
  induction xs generalizing ys with
  | nil =>
      cases ys with
      | nil => exact ⟨rfl, (List.cons.inj h).2⟩
      | cons y ys =>
          rw [delimited_cons] at h
          exact absurd (List.cons.inj h).1.symm (hpos (hys y List.mem_cons_self))
  | cons x xs ih =>
      have hx := hxs x List.mem_cons_self
      cases ys with
      | nil =>
          rw [delimited_cons] at h
          exact absurd (List.cons.inj h).1 (hpos hx)
      | cons y ys =>
          have hy := hys y List.mem_cons_self
          rw [delimited_cons, delimited_cons, List.cons_append, List.cons_append, List.append_assoc,
            List.append_assoc] at h
          obtain ⟨hsize, hrest⟩ := List.cons.inj h
          have hlength : x.length = y.length := by
            rw [← toNat_length hx.2, hsize, toNat_length hy.2]
          obtain ⟨rfl, htail⟩ := List.append_inj hrest hlength
          obtain ⟨rfl, hbehind⟩ := ih (fun z hz => hxs z (List.mem_cons_of_mem x hz))
            (fun z hz => hys z (List.mem_cons_of_mem x hz)) htail
          exact ⟨rfl, hbehind⟩

/-! ### The canonical form -/

/-- The labels of a name in lower case, which is what comparison looks at. -/
def foldedLabels (name : Name) : List Bytes :=
  name.labels.map fun label => Bytes.lower (utf8 label)

theorem canonical_eq_delimited (name : Name) : name.canonical = delimited name.foldedLabels := by
  simp only [canonical, delimited, foldedLabels, List.flatMap_map, Bytes.length_lower, length_utf8]

theorem eqIgnoreCase_iff {a b : Name} : a.eqIgnoreCase b = true ↔ a.foldedLabels = b.foldedLabels :=
  decide_eq_true_iff

theorem eqIgnoreCase_refl (name : Name) : name.eqIgnoreCase name = true :=
  eqIgnoreCase_iff.mpr rfl

theorem eqIgnoreCase_symm {a b : Name} (h : a.eqIgnoreCase b = true) : b.eqIgnoreCase a = true :=
  eqIgnoreCase_iff.mpr (eqIgnoreCase_iff.mp h).symm

theorem eqIgnoreCase_trans {a b c : Name} (hab : a.eqIgnoreCase b = true)
    (hbc : b.eqIgnoreCase c = true) : a.eqIgnoreCase c = true :=
  eqIgnoreCase_iff.mpr ((eqIgnoreCase_iff.mp hab).trans (eqIgnoreCase_iff.mp hbc))

theorem LabelsValid.foldedLabels {name : Name} (h : name.LabelsValid) :
    ∀ label ∈ name.foldedLabels, 1 ≤ label.length ∧ label.length ≤ 63 := by
  intro label hlabel
  obtain ⟨text, htext, rfl⟩ := List.mem_map.mp hlabel
  rw [Bytes.length_lower, length_utf8]
  exact h text htext

/-- Names that agree up to case have the same canonical form. -/
theorem canonical_congr {a b : Name} (h : a.eqIgnoreCase b = true) : a.canonical = b.canonical := by
  rw [canonical_eq_delimited, canonical_eq_delimited, eqIgnoreCase_iff.mp h]

/-- The canonical form of a name, with anything behind it, determines the name up to case and what
is behind it. -/
theorem canonical_append_inj {a b : Name} {u v : Bytes} (ha : a.LabelsValid) (hb : b.LabelsValid)
    (h : a.canonical ++ u = b.canonical ++ v) : a.eqIgnoreCase b = true ∧ u = v := by
  rw [canonical_eq_delimited, canonical_eq_delimited] at h
  obtain ⟨hlabels, hbehind⟩ := delimited_append_inj ha.foldedLabels hb.foldedLabels h
  exact ⟨eqIgnoreCase_iff.mpr hlabels, hbehind⟩

end Name

end DnsHealth
