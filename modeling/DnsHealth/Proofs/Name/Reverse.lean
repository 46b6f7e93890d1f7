import DnsHealth.Name
import DnsHealth.Proofs.Wire.Names

/-!
# Reverse names

A reverse name is put together without a check. It needs none: a decimal octet has at most three
digits, a nibble one, and there are few enough of both (`Name.valid_reversePointer`).
-/

namespace DnsHealth.Name

variable {labels : List String}

/-! ### Lengths -/

theorem labelsLength_append (front back : List String) :
    labelsLength (front ++ back) = labelsLength front + labelsLength back := by
  induction front with
  | nil => exact (Nat.zero_add _).symm
  | cons label rest ih =>
      rw [List.cons_append, labelsLength_cons, labelsLength_cons, ih, ← Nat.add_assoc]

/-- Short labels make a short name. -/
theorem labelsLength_le {bound : Nat} (h : ∀ label ∈ labels, label.utf8ByteSize ≤ bound) :
    labelsLength labels ≤ labels.length * (bound + 1) := by
  induction labels with
  | nil => exact Nat.zero_le _
  | cons label rest ih =>
      obtain ⟨hlabel, hrest⟩ := List.forall_mem_cons.mp h
      have := ih hrest
      rw [labelsLength_cons, List.length_cons, Nat.succ_mul]
      omega

/-- Few enough short labels may stand in front of a valid name. -/
theorem Valid.append {bound : Nat} {behind : List String} (hbehind : (⟨behind⟩ : Name).Valid)
    (h : ∀ label ∈ labels, 1 ≤ label.utf8ByteSize ∧ label.utf8ByteSize ≤ bound)
    (hbound : bound ≤ 63)
    (hfit : labels.length * (bound + 1) + (⟨behind⟩ : Name).wireLength ≤ maxLength) :
    (⟨labels ++ behind⟩ : Name).Valid := by
  have hlength := labelsLength_le fun label hlabel => (h label hlabel).2
  refine ⟨fun label hlabel => ?_, ?_⟩
  · rcases List.mem_append.mp hlabel with hlabel | hlabel
    · exact ⟨(h label hlabel).1, Nat.le_trans (h label hlabel).2 hbound⟩
    · exact hbehind.1 label hlabel
  · rw [wireLength, labelsLength_append, Nat.add_assoc]
    exact Nat.le_trans (Nat.add_le_add_right hlength _) hfit

/-! ### The labels of an address -/

/-- A decimal octet has one to three digits. -/
theorem utf8ByteSize_of_mem_reverseOctets {address : Ipv4} {label : String}
    (h : label ∈ reverseOctets address) : 1 ≤ label.utf8ByteSize ∧ label.utf8ByteSize ≤ 3 := by
  obtain ⟨octet, -, rfl⟩ := List.mem_map.mp h
  have hdigits : ∀ n < 256, 1 ≤ (toString n).utf8ByteSize ∧
      (toString n).utf8ByteSize ≤ 3 := by decide +kernel
  exact hdigits octet.toNat octet.toNat_lt

/-- A nibble is one digit. -/
theorem utf8ByteSize_of_mem_reverseNibbles {address : Ipv6} {label : String}
    (h : label ∈ reverseNibbles address) : label.utf8ByteSize = 1 := by
  have hdigit : ∀ n < 16, (String.singleton (Bytes.hexDigit n)).utf8ByteSize = 1 := by decide
  obtain ⟨octet, -, hlabel⟩ := List.mem_flatMap.mp h
  have := octet.toNat_lt
  rcases List.mem_cons.mp hlabel with rfl | hlabel
  · exact hdigit _ (by omega)
  · obtain rfl := List.mem_singleton.mp hlabel
    exact hdigit _ (by omega)

theorem length_reverseOctets (address : Ipv4) : (reverseOctets address).length = 4 := by
  rw [reverseOctets, List.length_map, List.length_reverse, Vector.length_toList]

theorem length_reverseNibbles (address : Ipv6) : (reverseNibbles address).length = 32 := by
  simp only [reverseNibbles, List.length_flatMap, List.length_cons, List.length_nil,
    List.map_const', List.sum_replicate_nat, List.length_reverse, Vector.length_toList]

/-- The reverse name of every address keeps the limits. -/
theorem valid_reversePointer (address : Address) : (reversePointer address).Valid := by
  cases address with
  | v4 octets =>
      refine Valid.append (by decide) (fun label => utf8ByteSize_of_mem_reverseOctets)
        (by decide) ?_
      rw [length_reverseOctets]
      decide
  | v6 octets =>
      have hlabels : ∀ label ∈ reverseNibbles octets, 1 ≤ label.utf8ByteSize ∧
          label.utf8ByteSize ≤ 1 :=
        fun label hlabel => by simp [utf8ByteSize_of_mem_reverseNibbles hlabel]
      refine Valid.append (by decide) hlabels (by decide) ?_
      rw [length_reverseNibbles]
      decide

end DnsHealth.Name
