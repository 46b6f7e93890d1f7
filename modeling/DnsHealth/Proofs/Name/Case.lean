import DnsHealth.Proofs.Name
import DnsHealth.Proofs.Text.Digits
import Mathlib.Data.List.Basic

/-!
# Letter case and wildcards

Comparison of names looks at their octets, with the capital letters of ASCII made small. On the
texts this is the same as making their letters small, since the octets of all other characters are
no letters (`lower_utf8`). So names agree up to case exactly when their labels do, written in small
letters (`Name.eqIgnoreCase_iff_toLower`).

What is counted and cut off for a wildcard is the same for names that agree up to case: only an
asterisk is an asterisk in small letters.
-/

namespace DnsHealth

/-! ### Octets of letters -/

namespace Bytes

theorem lowerOctet_of_letter {n : Nat} (hlow : 65 ≤ n) (hhigh : n ≤ 90) :
    lowerOctet (UInt8.ofNat n) = UInt8.ofNat (n + 32) := by
  have hval : (UInt8.ofNat n).toNat = n :=
    UInt8.toNat_ofNat_of_lt' (Nat.lt_of_le_of_lt hhigh (by decide))
  have hletter : 65 ≤ UInt8.ofNat n ∧ UInt8.ofNat n ≤ 90 :=
    ⟨show 65 ≤ (UInt8.ofNat n).toNat by omega, show (UInt8.ofNat n).toNat ≤ 90 by omega⟩
  rw [lowerOctet, if_pos hletter]
  exact (UInt8.ofNat_add n 32).symm

theorem lowerOctet_of_not_letter {n : Nat} (hn : n < 256) (h : n < 65 ∨ 90 < n) :
    lowerOctet (UInt8.ofNat n) = UInt8.ofNat n := by
  have hval : (UInt8.ofNat n).toNat = n := UInt8.toNat_ofNat_of_lt' hn
  refine if_neg ?_
  rintro ⟨hlow, hhigh⟩
  have hlow : 65 ≤ (UInt8.ofNat n).toNat := hlow
  have hhigh : (UInt8.ofNat n).toNat ≤ 90 := hhigh
  omega

/-- A capital letter is one octet and becomes the octet of the small letter. Any other character
keeps its octets. -/
theorem lower_utf8EncodeChar (c : Char) :
    lower (String.utf8EncodeChar c) = String.utf8EncodeChar c.toLower := by
  by_cases hletter : 'A'.val ≤ c.val ∧ c.val ≤ 'Z'.val
  · have hlow : 65 ≤ c.val.toNat := hletter.1
    have hhigh : c.val.toNat ≤ 90 := hletter.2
    have hval : c.toLower.val.toNat = c.val.toNat + 32 :=
      (Text.toNat_toLower c).trans (if_pos ⟨hlow, hhigh⟩)
    rw [String.utf8EncodeChar, if_pos (by omega), String.utf8EncodeChar, if_pos (by omega), hval]
    exact congrArg (fun b => [b]) (lowerOctet_of_letter hlow hhigh)
  · have hother : c.val.toNat < 65 ∨ 90 < c.val.toNat := by
      rw [← Nat.not_le, ← Nat.not_le, ← not_and_or]
      exact hletter
    rw [show c.toLower = c from dif_neg hletter]
    fun_cases String.utf8EncodeChar c
    case case1 v hone =>
        have : c.val.toNat ≤ 127 := hone
        exact congrArg (fun b => [b]) (lowerOctet_of_not_letter (by omega) hother)
    case case2 | case3 | case4 =>
        -- The octets of a longer character are 128 or more.
        simp only [lower, List.map_cons, List.map_nil]
        repeat rw [lowerOctet_of_not_letter (by omega) (by omega)]

end Bytes

/-! ### Texts and labels -/

theorem utf8_eq_flatMap (text : String) :
    utf8 text = text.toList.flatMap String.utf8EncodeChar := by
  rw [utf8, ← String.utf8Encode_toList, List.utf8Encode, List.data_toByteArray]

theorem utf8_inj {s t : String} : utf8 s = utf8 t ↔ s = t := by
  constructor
  · intro h
    exact String.toByteArray_inj.mp (ByteArray.ext (Array.toList_inj.mp h))
  · rintro rfl
    rfl

/-- Making the letters small and taking the octets can be done in either order. -/
theorem lower_utf8 (text : String) : Bytes.lower (utf8 text) = utf8 text.toLower := by
  have hchars : text.toLower.toList = text.toList.map Char.toLower := String.toList_map
  rw [utf8_eq_flatMap, utf8_eq_flatMap, hchars, List.flatMap_map, Bytes.lower, List.map_flatMap]
  exact List.flatMap_congr fun c _ => Bytes.lower_utf8EncodeChar c

/-- Only the wildcard label is in lower case what the wildcard label is. -/
theorem lower_utf8_eq_asterisk_iff {label : String} :
    Bytes.lower (utf8 label) = [42] ↔ label = "*" := by
  constructor
  · intro h
    obtain ⟨b, rest, hutf8, hb, hrest⟩ := List.map_eq_cons_iff.mp h
    obtain rfl := List.map_eq_nil_iff.mp hrest
    -- No capital letter becomes an asterisk.
    obtain rfl : b = 42 := by grind [Bytes.lowerOctet]
    exact utf8_inj.mp hutf8
  · rintro rfl
    rfl

namespace Name

variable {a b : Name}

/-- Names agree up to case when their labels do, written in small letters. -/
theorem eqIgnoreCase_iff_toLower :
    a.eqIgnoreCase b = true ↔ a.labels.map String.toLower = b.labels.map String.toLower := by
  have hfolded : ∀ n : Name, n.foldedLabels = (n.labels.map String.toLower).map utf8 := by
    intro n
    rw [foldedLabels, List.map_map]
    exact List.map_congr_left fun label _ => lower_utf8 label
  rw [eqIgnoreCase_iff, hfolded, hfolded]
  exact (List.map_injective_iff.mpr fun _ _ => utf8_inj.mp).eq_iff

/-! ### Wildcards -/

theorem length_foldedLabels (name : Name) : name.foldedLabels.length = name.labels.length :=
  List.length_map _

theorem head?_eq_asterisk_iff {name : Name} :
    name.labels.head? = some "*" ↔ name.foldedLabels.head? = some [42] := by
  rw [foldedLabels, List.head?_map, Option.map_eq_some_iff]
  simp only [lower_utf8_eq_asterisk_iff, exists_eq_right]

/-- Names that agree up to case count the same labels. -/
theorem labelCount_congr (h : a.eqIgnoreCase b = true) : a.labelCount = b.labelCount := by
  have hfolded := eqIgnoreCase_iff.mp h
  have hlength : a.labels.length = b.labels.length := by
    rw [← length_foldedLabels, hfolded, length_foldedLabels]
  simp only [labelCount, head?_eq_asterisk_iff, hfolded, hlength]

/-- Names that agree up to case are cut to wildcards that agree up to case. -/
theorem wildcardSuffix_congr (h : a.eqIgnoreCase b = true) (count : Nat) :
    (a.wildcardSuffix count).eqIgnoreCase (b.wildcardSuffix count) = true := by
  have hfolded := eqIgnoreCase_iff.mp h
  rw [eqIgnoreCase_iff, wildcardSuffix, wildcardSuffix, ← length_foldedLabels a,
    ← length_foldedLabels b]
  simp only [foldedLabels, List.map_cons, List.map_drop] at hfolded ⊢
  rw [hfolded]

/-- Where a name counts more labels than asked for, its wildcard is what is left of it when one
label or more are cut off in front, behind an asterisk. -/
theorem exists_wildcardSuffix_of_lt {name : Name} {count : Nat} (h : count < name.labelCount) :
    ∃ dropped kept, name.labels = dropped ++ kept ∧ dropped ≠ [] ∧ kept.length = count ∧
      name.wildcardSuffix count = ⟨"*" :: kept⟩ := by
  have hcount : name.labelCount ≤ name.labels.length := by
    rw [labelCount]
    split
    case _ => exact Nat.sub_le _ _
    case _ => exact Nat.le_refl _
  refine ⟨name.labels.take (name.labels.length - count),
    name.labels.drop (name.labels.length - count), (List.take_append_drop _ _).symm, ?_, ?_, rfl⟩
  · refine List.ne_nil_of_length_pos ?_
    rw [List.length_take]
    omega
  · rw [List.length_drop]
    omega

end Name

end DnsHealth
