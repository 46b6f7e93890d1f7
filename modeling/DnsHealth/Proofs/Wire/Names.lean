import DnsHealth.Proofs.Wire.Reading
import DnsHealth.Wire.CompressedName

/-!
# Reading names

The uncompressed form of a valid name is read back as that name wherever it stands, and whatever is
read as a name is valid, however many pointers the walk followed.
-/

namespace DnsHealth

namespace Name

@[simp] theorem labelsLength_cons (label : String) (rest : List String) :
    labelsLength (label :: rest) = label.utf8ByteSize + 1 + labelsLength rest := by
  simp only [labelsLength, List.map_cons, List.foldr_cons]

/-- The first label stands in front of the form of the others. -/
theorem wire_cons (label : String) (rest : List String) :
    wire ⟨label :: rest⟩ = UInt8.ofNat label.utf8ByteSize :: (utf8 label ++ wire ⟨rest⟩) := by
  simp only [wire, List.flatMap_cons, List.cons_append, List.append_assoc]

end Name

namespace Decoder

variable {message : Array UInt8} {offset stop : Nat} {n : Name}

/-- The length octet of a valid label is its length. -/
theorem toNat_labelSize {label : String} (h : Label.Valid label) :
    (UInt8.ofNat label.utf8ByteSize).toNat = label.utf8ByteSize :=
  UInt8.toNat_ofNat_of_lt' (Nat.lt_of_le_of_lt h.2 (by decide))

/-- The octets of a label are read as its text. -/
theorem fromUTF8?_extract {label : String} (h : HoldsAt message offset (utf8 label)) :
    String.fromUTF8? ⟨message.extract offset (offset + label.utf8ByteSize)⟩ = some label := by
  have hcut : message.extract offset (offset + label.utf8ByteSize) = label.toByteArray.data := by
    apply Array.toList_inj.mp
    exact h.toList_extract
  rw [hcut]
  exact dif_pos label.isValidUTF8

/-- The walk over the uncompressed form of labels gives the labels back, whatever the limit for
pointers, as long as they fit in what is left of the longest name. -/
theorem labels_wire {found : List String} (limit : Nat) {length : Nat}
    (hvalid : ∀ label ∈ found, Label.Valid label)
    (hlength : length + Name.labelsLength found ≤ Name.maxLength)
    (h : HoldsAt message offset (Name.wire ⟨found⟩)) :
    labels message offset limit length = .ok (found, offset + (Name.wire ⟨found⟩).length) := by
  induction found generalizing offset length with
  | nil =>
      rw [labels]
      split
      case _ hnone => simp [h.head] at hnone
      case _ first hfirst =>
          obtain rfl : (0 : UInt8) = first := by simpa [h.head] using hfirst
          rfl
  | cons label rest ih =>
      have hlabel := hvalid label List.mem_cons_self
      have hrest : ∀ other ∈ rest, Label.Valid other :=
        fun other hother => hvalid other (List.mem_cons_of_mem label hother)
      rw [Name.wire_cons] at h ⊢
      rw [Name.labelsLength_cons] at hlength
      have htext := h.tail.append_left
      have hbehind := h.tail.append_right
      have hend := htext.end_le
      rw [length_utf8] at hbehind hend
      rw [labels]
      split
      case _ hnone => simp [h.head] at hnone
      case _ first hfirst =>
          obtain rfl : UInt8.ofNat label.utf8ByteSize = first := by simpa [h.head] using hfirst
          -- The octet of a valid label is between 1 and 63: neither the root nor a pointer.
          have := hlabel.1
          have := hlabel.2
          dsimp only
          simp only [toNat_labelSize hlabel]
          rw [if_neg (by omega), if_pos (by omega), dif_pos hend, if_pos (by omega)]
          simp only [fromUTF8?_extract htext]
          rw [ih hrest (by omega) hbehind]
          simp only [List.length_cons, List.length_append, length_utf8]
          congr 2
          omega

/-- A valid name is read back from its uncompressed form. -/
theorem Reads.name (h : n.Valid) : Reads name message offset n.wire n := by
  intro hholds
  have hlength : 1 + Name.labelsLength n.labels ≤ Name.maxLength := by
    rw [Nat.add_comm]
    exact h.2
  rw [Decoder.name, labels_wire offset h.1 hlength hholds]
  dsimp only
  rw [Name.ofLabels_eq_ok_iff.mpr ⟨rfl, h⟩]

/-! ### Where a walk ends -/

section Walks

variable {limit length : Nat} {found : List String}

/-- A label has as many octets as it was read from. -/
theorem utf8ByteSize_of_fromUTF8? {label : String} {size : Nat}
    (hend : offset + size ≤ message.size)
    (h : String.fromUTF8? ⟨message.extract offset (offset + size)⟩ = some label) :
    label.utf8ByteSize = size := by
  rw [String.fromUTF8?] at h
  split at h
  case _ hutf8 =>
      obtain rfl := Option.some.inj h
      have hsize : (message.extract offset (offset + size)).size = size := by
        rw [Array.size_extract]
        omega
      exact hsize
  case _ => simp at h

/-- The labels that a walk finds keep the limits, together with what was counted before them. -/
theorem labels_valid (hlength : length ≤ Name.maxLength)
    (h : labels message offset limit length = .ok (found, stop)) :
    (∀ label ∈ found, Label.Valid label) ∧ length + Name.labelsLength found ≤ Name.maxLength := by
  fun_induction labels message offset limit length generalizing found stop
  case case2 =>
      -- The root label: nothing is found any more.
      obtain ⟨rfl, -⟩ := Prod.mk.inj (Except.ok.inj h)
      exact ⟨by simp, hlength⟩
  case case4 hne hlt hend hfit label hlabel rest next hwalk ih =>
      obtain ⟨rfl, -⟩ := Prod.mk.inj (Except.ok.inj h)
      obtain ⟨hvalid, hrest⟩ := ih hfit hwalk
      have hsize := utf8ByteSize_of_fromUTF8? hend hlabel
      refine ⟨List.forall_mem_cons.mpr ⟨⟨by omega, by omega⟩, hvalid⟩, ?_⟩
      rw [Name.labelsLength_cons]
      omega
  case case10 hwalk ih =>
      obtain ⟨rfl, -⟩ := Prod.mk.inj (Except.ok.inj h)
      exact ih hlength hwalk
  case case1 | case3 | case5 | case6 | case7 | case8 | case9 | case11 | case12 => simp at h

/-- Reading resumes behind the offset where the walk began, however far back it was led, and still
inside the message. -/
theorem labels_stop (h : labels message offset limit length = .ok (found, stop)) :
    offset < stop ∧ stop ≤ message.size := by
  fun_induction labels message offset limit length generalizing found stop
  case case2 hfirst _ _ =>
      obtain ⟨-, rfl⟩ := Prod.mk.inj (Except.ok.inj h)
      obtain ⟨hlt, -⟩ := Array.getElem?_eq_some_iff.mp hfirst
      omega
  case case4 hwalk ih =>
      obtain ⟨-, rfl⟩ := Prod.mk.inj (Except.ok.inj h)
      have := ih hwalk
      omega
  case case10 hlow target htarget rest next hwalk ih =>
      -- A pointer decides where the walk goes on, and its own two octets where reading does.
      obtain ⟨-, rfl⟩ := Prod.mk.inj (Except.ok.inj h)
      obtain ⟨hlt, -⟩ := Array.getElem?_eq_some_iff.mp hlow
      omega
  case case1 | case3 | case5 | case6 | case7 | case8 | case9 | case11 | case12 => simp at h

/-- The labels of a walk always make a name: the check that follows the walk finds nothing new. -/
theorem name_of_labels (h : labels message offset offset 1 = .ok (found, stop)) :
    name message offset = (.ok ⟨found⟩, stop) := by
  obtain ⟨hvalid, hlength⟩ := labels_valid (by decide) h
  have hname : (⟨found⟩ : Name).Valid :=
    ⟨hvalid, by rw [Name.wireLength, Nat.add_comm]; exact hlength⟩
  rw [name, h]
  dsimp only
  rw [Name.ofLabels_eq_ok_iff.mpr ⟨rfl, hname⟩]

/-- A read of a name fails only in its walk, and leaves the cursor there. -/
theorem name_of_labels_error {e : FormatError} (h : labels message offset offset 1 = .error e) :
    name message offset = (.error e, offset) := by
  rw [name, h]

end Walks

/-- Whatever is read as a name keeps the limits. -/
theorem Yields.name : Yields name Name.Valid := by
  intro message offset n stop h
  rw [Decoder.name] at h
  split at h
  case _ found next hwalk =>
      obtain ⟨hname, -⟩ := Prod.mk.inj h
      obtain ⟨rfl, hvalid⟩ := Name.ofLabels_eq_ok_iff.mp hname
      exact hvalid
  case _ => simp at h

end Decoder

end DnsHealth
