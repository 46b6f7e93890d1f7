import DnsHealth.Proofs.Wire.Tail

/-!
# The grammar of compressed names

`LabelsAt message offset limit found stop` derives the labels `found` from the octets at `offset`,
by one rule for the root label, one for a label and one for a pointer. The rules say nothing about
how the octets are walked over; they do say that a pointer leads before the limit, and where reading
resumes.

The walk finds exactly the labels that can be derived and are short enough
(`Decoder.labels_eq_ok_iff`), and so a name is read exactly where the grammar has one
(`Decoder.name_eq_ok_iff_labelsAt`).
-/

namespace DnsHealth

/-! ### Octets at an offset -/

namespace HoldsAt

variable {message : Array UInt8} {offset : Nat} {bytes : Bytes} {b : UInt8}

/-- What stands at an offset is what the rest of the message begins with. -/
theorem of_drop (hoffset : offset ≤ message.size) (h : bytes <+: message.toList.drop offset) :
    HoldsAt message offset bytes := by
  obtain ⟨after, hafter⟩ := h
  refine ⟨message.toList.take offset, after, ?_, ?_⟩
  · rw [List.append_assoc, hafter, List.take_append_drop]
  · rw [List.length_take, Array.length_toList, Nat.min_eq_left hoffset]

theorem isPrefix (h : HoldsAt message offset bytes) : bytes <+: message.toList.drop offset := by
  obtain ⟨before, after, hlist, rfl⟩ := h
  exact ⟨after, by rw [hlist, List.append_assoc, List.drop_left]⟩

/-- Octets that were cut out of a message stand in it. -/
theorem extract {stop : Nat} (hstart : offset ≤ stop) (hstop : stop ≤ message.size) :
    HoldsAt message offset (message.extract offset stop).toList := by
  refine of_drop (Nat.le_trans hstart hstop) ?_
  rw [Array.toList_extract, List.extract_eq_take_drop]
  exact List.take_prefix _ _

/-- An octet, and the octets behind it. -/
theorem cons (hb : message[offset]? = some b) (h : HoldsAt message (offset + 1) bytes) :
    HoldsAt message offset (b :: bytes) := by
  obtain ⟨hlt, rfl⟩ := Array.getElem?_eq_some_iff.mp hb
  refine of_drop (Nat.le_of_lt hlt) ?_
  rw [List.drop_eq_getElem_cons (by rwa [Array.length_toList]), Array.getElem_toList]
  exact List.cons_prefix_cons.mpr ⟨rfl, h.isPrefix⟩

theorem singleton (hb : message[offset]? = some b) : HoldsAt message offset [b] := by
  obtain ⟨hlt, -⟩ := Array.getElem?_eq_some_iff.mp hb
  exact cons hb (of_drop hlt List.nil_prefix)

end HoldsAt

/-! ### The grammar -/

namespace Name

/-- Labels on the wire, each behind its length octet, with nothing behind them. -/
def labelsWire (labels : List String) : Bytes :=
  labels.flatMap fun label => UInt8.ofNat label.utf8ByteSize :: utf8 label

theorem labelsWire_cons (label : String) (rest : List String) :
    labelsWire (label :: rest) =
    (UInt8.ofNat label.utf8ByteSize :: utf8 label) ++ labelsWire rest :=
  List.flatMap_cons

/-- A pointer on the wire: two set bits, then the fourteen bits of the offset that it leads to. -/
def pointerWire (target : Nat) : Bytes :=
  [UInt8.ofNat (192 + target / 256), UInt8.ofNat target]

/-- Pointers lead to offsets below this one. -/
def pointerBound : Nat := 16384

end Name

/-- The labels `found` stand in the message at `offset`, where pointers may lead before `limit`
only, and reading resumes at `stop`. -/
inductive LabelsAt (message : Array UInt8) :
    (offset limit : Nat) → (found : List String) → (stop : Nat) → Prop
  /-- The root label ends a name. -/
  | root {offset limit : Nat} (hroot : HoldsAt message offset [0]) :
      LabelsAt message offset limit [] (offset + 1)
  /-- A label is 1 to 63 octets of text behind their number. The others follow. -/
  | label {offset limit stop : Nat} {label : String} {rest : List String}
      (hvalid : Label.Valid label)
      (hlabel : HoldsAt message offset (UInt8.ofNat label.utf8ByteSize :: utf8 label))
      (hrest : LabelsAt message (offset + 1 + label.utf8ByteSize) limit rest stop) :
      LabelsAt message offset limit (label :: rest) stop
  /-- A pointer is followed by the labels where it leads to. Reading resumes behind the pointer,
  wherever these end, and the offset that it leads to is the limit for the next pointer. -/
  | pointer {offset limit target next : Nat} {found : List String}
      (hbound : target < Name.pointerBound)
      (hpointer : HoldsAt message offset (Name.pointerWire target)) (htarget : target < limit)
      (hrest : LabelsAt message target target found next) :
      LabelsAt message offset limit found (offset + 2)

namespace Decoder

variable {message : Array UInt8} {offset limit length stop : Nat} {found : List String}

/-! ### The walk and the grammar -/

/-- Octets that are read as the text of a label are its octets. -/
theorem holdsAt_of_fromUTF8? {label : String} {size : Nat} (hend : offset + size ≤ message.size)
    (h : String.fromUTF8? ⟨message.extract offset (offset + size)⟩ = some label) :
    HoldsAt message offset (utf8 label) := by
  have hutf8 : utf8 label = (message.extract offset (offset + size)).toList := by
    rw [String.fromUTF8?] at h
    split at h
    case _ =>
        obtain rfl := Option.some.inj h
        rfl
    case _ => cases h
  rw [hutf8]
  exact .extract (Nat.le_add_right offset size) hend

/-- The two octets of a pointer are those of the offset that they lead to. -/
theorem pointerWire_of_octets {first low : UInt8} (hpointer : 192 ≤ first.toNat) :
    Name.pointerWire ((first.toNat - 192) * 256 + low.toNat) = [first, low] := by
  have := first.toNat_lt
  have := low.toNat_lt
  rw [Name.pointerWire]
  congr 2 <;> apply UInt8.toNat_inj.mp <;> rw [UInt8.toNat_ofNat'] <;> omega

/-- A pointer has fourteen bits. -/
theorem pointerTarget_lt (first low : UInt8) :
    (first.toNat - 192) * 256 + low.toNat < Name.pointerBound := by
  have := first.toNat_lt
  have := low.toNat_lt
  rw [Name.pointerBound]
  omega

theorem octets_of_pointerWire {target : Nat} (hbound : target < Name.pointerBound) :
    192 ≤ (UInt8.ofNat (192 + target / 256)).toNat ∧
      ((UInt8.ofNat (192 + target / 256)).toNat - 192) * 256 + (UInt8.ofNat target).toNat =
      target := by
  rw [Name.pointerBound] at hbound
  rw [UInt8.toNat_ofNat', UInt8.toNat_ofNat']
  omega

/-- What the walk finds can be derived, step by step. -/
theorem labelsAt_of_labels (h : labels message offset limit length = .ok (found, stop)) :
    LabelsAt message offset limit found stop := by
  fun_induction labels message offset limit length generalizing found stop
  case case2 first hfirst _ hzero =>
      obtain ⟨rfl, rfl⟩ := Prod.mk.inj (Except.ok.inj h)
      obtain rfl : first = 0 := UInt8.toNat_inj.mp hzero
      exact .root (.singleton hfirst)
  case case4 offset limit length first hfirst size hne hlt hend hfit label hlabel rest next
    hwalk ih =>
      obtain ⟨rfl, rfl⟩ := Prod.mk.inj (Except.ok.inj h)
      -- The octet in front of the label is its length, as many octets were cut out.
      have hsize : label.utf8ByteSize = first.toNat := utf8ByteSize_of_fromUTF8? hend hlabel
      refine .label ⟨by omega, by omega⟩ (.cons ?_ (holdsAt_of_fromUTF8? hend hlabel)) ?_
      · rw [hsize, UInt8.ofNat_toNat]
        exact hfirst
      · rw [hsize]
        exact ih hwalk
  case case10 first hfirst size hne hlt hpointer low hlow target htarget rest next hwalk ih =>
      obtain ⟨rfl, rfl⟩ := Prod.mk.inj (Except.ok.inj h)
      refine .pointer (pointerTarget_lt first low) ?_ htarget (ih hwalk)
      rw [pointerWire_of_octets (by omega)]
      exact .cons hfirst (.singleton hlow)
  case case1 | case3 | case5 | case6 | case7 | case8 | case9 | case11 | case12 => simp at h

/-- Labels that can be derived are found, as long as they fit in what is left of the longest
name. -/
theorem labels_of_labelsAt (h : LabelsAt message offset limit found stop)
    (hlength : length + Name.labelsLength found ≤ Name.maxLength) :
    labels message offset limit length = .ok (found, stop) := by
  induction h generalizing length with
  | root hroot => exact labels_of_root hroot.head rfl
  | label hvalid hlabel hrest ih =>
      rw [Name.labelsLength_cons] at hlength
      have hend := hlabel.tail.end_le
      have hsize := toNat_labelSize hvalid
      have := hvalid.1
      have := hvalid.2
      rw [length_utf8] at hend
      apply labels_of_label hlabel.head <;> rw [hsize]
      · omega
      · omega
      · exact hend
      · omega
      · exact fromUTF8?_extract hlabel.tail
      · exact ih (by omega)
  | pointer hbound hpointer htarget hrest ih =>
      obtain ⟨hfirst, hleads⟩ := octets_of_pointerWire hbound
      have hwalk := ih hlength
      rw [← hleads] at htarget hwalk
      exact labels_of_pointer hpointer.head hfirst hpointer.tail.head htarget hwalk

/-- The walk finds exactly the labels that can be derived and that fit in what is left of the
longest name. -/
theorem labels_eq_ok_iff (hlength : length ≤ Name.maxLength) :
    labels message offset limit length = .ok (found, stop) ↔
      LabelsAt message offset limit found stop ∧
      length + Name.labelsLength found ≤ Name.maxLength :=
  ⟨fun h => ⟨labelsAt_of_labels h, (labels_valid hlength h).2⟩, fun h => labels_of_labelsAt h.1 h.2⟩

/-! ### Names -/

section Names

variable {n : Name}

/-- A name is read exactly where its labels can be derived and it is not too long. -/
theorem name_eq_ok_iff : name message offset = (.ok n, stop) ↔
    LabelsAt message offset offset n.labels stop ∧ n.wireLength ≤ Name.maxLength := by
  rw [Name.wireLength, Nat.add_comm, ← labels_eq_ok_iff (by decide)]
  constructor
  · intro h
    rcases hwalk : labels message offset offset 1 with e | ⟨found, next⟩
    · rw [name_of_labels_error hwalk] at h
      cases (Prod.mk.inj h).1
    · rw [name_of_labels hwalk] at h
      obtain ⟨hname, rfl⟩ := Prod.mk.inj h
      obtain rfl := Except.ok.inj hname
      rfl
  · exact name_of_labels

/-- Where no name is read, there is an error, and the cursor stays. -/
theorem exists_name_eq_error (h : ∀ n stop, name message offset ≠ (.ok n, stop)) :
    ∃ e, name message offset = (.error e, offset) := by
  rcases hwalk : labels message offset offset 1 with e | ⟨found, next⟩
  · exact ⟨e, name_of_labels_error hwalk⟩
  · exact absurd (name_of_labels hwalk) (h ⟨found⟩ next)

end Names

end Decoder

/-- Labels in front of a pointer are followed by the labels where it leads to. -/
theorem LabelsAt.append {message : Array UInt8} {offset limit target next : Nat}
    {front found : List String} (hvalid : ∀ label ∈ front, Label.Valid label)
    (hbound : target < Name.pointerBound) (htarget : target < limit)
    (hfound : LabelsAt message target target found next)
    (h : HoldsAt message offset (Name.labelsWire front ++ Name.pointerWire target)) :
    LabelsAt message offset limit (front ++ found)
    (offset + (Name.labelsWire front).length + 2) := by
  induction front generalizing offset with
  | nil => exact .pointer hbound h htarget hfound
  | cons label rest ih =>
      rw [Name.labelsWire_cons] at h ⊢
      rw [List.append_assoc] at h
      have hbehind :=
        ih (fun other hother => hvalid other (List.mem_cons_of_mem label hother)) h.append_right
      rw [List.length_cons, length_utf8, Nat.add_comm label.utf8ByteSize 1,
        ← Nat.add_assoc] at hbehind
      have hstop : offset + 1 + label.utf8ByteSize + (Name.labelsWire rest).length + 2 =
          offset + (UInt8.ofNat label.utf8ByteSize :: utf8 label ++ Name.labelsWire rest).length +
          2 := by
        simp only [List.length_append, List.length_cons, length_utf8]
        omega
      rw [hstop] at hbehind
      exact .label (hvalid label List.mem_cons_self) h.append_left hbehind

namespace Decoder

/-- **Which names can be read.** A name is read exactly where the grammar derives its labels and it
takes at most 255 octets, and reading resumes where the grammar says. Anywhere else there is an
error, and the cursor stays. Labels that the walk finds always pass the check that makes a name of
them. In particular, labels in front of a pointer to an earlier offset are read as these labels and
those of the name that is read there. -/
theorem name_eq_ok_iff_labelsAt (message : Array UInt8) (offset : Nat) :
    (∀ n stop, name message offset = (.ok n, stop) ↔
      LabelsAt message offset offset n.labels stop ∧ n.wireLength ≤ 255) ∧
    ((∀ (n : Name) stop, LabelsAt message offset offset n.labels stop → 255 < n.wireLength) →
      ∃ e, name message offset = (.error e, offset)) ∧
    (∀ found stop, labels message offset offset 1 = .ok (found, stop) →
      Name.ofLabels found = .ok ⟨found⟩) ∧
    ∀ front target rest next, (∀ label ∈ front, Label.Valid label) → target < offset →
      target < Name.pointerBound →
      HoldsAt message offset (Name.labelsWire front ++ Name.pointerWire target) →
      name message target = (.ok rest, next) → (⟨front ++ rest.labels⟩ : Name).wireLength ≤ 255 →
        name message offset =
          (.ok ⟨front ++ rest.labels⟩, offset + (Name.labelsWire front).length + 2) := by
  refine ⟨fun n stop => name_eq_ok_iff, ?_, ?_, ?_⟩
  · intro hnone
    refine exists_name_eq_error fun n stop hread => ?_
    obtain ⟨hlabels, hlength⟩ := name_eq_ok_iff.mp hread
    exact absurd hlength (Nat.not_le_of_lt (hnone n stop hlabels))
  · intro found stop hwalk
    obtain ⟨hvalid, hlength⟩ := labels_valid (by decide) hwalk
    exact Name.ofLabels_eq_ok_iff.mpr ⟨rfl, hvalid, by rwa [Name.wireLength, Nat.add_comm]⟩
  · intro front target rest next hvalid htarget hbound hholds hrest hlength
    obtain ⟨hfound, -⟩ := name_eq_ok_iff.mp hrest
    exact name_eq_ok_iff.mpr ⟨.append hvalid hbound htarget hfound hholds, hlength⟩

/-- A label in front of a pointer to a name, and a pointer to itself. -/
theorem name_eq_ok_iff_labelsAt_pointers :
    let message : Array UInt8 :=
      #[7, 101, 120, 97, 109, 112, 108, 101, 3, 99, 111, 109, 0, 3, 119, 119, 119, 192, 0, 192, 19]
    name message 13 = (.ok ⟨["www", "example", "com"]⟩, 19) ∧
      LabelsAt message 13 13 ["www", "example", "com"] 19 ∧ ∃ e,
        name message 19 = (.error e, 19) := by
  intro message
  have hzone : name message 0 = (.ok ⟨["example", "com"]⟩, 13) :=
    Reads.name (by decide) ⟨[], [3, 119, 119, 119, 192, 0, 192, 19], by decide, rfl⟩
  have hwww : name message 13 = (.ok ⟨["www", "example", "com"]⟩, 19) :=
    (name_eq_ok_iff_labelsAt message 13).2.2.2 ["www"] 0 _ 13 (by decide) (by decide) (by decide)
      ⟨message.toList.take 13, [192, 19], by decide, rfl⟩ hzone (by decide)
  refine ⟨hwww, (((name_eq_ok_iff_labelsAt message 13).1 _ _).mp hwww).1, ?_⟩
  refine (name_eq_ok_iff_labelsAt message 19).2.1 fun n stop hlabels => ?_
  -- The octets of a pointer are neither the root label nor the length of a label, and this one
  -- leads to itself.
  generalize n.labels = found at hlabels
  cases hlabels with
  | root hroot => exact absurd hroot.head (by decide)
  | label hvalid hlabel _ =>
      have hfirst : UInt8.ofNat _ = 192 := Option.some.inj (hlabel.head.symm.trans rfl)
      have hsize := toNat_labelSize hvalid
      rw [hfirst] at hsize
      exact absurd hvalid.2 (hsize ▸ by decide)
  | pointer hbound hpointer htarget _ =>
      have hfirst : UInt8.ofNat _ = 192 := Option.some.inj (hpointer.head.symm.trans rfl)
      have hlow : UInt8.ofNat _ = 19 := Option.some.inj (hpointer.tail.head.symm.trans rfl)
      obtain ⟨-, hleads⟩ := octets_of_pointerWire hbound
      rw [hfirst, hlow] at hleads
      exact absurd htarget (hleads ▸ by decide)

end Decoder

end DnsHealth
