import DnsHealth.Proofs.Name.Text
import DnsHealth.Proofs.Wire.Names

/-!
# Which texts are names

A text is a name when each of its parts between dots is a label and the whole keeps the limit for
names; a final dot does not count. The limit is put in octets on the wire, where every label has a
length octet in front of it and the root label stands at the end. In the text there is a dot behind
every label, and none for the root label, so a name takes one octet less as text than on the wire
(`Name.wireLength_eq`): 254 with the final dot, and 253 without it.
-/

namespace DnsHealth

namespace Name

variable {name : Name} {labels : List String} {text : String}

/-! ### Why labels do not make a name -/

theorem ofLabels_eq_invalidLabel_iff :
    ofLabels labels = .error .invalidLabel ↔ ∃ label ∈ labels, ¬ Label.Valid label := by
  unfold ofLabels
  split
  case isTrue hlabels =>
      refine iff_of_false ?_ fun ⟨label, hlabel, hbad⟩ => hbad (hlabels label hlabel)
      split <;> exact nofun
  case isFalse hlabels =>
      simpa using hlabels

theorem ofLabels_eq_nameTooLong_iff :
    ofLabels labels = .error .nameTooLong ↔
      (∀ label ∈ labels, Label.Valid label) ∧ maxLength < (⟨labels⟩ : Name).wireLength := by
  unfold ofLabels
  split
  case isTrue hlabels =>
      split
      case isTrue hlength => exact iff_of_false nofun fun h => Nat.not_lt.mpr hlength h.2
      case isFalse hlength => exact iff_of_true rfl ⟨hlabels, Nat.lt_of_not_le hlength⟩
  case isFalse hlabels => exact iff_of_false nofun fun h => hlabels h.1

/-! ### Lengths -/

theorem utf8ByteSize_flatMap_dot (labels : List String) :
    (String.ofList (labels.flatMap fun label => label.toList ++ ['.'])).utf8ByteSize =
      labelsLength labels := by
  induction labels with
  | nil => rfl
  | cons label rest ih =>
      have hdot : (String.ofList ['.']).utf8ByteSize = 1 := by decide
      rw [List.flatMap_cons, String.ofList_append, String.ofList_append, String.ofList_toList,
        String.utf8ByteSize_append, String.utf8ByteSize_append, hdot, ih, labelsLength_cons]

/-- The dots of the text stand for the length octets, and there is no dot for the root label. -/
theorem wireLength_eq (h : name.labels ≠ []) : name.wireLength = name.fqdn.utf8ByteSize + 1 := by
  rw [wireLength, fqdn, if_neg h, utf8ByteSize_flatMap_dot]

theorem labels_betweenDots_ne_nil (text : String) : (⟨Text.betweenDots text⟩ : Name).labels ≠ [] :=
  Text.betweenDots_ne_nil text

theorem fqdn_betweenDots (text : String) : (⟨Text.betweenDots text⟩ : Name).fqdn = text ++ "." := by
  rw [fqdn_eq (labels_betweenDots_ne_nil text), joined_betweenDots, String.ofList_toList]

theorem wireLength_betweenDots (text : String) :
    (⟨Text.betweenDots text⟩ : Name).wireLength = text.utf8ByteSize + 2 := by
  rw [wireLength_eq (labels_betweenDots_ne_nil text), fqdn_betweenDots, String.utf8ByteSize_append]
  rfl

/-! ### Reading a text -/

theorem parse_of_ne_dot (h : text ≠ ".") :
    parse text = ofLabels (Text.betweenDots (Text.withoutFinalDot text)) := by
  rw [parse_eq, if_neg h]

/-- A lone dot takes two octets on the wire, which is too little for a label. -/
theorem fqdn_ne_dot (hvalid : name.LabelsValid) (hne : name.labels ≠ []) : name.fqdn ≠ "." := by
  intro h
  obtain ⟨label, rest, hlabels⟩ := List.exists_cons_of_ne_nil hne
  have hlabel := (hvalid label (by rw [hlabels]; exact List.mem_cons_self)).1
  have hdot : (".").utf8ByteSize = 1 := by decide
  have hlength := wireLength_eq hne
  rw [h, hdot, wireLength, hlabels, labelsLength_cons] at hlength
  omega

theorem withoutFinalDot_fqdn (hne : name.labels ≠ []) :
    Text.withoutFinalDot name.fqdn = String.ofList (HostName.joined name.pieces) := by
  rw [fqdn_eq hne, Text.withoutFinalDot_append]

/-- Every valid name without dots in its labels is read back from its presentation form. -/
theorem parse_fqdn (hvalid : name.Valid) (hdotless : name.Dotless) :
    parse name.fqdn = .ok name := by
  by_cases hne : name.labels = []
  · rw [fqdn, if_pos hne, parse, if_pos rfl, root, ← hne]
  · rw [parse_of_ne_dot (fqdn_ne_dot hvalid.1 hne), withoutFinalDot_fqdn hne,
      betweenDots_joined hne hdotless]
    exact ofLabels_eq_ok_iff.mpr ⟨rfl, hvalid⟩

theorem exists_parse_eq_ok_iff (h : text ≠ ".") :
    (∃ name, parse text = .ok name) ↔
      (∀ part ∈ Text.betweenDots (Text.withoutFinalDot text), Label.Valid part) ∧
        (Text.withoutFinalDot text).utf8ByteSize ≤ 253 := by
  simp only [parse_of_ne_dot h, ofLabels_eq_ok_iff, exists_eq_left, Valid, wireLength_betweenDots,
    maxLength]
  exact and_congr_right fun _ => by omega

theorem parse_eq_invalidLabel_iff (h : text ≠ ".") :
    parse text = .error .invalidLabel ↔
      ∃ part ∈ Text.betweenDots (Text.withoutFinalDot text), ¬ Label.Valid part := by
  rw [parse_of_ne_dot h, ofLabels_eq_invalidLabel_iff]

theorem parse_eq_nameTooLong_iff (h : text ≠ ".") :
    parse text = .error .nameTooLong ↔
      (∀ part ∈ Text.betweenDots (Text.withoutFinalDot text), Label.Valid part) ∧
        253 < (Text.withoutFinalDot text).utf8ByteSize := by
  rw [parse_of_ne_dot h, ofLabels_eq_nameTooLong_iff, wireLength_betweenDots, maxLength]
  exact and_congr_right fun _ => by omega

theorem utf8ByteSize_withoutFinalDot_le (text : String) :
    (Text.withoutFinalDot text).utf8ByteSize ≤ text.utf8ByteSize := by
  generalize hbody : Text.withoutFinalDot text = body
  rcases Text.withoutFinalDot_eq_iff.mp hbody with rfl | ⟨rfl, -⟩
  · rw [String.utf8ByteSize_append]
    exact Nat.le_add_right _ _
  · exact Nat.le_refl _

/-- No text of at most 253 octets is too long, with or without a final dot. -/
theorem parse_ne_nameTooLong (h : text.utf8ByteSize ≤ HostName.maxLength) :
    parse text ≠ .error .nameTooLong := by
  intro hparse
  have hdot : text ≠ "." := by
    rintro rfl
    rw [parse, if_pos rfl] at hparse
    cases hparse
  obtain ⟨-, hlong⟩ := (parse_eq_nameTooLong_iff hdot).mp hparse
  exact absurd (Nat.le_trans (utf8ByteSize_withoutFinalDot_le text) h) (Nat.not_le.mpr hlong)

/-- What is read from a text, once its final dot is gone, is the name whose labels are the parts
between the dots. -/
theorem eq_of_parse (hdot : text ≠ ".") (h : parse text = .ok name) :
    name = ⟨Text.betweenDots (Text.withoutFinalDot text)⟩ := by
  rw [parse_of_ne_dot hdot] at h
  exact (ofLabels_eq_ok_iff.mp h).1

end Name

/-- A host name that was accepted is not too long for a name. -/
theorem HostName.parse_ne_nameTooLong {toAscii : String → Option String} {given ascii : String}
    (h : validate? toAscii given = some ascii) : Name.parse ascii ≠ .error .nameTooLong := by
  refine Name.parse_ne_nameTooLong ?_
  unfold validate? at h
  split at h
  case _ => exact nomatch h
  case _ =>
      split at h
      case _ =>
          split at h
          case _ => exact nomatch h
          case _ hfits =>
              obtain rfl := Option.some.inj h
              exact Nat.le_of_not_lt fun hlong => hfits (.inr hlong)
      case _ => exact nomatch h

namespace Name

/-- **Which texts are names.** A text other than the lone dot is read as a name exactly when,
without its final dot if it has one, it is not empty, every part between dots has 1 to 63 octets and
it has at most 253 octets in all. A part that is no label is the first thing to be reported, and too
long is only what is made of labels. The presentation form of what was read is the text with a final
dot, one octet less than either wire form, and the name is read back from it and from the text
without the dot. Since 253 octets are also the limit for host names, no host name is too long. -/
theorem parse_grammar {text body : String} (hbody : Text.withoutFinalDot text = body) :
    (text = body ++ "." ∨ text = body ∧ text.toList.getLast? ≠ some '.') ∧
      ((∃ name, parse text = .ok name) ↔
        text = "." ∨
          body ≠ "" ∧ (∀ part ∈ Text.betweenDots body, Label.Valid part) ∧
            body.utf8ByteSize ≤ 253) ∧
      (text = "." → parse text = .ok root) ∧
      (text ≠ "." →
        (parse text = .error .invalidLabel ↔
          body = "" ∨ ∃ part ∈ Text.betweenDots body, ¬ Label.Valid part) ∧
        (parse text = .error .nameTooLong ↔
          body ≠ "" ∧ (∀ part ∈ Text.betweenDots body, Label.Valid part) ∧
            253 < body.utf8ByteSize) ∧
        ∀ name, parse text = .ok name →
          name.fqdn = body ++ "." ∧ name.wireLength = body.utf8ByteSize + 2 ∧
            name.wire.length = body.utf8ByteSize + 2 ∧
            name.canonical.length = body.utf8ByteSize + 2 ∧
            parse name.fqdn = .ok name ∧ parse body = .ok name) ∧
      (text.utf8ByteSize ≤ HostName.maxLength → parse text ≠ .error .nameTooLong) ∧
      ∀ toAscii given, HostName.validate? toAscii given = some text →
        parse text ≠ .error .nameTooLong := by
  -- A text without characters has one part, which is too short for a label.
  have hempty : (∀ part ∈ Text.betweenDots body, Label.Valid part) → body ≠ "" := by
    rintro hparts rfl
    exact absurd hparts (by decide)
  refine ⟨Text.withoutFinalDot_eq_iff.mp hbody, ?_, ?_, ?_, parse_ne_nameTooLong,
    fun _ _ => HostName.parse_ne_nameTooLong⟩
  · by_cases hdot : text = "."
    · subst hdot
      exact iff_of_true ⟨root, rfl⟩ (.inl rfl)
    · rw [exists_parse_eq_ok_iff hdot, hbody, or_iff_right hdot]
      exact ⟨fun h => ⟨hempty h.1, h⟩, And.right⟩
  · rintro rfl
    rfl
  · intro hdot
    refine ⟨?_, ?_, ?_⟩
    · rw [parse_eq_invalidLabel_iff hdot, hbody]
      refine ⟨.inr, ?_⟩
      rintro (rfl | h)
      · exact ⟨"", by decide, by decide⟩
      · exact h
    · rw [parse_eq_nameTooLong_iff hdot, hbody]
      exact ⟨fun h => ⟨hempty h.1, h⟩, And.right⟩
    · intro name hname
      obtain ⟨hvalid, hdotless⟩ := valid_dotless_of_parse hname
      obtain rfl : name = ⟨Text.betweenDots body⟩ := hbody ▸ eq_of_parse hdot hname
      have hjoined := parse_joined (labels_betweenDots_ne_nil body) hvalid hdotless
      rw [joined_betweenDots, String.ofList_toList] at hjoined
      rw [length_wire, length_canonical]
      exact ⟨fqdn_betweenDots body, wireLength_betweenDots body, wireLength_betweenDots body,
        wireLength_betweenDots body, parse_fqdn hvalid hdotless, hjoined⟩

/-- A host name with a final dot, a text with two final dots, and one with an umlaut, which counts
as two octets. -/
theorem parse_grammar_finalDots :
    (∃ name, parse "ns1.example." = .ok name ∧ name.fqdn = "ns1.example." ∧ name.wireLength = 13 ∧
      parse "ns1.example" = .ok name) ∧
    parse "ns1.." = .error .invalidLabel ∧
    (∀ name, parse "zürich" = .ok name → name.wireLength = 9) := by
  have hbody : Text.withoutFinalDot "ns1.example." = "ns1.example" := by decide
  have hdots : Text.withoutFinalDot "ns1.." = "ns1." := by decide
  have humlaut : Text.withoutFinalDot "zürich" = "zürich" := by decide
  obtain ⟨-, haccept, -, hread, -⟩ := parse_grammar hbody
  obtain ⟨-, -, -, hreject, -⟩ := parse_grammar hdots
  obtain ⟨-, -, -, hoctets, -⟩ := parse_grammar humlaut
  obtain ⟨name, hname⟩ := haccept.mpr (.inr (by decide))
  obtain ⟨hfqdn, hlength, -, -, -, hagain⟩ := (hread (by decide)).2.2 name hname
  refine ⟨⟨name, hname, hfqdn, hlength, hagain⟩, ?_, ?_⟩
  · exact (hreject (by decide)).1.mpr (.inr (by decide))
  · intro name hname
    exact ((hoctets (by decide)).2.2 name hname).2.1

end Name

end DnsHealth
