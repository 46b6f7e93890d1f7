import DnsHealth.HostName
import DnsHealth.Proofs.Name

/-!
# Names as text

A name of labels without dots can be told from its text: between the dots stand the labels again. So
the presentation form, without its final dot, is the labels with dots between them, and reading such
a text yields the labels, as long as they keep the limits. Every name that was read from a text is
of this kind.
-/

namespace DnsHealth

/-! ### Splitting at a separator -/

section

variable {α : Type} [BEq α] [LawfulBEq α]

/-- The separator is in none of the pieces of a split. -/
theorem not_mem_of_mem_splitOn {separator : α} {xs piece : List α}
    (h : piece ∈ xs.splitOn separator) : separator ∉ piece := by
  rw [List.splitOn_eq_splitOnP] at h
  induction xs generalizing piece with
  | nil =>
      obtain rfl := List.mem_singleton.mp h
      exact List.not_mem_nil
  | cons x xs ih =>
      rw [List.splitOnP_cons_eq_if_modifyHead] at h
      split at h
      case _ =>
          rcases List.mem_cons.mp h with rfl | h
          · exact List.not_mem_nil
          · exact ih h
      case _ hne =>
          -- The first element goes to the first piece; the others stay as they are.
          obtain ⟨first, rest, hsplit⟩ :=
            List.exists_cons_of_ne_nil (List.splitOnP_ne_nil (· == separator) xs)
          rw [hsplit, List.modifyHead_cons] at h
          rcases List.mem_cons.mp h with rfl | h
          · intro hmem
            rcases List.mem_cons.mp hmem with rfl | hmem
            · exact hne BEq.rfl
            · exact ih (hsplit ▸ List.mem_cons_self) hmem
          · exact ih (hsplit ▸ List.mem_cons_of_mem first h)

end

/-! ### Final dots -/

namespace Text

theorem dropFinalDot_append (cs : List Char) : dropFinalDot (cs ++ ['.']) = cs := by
  rw [dropFinalDot, if_pos List.getLast?_concat, List.dropLast_concat]

theorem dropFinalDot_of_getLast? {cs : List Char} (h : cs.getLast? ≠ some '.') :
    dropFinalDot cs = cs :=
  if_neg h

/-- A text without one final dot, if it ends in one. -/
def withoutFinalDot (text : String) : String :=
  String.ofList (dropFinalDot text.toList)

theorem withoutFinalDot_append (text : String) : withoutFinalDot (text ++ ".") = text := by
  rw [withoutFinalDot, String.toList_append]
  exact (congrArg String.ofList (dropFinalDot_append text.toList)).trans String.ofList_toList

theorem withoutFinalDot_of_getLast? {text : String} (h : text.toList.getLast? ≠ some '.') :
    withoutFinalDot text = text := by
  rw [withoutFinalDot, dropFinalDot_of_getLast? h, String.ofList_toList]

theorem withoutFinalDot_eq_iff {text body : String} :
    withoutFinalDot text = body ↔
    text = body ++ "." ∨ text = body ∧ text.toList.getLast? ≠ some '.' := by
  constructor
  · rintro rfl
    by_cases h : text.toList.getLast? = some '.'
    · refine .inl (String.toList_inj.mp ?_)
      obtain ⟨front, hfront⟩ := List.getLast?_eq_some_iff.mp h
      rw [String.toList_append, withoutFinalDot, String.toList_ofList, hfront, dropFinalDot_append]
      rfl
    · exact .inr ⟨(withoutFinalDot_of_getLast? h).symm, h⟩
  · rintro (rfl | ⟨rfl, h⟩)
    · exact withoutFinalDot_append body
    · exact withoutFinalDot_of_getLast? h

/-! ### Parts of a text -/

/-- The parts of a text between its dots. -/
def betweenDots (text : String) : List String :=
  (text.toList.splitOn '.').map String.ofList

theorem betweenDots_ne_nil (text : String) : betweenDots text ≠ [] :=
  mt List.map_eq_nil_iff.mp (List.splitOn_ne_nil '.' text.toList)

theorem dotless_of_mem_betweenDots {text part : String} (h : part ∈ betweenDots text) :
    '.' ∉ part.toList := by
  obtain ⟨piece, hpiece, rfl⟩ := List.mem_map.mp h
  rw [String.toList_ofList]
  exact not_mem_of_mem_splitOn hpiece

end Text

/-! ### Labels with dots between them -/

namespace HostName

variable {pieces : List (List Char)}

theorem joined_singleton (piece : List Char) : joined [piece] = piece :=
  List.intercalate_singleton

theorem joined_cons_cons (first second : List Char) (rest : List (List Char)) :
    joined (first :: second :: rest) = first ++ '.' :: joined (second :: rest) := by
  rw [joined, joined, List.intercalate_cons_cons, List.append_assoc, List.singleton_append]

/-- Pieces without dots are found again between the dots. -/
theorem splitOn_joined (hne : pieces ≠ []) (h : ∀ piece ∈ pieces, '.' ∉ piece) :
    (joined pieces).splitOn '.' = pieces :=
  List.splitOn_intercalate '.' h hne

/-- With a dot behind each piece, there is one dot more than between the pieces. -/
theorem flatMap_append_dot (hne : pieces ≠ []) :
    (pieces.flatMap fun piece => piece ++ ['.']) = joined pieces ++ ['.'] := by
  induction pieces with
  | nil => exact absurd rfl hne
  | cons first rest ih =>
      cases rest with
      | nil => rw [List.flatMap_singleton, joined_singleton]
      | cons second rest =>
          rw [List.flatMap_cons, ih (List.cons_ne_nil second rest), joined_cons_cons,
            List.append_assoc, List.append_assoc, List.singleton_append, List.cons_append]

/-- Joined pieces end as the last of them does. -/
theorem exists_suffix_joined (hne : pieces ≠ []) : ∃ piece ∈ pieces, piece <:+ joined pieces := by
  induction pieces with
  | nil => exact absurd rfl hne
  | cons first rest ih =>
      cases rest with
      | nil => exact ⟨first, List.mem_cons_self, [], (joined_singleton first).symm⟩
      | cons second rest =>
          obtain ⟨piece, hpiece, hsuffix⟩ := ih (List.cons_ne_nil second rest)
          refine ⟨piece, List.mem_cons_of_mem first hpiece, ?_⟩
          rw [joined_cons_cons]
          exact (hsuffix.trans (List.suffix_cons '.' _)).trans (List.suffix_append first _)

/-- Joined pieces end in a character that is not a dot. -/
theorem exists_getLast?_joined (hne : pieces ≠ [])
    (h : ∀ piece ∈ pieces, piece ≠ [] ∧ '.' ∉ piece) :
    ∃ c, (joined pieces).getLast? = some c ∧ c ≠ '.' := by
  obtain ⟨piece, hpiece, front, hfront⟩ := exists_suffix_joined hne
  obtain ⟨hnil, hdot⟩ := h piece hpiece
  obtain ⟨c, hc⟩ := Option.ne_none_iff_exists'.mp (mt List.getLast?_eq_none_iff.mp hnil)
  refine ⟨c, ?_, ?_⟩
  · rw [← hfront, List.getLast?_append, hc, Option.some_or]
  · rintro rfl
    exact hdot (List.mem_of_getLast? hc)

/-- So there is no final dot to drop. -/
theorem withoutFinalDot_joined (hne : pieces ≠ [])
    (h : ∀ piece ∈ pieces, piece ≠ [] ∧ '.' ∉ piece) :
    Text.withoutFinalDot (String.ofList (joined pieces)) = String.ofList (joined pieces) := by
  obtain ⟨c, hlast, hdot⟩ := exists_getLast?_joined hne h
  refine Text.withoutFinalDot_of_getLast? ?_
  rw [String.toList_ofList, hlast]
  simpa using hdot

end HostName

/-! ### Reading and writing names -/

namespace Name

variable {name : Name} {text : String}

/-- No label holds a dot. -/
def Dotless (name : Name) : Prop :=
  ∀ label ∈ name.labels, '.' ∉ label.toList

instance (name : Name) : Decidable name.Dotless :=
  inferInstanceAs (Decidable (∀ label ∈ name.labels, '.' ∉ label.toList))

/-- The labels as characters. -/
def pieces (name : Name) : List (List Char) :=
  name.labels.map String.toList

theorem pieces_ne_nil (h : name.labels ≠ []) : name.pieces ≠ [] :=
  mt List.map_eq_nil_iff.mp h

/-- Labels that keep the limits are not empty. -/
theorem forall_pieces (hvalid : name.LabelsValid) (hdotless : name.Dotless) :
    ∀ piece ∈ name.pieces, piece ≠ [] ∧ '.' ∉ piece := by
  intro piece hpiece
  obtain ⟨label, hlabel, rfl⟩ := List.mem_map.mp hpiece
  refine ⟨fun hnil => ?_, hdotless label hlabel⟩
  obtain rfl := String.toList_eq_nil_iff.mp hnil
  exact absurd (hvalid _ hlabel).1 (by decide)

/-- The presentation form of a name with labels: dots between them, and one behind them. -/
theorem fqdn_eq (h : name.labels ≠ []) :
    name.fqdn = String.ofList (HostName.joined name.pieces) ++ "." := by
  have hflat : (name.labels.flatMap fun label => label.toList ++ ['.']) =
      HostName.joined name.pieces ++ ['.'] := by
    rw [← HostName.flatMap_append_dot (pieces_ne_nil h), pieces, List.flatMap_map]
  rw [fqdn, if_neg h, hflat, String.ofList_append]

/-- The parts of a text with dots between them are the text. -/
theorem joined_betweenDots (text : String) :
    HostName.joined (⟨Text.betweenDots text⟩ : Name).pieces = text.toList := by
  have hpieces : (⟨Text.betweenDots text⟩ : Name).pieces = text.toList.splitOn '.' := by
    rw [pieces, Text.betweenDots, List.map_map]
    exact (List.map_congr_left fun _ _ => String.toList_ofList).trans (List.map_id _)
  rw [hpieces]
  exact List.intercalate_splitOn '.'

/-- Labels without dots are found again between the dots. -/
theorem betweenDots_joined (hne : name.labels ≠ []) (hdotless : name.Dotless) :
    Text.betweenDots (String.ofList (HostName.joined name.pieces)) = name.labels := by
  have hpieces : ∀ piece ∈ name.pieces, '.' ∉ piece := by
    intro piece hpiece
    obtain ⟨label, hlabel, rfl⟩ := List.mem_map.mp hpiece
    exact hdotless label hlabel
  rw [Text.betweenDots, String.toList_ofList, HostName.splitOn_joined (pieces_ne_nil hne) hpieces,
    pieces, List.map_map]
  exact (List.map_congr_left fun _ _ => String.ofList_toList).trans (List.map_id _)

/-- A text is read as the parts between its dots, once a final dot is gone. Where nothing is left
there is one part without characters, which is no label. -/
theorem parse_eq (text : String) :
    parse text =
      if text = "." then .ok root else ofLabels (Text.betweenDots (Text.withoutFinalDot text)) := by
  rw [parse, Text.withoutFinalDot, Text.betweenDots, String.toList_ofList]
  split
  case _ => rfl
  case _ =>
      split
      case _ hnil =>
          rw [hnil]
          rfl
      case _ => rfl

/-- A name that was read from a text is valid and has no dots in its labels. -/
theorem valid_dotless_of_parse (h : parse text = .ok name) : name.Valid ∧ name.Dotless := by
  rw [parse_eq] at h
  split at h
  case _ =>
      obtain rfl := Except.ok.inj h
      exact ⟨by decide, fun label hlabel => absurd hlabel List.not_mem_nil⟩
  case _ =>
      obtain ⟨rfl, hvalid⟩ := ofLabels_eq_ok_iff.mp h
      exact ⟨hvalid, fun label hlabel => Text.dotless_of_mem_betweenDots hlabel⟩

/-- Labels with dots between them are read as the name that they make. -/
theorem parse_joined (hne : name.labels ≠ []) (hvalid : name.Valid) (hdotless : name.Dotless) :
    parse (String.ofList (HostName.joined name.pieces)) = .ok name := by
  have hkept :=
    HostName.withoutFinalDot_joined (pieces_ne_nil hne) (forall_pieces hvalid.1 hdotless)
  have hroot : String.ofList (HostName.joined name.pieces) ≠ "." := by
    intro h
    rw [h] at hkept
    exact absurd hkept (by decide)
  rw [parse_eq, if_neg hroot, hkept, betweenDots_joined hne hdotless]
  exact ofLabels_eq_ok_iff.mpr ⟨rfl, hvalid⟩

end Name

end DnsHealth
