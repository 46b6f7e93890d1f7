import DnsHealth.Config
import DnsHealth.Proofs.Name.Reverse
import DnsHealth.Proofs.Name.Split
import DnsHealth.Proofs.Text.Digits

/-!
# Registrable domains

A registrable domain is made of the last labels of a name. Which ones is said by
`HostName.Registrable` about lists of labels alone: the last three when the last two are a listed
suffix, and else the last two. From this it is plain that labels in front do not matter and that a
registrable domain is its own.

A text is divided at its dots, and parts without characters are passed over. Its registrable domain
is that of the other parts (`HostName.registrable?_eq_some_iff`), with one exception. Whether two
parts are a suffix by themselves is not asked of the parts but of the text as it stands, so that
with dots to spare the suffix comes out as a domain of its own. The text of a name has no such dots.
-/

namespace DnsHealth

theorem toOption_eq_some_iff {ε α : Type} {x : Except ε α} {a : α} :
    x.toOption = some a ↔ x = .ok a := by
  cases x with
  | error e => exact ⟨nofun, nofun⟩
  | ok b => exact ⟨fun h => congrArg Except.ok (Option.some.inj h),
      fun h => congrArg some (Except.ok.inj h)⟩

/-! ### Counting dots -/

namespace Text

/-- There is one part more than there are dots. -/
theorem length_betweenDots (text : String) :
    (betweenDots text).length = text.toList.count '.' + 1 := by
  rw [betweenDots, List.length_map, List.splitOn_eq_splitOnP]
  induction text.toList with
  | nil => rfl
  | cons c rest ih =>
      rw [List.splitOnP_cons_eq_if_modifyHead]
      by_cases hdot : c = '.'
      · simp [hdot, ih]
      · simp [hdot, ih]

theorem count_lowerAscii (text : String) :
    (lowerAscii text).toList.count '.' = text.toList.count '.' := by
  rw [lowerAscii, String.toList_ofList, List.count_eq_countP, List.count_eq_countP, List.countP_map]
  refine List.countP_congr fun c _ => ?_
  have hdot : c.toLower = '.' ↔ c = '.' := toLower_eq_iff_of_lt (by decide)
  simp [hdot]

end Text

namespace HostName

variable {text domain : String} {labels front : List String}

/-! ### Labels in a text -/

/-- Labels as they stand between dots: with characters, and without dots. -/
def PlainLabels (labels : List String) : Prop :=
  ∀ label ∈ labels, label ≠ "" ∧ '.' ∉ label.toList

theorem intercalate_dot (labels : List String) :
    ".".intercalate labels = String.ofList (joined (⟨labels⟩ : Name).pieces) :=
  String.toList_inj.mp (String.toList_intercalate.trans String.toList_ofList.symm)

theorem PlainLabels.betweenDots (h : PlainLabels labels) (hne : labels ≠ []) :
    Text.betweenDots (".".intercalate labels) = labels := by
  rw [intercalate_dot]
  exact @Name.betweenDots_joined ⟨labels⟩ hne fun label hlabel => (h label hlabel).2

/-- Labels with characters do not end in a dot. -/
theorem PlainLabels.withoutFinalDot (h : PlainLabels labels) (hne : labels ≠ []) :
    Text.withoutFinalDot (".".intercalate labels) = ".".intercalate labels := by
  have hpieces : ∀ piece ∈ (⟨labels⟩ : Name).pieces, piece ≠ [] ∧ '.' ∉ piece := by
    intro piece hpiece
    obtain ⟨label, hlabel, rfl⟩ := List.mem_map.mp hpiece
    exact ⟨mt String.toList_eq_nil_iff.mp (h label hlabel).1, (h label hlabel).2⟩
  rw [intercalate_dot]
  exact withoutFinalDot_joined (Name.pieces_ne_nil hne) hpieces

/-! ### Parts of a text -/

/-- The parts of a text between dots, a final one aside, that have characters. -/
def parts (text : String) : List String :=
  (Text.betweenDots (Text.withoutFinalDot text)).filter (· ≠ "")

/-- Some part of the text between dots, a final one aside, has no characters. -/
def HasBlankLabel (text : String) : Prop :=
  "" ∈ Text.betweenDots (Text.withoutFinalDot text)

instance (text : String) : Decidable (HasBlankLabel text) :=
  inferInstanceAs (Decidable ("" ∈ Text.betweenDots (Text.withoutFinalDot text)))

theorem plainLabels_parts (text : String) : PlainLabels (parts text) := by
  intro label hlabel
  obtain ⟨hmem, hne⟩ := List.mem_filter.mp hlabel
  exact ⟨of_decide_eq_true hne, Text.dotless_of_mem_betweenDots hmem⟩

theorem parts_of_not_hasBlankLabel (h : ¬ HasBlankLabel text) :
    parts text = Text.betweenDots (Text.withoutFinalDot text) := by
  refine List.filter_eq_self.mpr fun part hpart => decide_eq_true ?_
  rintro rfl
  exact h hpart

theorem PlainLabels.not_hasBlankLabel (h : PlainLabels labels) (hne : labels ≠ []) :
    ¬ HasBlankLabel (".".intercalate labels) := by
  rw [HasBlankLabel, h.withoutFinalDot hne, h.betweenDots hne]
  exact fun hblank => (h "" hblank).1 rfl

theorem PlainLabels.parts (h : PlainLabels labels) (hne : labels ≠ []) :
    parts (".".intercalate labels) = labels := by
  rw [parts_of_not_hasBlankLabel (h.not_hasBlankLabel hne), h.withoutFinalDot hne,
    h.betweenDots hne]

/-! ### Listed suffixes -/

/-- The labels form a listed suffix, up to ASCII case. -/
def IsListed (labels : List String) : Prop :=
  Text.lowerAscii (".".intercalate labels) ∈ multiLabelSuffixes

instance (labels : List String) : Decidable (IsListed labels) :=
  inferInstanceAs (Decidable (Text.lowerAscii (".".intercalate labels) ∈ multiLabelSuffixes))

/-- Every listed suffix has one dot. -/
theorem count_of_listed (h : Text.lowerAscii text ∈ multiLabelSuffixes) :
    text.toList.count '.' = 1 := by
  have hone : ∀ suffix ∈ multiLabelSuffixes, suffix.toList.count '.' = 1 := by decide
  rw [← Text.count_lowerAscii]
  exact hone _ h

theorem IsListed.ne_nil (h : IsListed labels) : labels ≠ [] := by
  rintro rfl
  exact absurd h (by decide)

theorem IsListed.length_eq (h : IsListed labels) (hplain : PlainLabels labels) :
    labels.length = 2 := by
  rw [← hplain.betweenDots h.ne_nil, Text.length_betweenDots, count_of_listed h]

/-- A text with two parts is a listed suffix when the parts are and there is nothing else in it. -/
theorem listed_withoutFinalDot_iff (h : (parts text).length = 2) :
    Text.lowerAscii (Text.withoutFinalDot text) ∈ multiLabelSuffixes ↔
      IsListed (parts text) ∧ ¬ HasBlankLabel text := by
  have hbody : ¬ HasBlankLabel text → ".".intercalate (parts text) = Text.withoutFinalDot text := by
    intro hblank
    rw [parts_of_not_hasBlankLabel hblank, intercalate_dot, Name.joined_betweenDots,
      String.ofList_toList]
  constructor
  · intro hlisted
    have htwo : (Text.betweenDots (Text.withoutFinalDot text)).length = 2 := by
      rw [Text.length_betweenDots, count_of_listed hlisted]
    -- No part was passed over, since there are two of them either way.
    have hblank : ¬ HasBlankLabel text := by
      intro hmem
      have hall := List.length_filter_eq_length_iff.mp (h.trans htwo.symm)
      exact absurd (hall "" hmem) (by decide)
    exact ⟨by rwa [IsListed, hbody hblank], hblank⟩
  · rintro ⟨hlisted, hblank⟩
    rwa [IsListed, hbody hblank] at hlisted

/-! ### The registrable domain of labels -/

/-- The registrable domain of labels: the last three when the last two are listed, and else the last
two. Two labels that are listed have none. -/
inductive Registrable : (labels domain : List String) → Prop
  | listed (front : List String) {a b c : String} (h : IsListed [b, c]) :
      Registrable (front ++ [a, b, c]) [a, b, c]
  | unlisted (front : List String) {b c : String} (h : ¬ IsListed [b, c]) :
      Registrable (front ++ [b, c]) [b, c]

variable {labels' : List String}

theorem lastOf_append (front labels : List String) :
    lastOf labels.length (front ++ labels) = labels := by
  rw [lastOf, List.length_append, Nat.add_sub_cancel, List.drop_left]

/-- Further labels in front do not matter. -/
theorem Registrable.append (h : Registrable labels labels') (front : List String) :
    Registrable (front ++ labels) labels' := by
  cases h with
  | listed rest h =>
      rw [← List.append_assoc]
      exact .listed (front ++ rest) h
  | unlisted rest h =>
      rw [← List.append_assoc]
      exact .unlisted (front ++ rest) h

/-- A registrable domain is its own. -/
theorem Registrable.self (h : Registrable labels labels') : Registrable labels' labels' := by
  cases h with
  | listed rest h => exact .listed [] h
  | unlisted rest h => exact .unlisted [] h

/-- A registrable domain is made of labels that are there. -/
theorem Registrable.suffix (h : Registrable labels labels') : labels' <:+ labels := by
  cases h with
  | listed rest h => exact List.suffix_append rest _
  | unlisted rest h => exact List.suffix_append rest _

theorem Registrable.ne_nil (h : Registrable labels labels') : labels' ≠ [] := by
  cases h <;> exact List.cons_ne_nil _ _

theorem Registrable.length_le (h : Registrable labels labels') : labels'.length ≤ 3 := by
  cases h <;> simp

theorem Registrable.plainLabels (h : Registrable labels labels') (hplain : PlainLabels labels) :
    PlainLabels labels' :=
  fun label hlabel => hplain label (h.suffix.subset hlabel)

/-- A registrable domain is no suffix. -/
theorem Registrable.not_isListed (h : Registrable labels labels') (hplain : PlainLabels labels) :
    ¬ IsListed labels' := by
  intro hlisted
  have htwo := hlisted.length_eq (h.plainLabels hplain)
  cases h with
  | listed rest h => simp at htwo
  | unlisted rest h => exact h hlisted

/-- The labels of a registrable domain by their number. -/
theorem Registrable.eq_lastOf (h : Registrable labels labels') :
    labels' = lastOf (if 3 ≤ labels.length ∧ IsListed (lastOf 2 labels) then 3 else 2) labels := by
  cases h with
  | @listed front a b c h =>
      have htwo : lastOf 2 (front ++ [a, b, c]) = [b, c] := by
        simpa using lastOf_append (front ++ [a]) [b, c]
      rw [htwo, if_pos ⟨by simp, h⟩]
      exact (lastOf_append front [a, b, c]).symm
  | @unlisted front b c h =>
      have htwo : lastOf 2 (front ++ [b, c]) = [b, c] := lastOf_append front [b, c]
      rw [htwo, if_neg fun hboth => h hboth.2]
      exact htwo.symm

/-- Too few labels, two of them, or more. -/
theorem labels_cases (labels : List String) :
    labels.length < 2 ∨ (∃ b c, labels = [b, c]) ∨ ∃ front a b c, labels = front ++ [a, b, c] := by
  match hreverse : labels.reverse with
  | [] => exact .inl (by rw [← List.length_reverse, hreverse]; simp)
  | [c] => exact .inl (by rw [← List.length_reverse, hreverse]; simp)
  | [c, b] => exact .inr (.inl ⟨b, c, by simpa using congrArg List.reverse hreverse⟩)
  | c :: b :: a :: rest =>
      exact .inr (.inr ⟨rest.reverse, a, b, c, by simpa using congrArg List.reverse hreverse⟩)

/-- There is a registrable domain unless there are fewer than two labels, or two that are listed. -/
theorem exists_registrable_iff :
    (∃ domain, Registrable labels domain) ↔
      ¬ (labels.length < 2 ∨ labels.length = 2 ∧ IsListed labels) := by
  constructor
  · rintro ⟨domain, h⟩
    cases h with
    | listed rest h => simp
    | unlisted rest h =>
        rw [not_or, not_and, List.length_append]
        refine ⟨Nat.not_lt.mpr (Nat.le_add_left 2 _), fun hlength hlisted => h ?_⟩
        obtain rfl : rest = [] :=
          List.length_eq_zero_iff.mp (Nat.add_right_cancel (hlength.trans (Nat.zero_add 2).symm))
        exact hlisted
  · intro h
    rcases labels_cases labels with hshort | ⟨b, c, rfl⟩ | ⟨front, a, b, c, rfl⟩
    · exact absurd (.inl hshort) h
    · exact ⟨_, .unlisted [] fun hlisted => h (.inr ⟨rfl, hlisted⟩)⟩
    · by_cases hlisted : IsListed [b, c]
      · exact ⟨_, .listed front hlisted⟩
      · have hunlisted := Registrable.unlisted (front ++ [a]) hlisted
        exact ⟨_, by simpa using hunlisted⟩

/-! ### The registrable domain of a text -/

theorem map_toList_parts (text : String) :
    ((Text.dropFinalDot text.toList).splitOn '.').filter (!·.isEmpty) =
    (parts text).map String.toList := by
  have hblank : ∀ cs : List Char, (decide (String.ofList cs ≠ "")) = !cs.isEmpty := by
    intro cs
    cases cs <;> simp [← String.toList_inj]
  rw [parts, Text.betweenDots, Text.withoutFinalDot, String.toList_ofList, List.filter_map,
    List.map_map]
  simp only [Function.comp_def, hblank, String.toList_ofList, List.map_id']

theorem isSuffix_joined_iff (labels : List String) :
    isSuffix (joined (labels.map String.toList)) = true ↔ IsListed labels := by
  rw [isSuffix, List.contains_iff_mem, IsListed, intercalate_dot, Name.pieces]

/-- The registrable domain in terms of the parts of a text, and of the text itself when there are
two of them. -/
theorem registrable?_eq_parts (text : String) :
    registrable? text =
      if (parts text).length < 2 then none
      else if 3 ≤ (parts text).length then
        if IsListed (lastOf 2 (parts text)) then some (".".intercalate (lastOf 3 (parts text)))
        else some (".".intercalate (lastOf 2 (parts text)))
      else if Text.lowerAscii (Text.withoutFinalDot text) ∈ multiLabelSuffixes then none
      else some (".".intercalate (lastOf 2 (parts text))) := by
  have hlast : ∀ count, lastOf count ((parts text).map String.toList) =
      (lastOf count (parts text)).map String.toList := by
    intro count
    rw [lastOf, lastOf, List.length_map, List.map_drop]
  have hbody : isSuffix (Text.dropFinalDot text.toList) = true ↔
      Text.lowerAscii (Text.withoutFinalDot text) ∈ multiLabelSuffixes := List.contains_iff_mem
  simp only [registrable?, map_toList_parts, hlast, List.length_map, isSuffix_joined_iff, hbody,
    intercalate_dot, Name.pieces]

/-- The registrable domain of the parts is that of the text. -/
theorem registrable?_of_registrable (h : Registrable (parts text) labels) :
    registrable? text = some (".".intercalate labels) := by
  have hexists := exists_registrable_iff.mp ⟨labels, h⟩
  rw [not_or, not_and] at hexists
  rw [registrable?_eq_parts, if_neg hexists.1, h.eq_lastOf]
  by_cases hthree : 3 ≤ (parts text).length
  · by_cases hlisted : IsListed (lastOf 2 (parts text))
    · rw [if_pos hthree, if_pos hlisted, if_pos ⟨hthree, hlisted⟩]
    · rw [if_pos hthree, if_neg hlisted, if_neg fun hboth => hlisted hboth.2]
  · -- Two parts that have a registrable domain are not listed, and neither is the text then.
    have htwo : (parts text).length = 2 := by omega
    have hbody : Text.lowerAscii (Text.withoutFinalDot text) ∉ multiLabelSuffixes :=
      fun hmem => hexists.2 htwo ((listed_withoutFinalDot_iff htwo).mp hmem).1
    rw [if_neg hthree, if_neg hbody, if_neg fun hboth => hthree hboth.1]

/-- A suffix with dots to spare is taken for a domain of its own. -/
theorem registrable?_of_hasBlankLabel (hlisted : IsListed (parts text))
    (hblank : HasBlankLabel text) : registrable? text = some (".".intercalate (parts text)) := by
  have htwo := hlisted.length_eq (plainLabels_parts text)
  have hbody : Text.lowerAscii (Text.withoutFinalDot text) ∉ multiLabelSuffixes :=
    fun h => ((listed_withoutFinalDot_iff htwo).mp h).2 hblank
  have hall : lastOf 2 (parts text) = parts text := by
    rw [lastOf, htwo, List.drop_zero]
  rw [registrable?_eq_parts, if_neg (by omega), if_neg (by omega), if_neg hbody, hall]

theorem registrable?_eq_none_iff :
    registrable? text = none ↔
    (parts text).length < 2 ∨ IsListed (parts text) ∧ ¬ HasBlankLabel text := by
  constructor
  · intro hnone
    by_cases hexists : ∃ labels, Registrable (parts text) labels
    · obtain ⟨labels, h⟩ := hexists
      rw [registrable?_of_registrable h] at hnone
      cases hnone
    · rw [exists_registrable_iff, not_not] at hexists
      refine hexists.imp_right fun hlisted => ⟨hlisted.2, fun hblank => ?_⟩
      rw [registrable?_of_hasBlankLabel hlisted.2 hblank] at hnone
      cases hnone
  · rintro (hshort | ⟨hlisted, hblank⟩)
    · rw [registrable?_eq_parts, if_pos hshort]
    · have htwo := hlisted.length_eq (plainLabels_parts text)
      rw [registrable?_eq_parts, if_neg (by omega), if_neg (by omega),
        if_pos ((listed_withoutFinalDot_iff htwo).mpr ⟨hlisted, hblank⟩)]

/-- What is found in a text: the registrable domain of its parts, or a suffix with dots to spare. -/
theorem registrable?_eq_some_iff :
    registrable? text = some domain ↔
      ∃ labels, domain = ".".intercalate labels ∧
        (Registrable (parts text) labels ∨
          labels = parts text ∧ IsListed labels ∧ HasBlankLabel text) := by
  constructor
  · intro h
    by_cases hexists : ∃ labels, Registrable (parts text) labels
    · obtain ⟨labels, hlabels⟩ := hexists
      rw [registrable?_of_registrable hlabels] at h
      exact ⟨labels, (Option.some.inj h).symm, .inl hlabels⟩
    · rw [exists_registrable_iff, not_not] at hexists
      have hsome : ¬ ((parts text).length < 2 ∨ IsListed (parts text) ∧ ¬ HasBlankLabel text) := by
        rw [← registrable?_eq_none_iff, h]
        exact nofun
      rw [not_or, not_and, not_not] at hsome
      have hlisted := (hexists.resolve_left hsome.1).2
      have hblank := hsome.2 hlisted
      rw [registrable?_of_hasBlankLabel hlisted hblank] at h
      exact ⟨_, (Option.some.inj h).symm, .inr ⟨rfl, hlisted, hblank⟩⟩
  · rintro ⟨labels, rfl, h | ⟨rfl, hlisted, hblank⟩⟩
    · exact registrable?_of_registrable h
    · exact registrable?_of_hasBlankLabel hlisted hblank

/-- **A registrable domain is no suffix and its own registrable domain**, with the one exception. A
suffix comes out exactly when it is all there is in the text next to dots to spare, and then it has
no registrable domain itself. -/
theorem registrable?_mem_suffixes_iff (h : registrable? text = some domain) :
    (Text.lowerAscii domain ∈ multiLabelSuffixes ↔ HasBlankLabel text ∧ IsListed (parts text)) ∧
    (Text.lowerAscii domain ∈ multiLabelSuffixes →
      domain = ".".intercalate (parts text) ∧ registrable? domain = none) ∧
    (Text.lowerAscii domain ∉ multiLabelSuffixes → registrable? domain = some domain) := by
  have hplain := plainLabels_parts text
  obtain ⟨labels, rfl, hlabels | ⟨rfl, hlisted, hblank⟩⟩ := registrable?_eq_some_iff.mp h
  · have hkept := hlabels.plainLabels hplain
    have hself : registrable? (".".intercalate labels) = some (".".intercalate labels) := by
      refine registrable?_of_registrable ?_
      rw [hkept.parts hlabels.ne_nil]
      exact hlabels.self
    have hunlisted : ¬ IsListed labels := hlabels.not_isListed hplain
    -- Where the parts have a registrable domain, they are no listed suffix.
    have hnone : ¬ IsListed (parts text) := by
      intro hlisted
      exact exists_registrable_iff.mp ⟨labels, hlabels⟩ (.inr ⟨hlisted.length_eq hplain, hlisted⟩)
    exact ⟨iff_of_false hunlisted fun hboth => hnone hboth.2, fun hmem => absurd hmem hunlisted,
      fun _ => hself⟩
  · have hnone : registrable? (".".intercalate (parts text)) = none := by
      rw [registrable?_eq_none_iff, hplain.parts hlisted.ne_nil]
      exact .inr ⟨hlisted, hplain.not_hasBlankLabel hlisted.ne_nil⟩
    exact ⟨iff_of_true hlisted ⟨hblank, hlisted⟩, fun _ => ⟨rfl, hnone⟩,
      fun hmem => absurd hlisted hmem⟩

/-- A shop under a listed suffix, and the suffix by itself behind a dot too many. -/
theorem registrable?_mem_suffixes_iff_coUk :
    (registrable? "www..Shop.Co.UK." = some "Shop.Co.UK" ∧
      registrable? "Shop.Co.UK" = some "Shop.Co.UK") ∧
    (registrable? ".Co.UK" = some "Co.UK" ∧ registrable? "Co.UK" = none) := by
  have hshop : registrable? "www..Shop.Co.UK." = some "Shop.Co.UK" := by decide +kernel
  have hsuffix : registrable? ".Co.UK" = some "Co.UK" := by decide +kernel
  exact ⟨⟨hshop, (registrable?_mem_suffixes_iff hshop).2.2 (by decide)⟩,
    hsuffix, ((registrable?_mem_suffixes_iff hsuffix).2.1 (by decide)).2⟩

/-- One dot in front is enough to have a suffix for a domain. -/
theorem registrable?_dot_coUk :
    registrable? ".co.uk" = some "co.uk" ∧ "co.uk" ∈ multiLabelSuffixes ∧
    registrable? "co.uk" = none ∧ ¬ ∀ text domain : String, registrable? text = some domain →
        Text.lowerAscii domain ∉ multiLabelSuffixes ∧ registrable? domain = some domain := by
  have hfound : registrable? ".co.uk" = some "co.uk" := by decide +kernel
  exact ⟨hfound, by decide, by decide +kernel, fun h => (h ".co.uk" "co.uk" hfound).1 (by decide)⟩

/-! ### The registrable domain of a name -/

variable {name : Name}

theorem plainLabels_of_labelsValid (hvalid : name.LabelsValid) (hdotless : name.Dotless) :
    PlainLabels name.labels := by
  intro label hlabel
  refine ⟨?_, hdotless label hlabel⟩
  rintro rfl
  exact absurd (hvalid "" hlabel).1 (by decide)

/-- The parts of the text of a name are what its labels are divided into. -/
theorem parts_fqdn_eq (name : Name) : parts name.fqdn = name.split.labels.filter (· ≠ "") := by
  by_cases hne : name.labels = []
  · rw [Name.fqdn, if_pos hne, Name.labels_split_eq_nil_iff.mpr hne]
    decide
  · have hsplit := mt Name.labels_split_eq_nil_iff.mp hne
    rw [← Name.fqdn_split, parts, Name.withoutFinalDot_fqdn hsplit,
      Name.betweenDots_joined hsplit name.dotless_split]

theorem PlainLabels.parts_fqdn_append (h : PlainLabels labels) (front : List String) :
    HostName.parts (⟨front ++ labels⟩ : Name).fqdn =
    HostName.parts (⟨front⟩ : Name).fqdn ++ labels := by
  have hsplit : labels.flatMap Text.betweenDots = labels :=
    congrArg Name.labels (@Name.split_of_dotless ⟨labels⟩ fun label hlabel => (h label hlabel).2)
  have hkept : labels.filter (· ≠ "") = labels :=
    List.filter_eq_self.mpr fun label hlabel => decide_eq_true (h label hlabel).1
  rw [parts_fqdn_eq, parts_fqdn_eq, Name.split, Name.split, List.flatMap_append, List.filter_append,
    hsplit, hkept]

theorem PlainLabels.parts_fqdn (h : PlainLabels name.labels) :
    HostName.parts name.fqdn = name.labels :=
  h.parts_fqdn_append []

theorem PlainLabels.not_hasBlankLabel_fqdn (h : PlainLabels name.labels) (hne : name.labels ≠ []) :
    ¬ HasBlankLabel name.fqdn := by
  rw [HasBlankLabel, Name.withoutFinalDot_fqdn hne,
    Name.betweenDots_joined hne fun label hlabel => (h label hlabel).2]
  exact fun hblank => (h "" hblank).1 rfl

/-- The registrable domain of a name is that of its labels. -/
theorem registrable?_fqdn_eq_some_iff (h : PlainLabels name.labels) :
    registrable? name.fqdn = some text ↔
    ∃ labels, text = ".".intercalate labels ∧ Registrable name.labels labels := by
  rw [registrable?_eq_some_iff, h.parts_fqdn]
  refine exists_congr fun labels => and_congr_right fun _ => or_iff_left ?_
  rintro ⟨rfl, hlisted, hblank⟩
  exact h.not_hasBlankLabel_fqdn hlisted.ne_nil hblank

theorem registrable?_fqdn_eq_none_iff (h : PlainLabels name.labels) :
    registrable? name.fqdn = none ↔
    name.labels.length < 2 ∨ name.labels.length = 2 ∧ IsListed name.labels := by
  rw [← not_iff_not, ← exists_registrable_iff, ← Ne, Option.ne_none_iff_exists']
  simp only [registrable?_fqdn_eq_some_iff h]
  exact ⟨fun ⟨_, labels, _, hlabels⟩ => ⟨labels, hlabels⟩,
    fun ⟨labels, hlabels⟩ => ⟨_, labels, rfl, hlabels⟩⟩

/-- Every host below a name has its registrable domain, whatever the labels in front are. -/
theorem registrable?_fqdn_append (h : PlainLabels name.labels)
    (htext : registrable? name.fqdn = some text) (front : List String) :
    registrable? (⟨front ++ name.labels⟩ : Name).fqdn = some text := by
  obtain ⟨labels, rfl, hlabels⟩ := (registrable?_fqdn_eq_some_iff h).mp htext
  refine registrable?_of_registrable ?_
  rw [h.parts_fqdn_append front]
  exact hlabels.append _

/-- A registrable domain has few labels, so it can be read as a name. -/
theorem Registrable.parse (h : Registrable name.labels labels) (hvalid : name.LabelsValid)
    (hdotless : name.Dotless) : Name.parse (".".intercalate labels) = .ok ⟨labels⟩ := by
  have hlabels : ∀ label ∈ labels, Label.Valid label :=
    fun label hlabel => hvalid label (h.suffix.subset hlabel)
  have hlength : Name.labelsLength labels + 1 ≤ Name.maxLength := by
    have hshort := Name.labelsLength_le fun label hlabel => (hlabels label hlabel).2
    have hthree := h.length_le
    rw [Name.maxLength]
    omega
  rw [intercalate_dot]
  exact Name.parse_joined h.ne_nil ⟨hlabels, hlength⟩ fun label hlabel =>
    hdotless label (h.suffix.subset hlabel)

/-- A registrable domain can be read as a name. -/
theorem exists_parse_of_registrable? (hvalid : name.LabelsValid) (hdotless : name.Dotless)
    (h : registrable? name.fqdn = some text) : ∃ owner, Name.parse text = .ok owner := by
  obtain ⟨labels, rfl, hlabels⟩ :=
    (registrable?_fqdn_eq_some_iff (plainLabels_of_labelsValid hvalid hdotless)).mp h
  exact ⟨_, hlabels.parse hvalid hdotless⟩

end HostName

/-- The name of a target that was accepted is valid and has no dots in its labels. -/
theorem Config.valid_dotless_of_domainName? {toAscii : String → Option String} {written : String}
    {name : Name} (h : domainName? toAscii written = some name) : name.Valid ∧ name.Dotless := by
  obtain ⟨ascii, -, hparse⟩ := Option.bind_eq_some_iff.mp h
  exact Name.valid_dotless_of_parse (toOption_eq_some_iff.mp hparse)

end DnsHealth
