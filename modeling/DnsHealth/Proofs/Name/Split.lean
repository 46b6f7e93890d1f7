import DnsHealth.Proofs.Name.Parse
import Mathlib.Data.List.Basic

/-!
# Names with the same text

In the text of a name a dot stands behind every label, and a dot inside a label is written as it is.
So the text tells a name up to dividing its labels at the dots in them: `Name.split` does this to
every label, it changes nothing about the text (`Name.fqdn_split`), and names have the same text
exactly when they are the same once divided (`Name.fqdn_eq_iff`).
-/

namespace DnsHealth

theorem Text.betweenDots_of_notMem {text : String} (h : '.' ∉ text.toList) :
    betweenDots text = [text] := by
  have hsplit : text.toList.splitOn '.' = [text.toList] := by
    have hjoined := HostName.splitOn_joined (List.cons_ne_nil text.toList []) (by simpa using h)
    rwa [HostName.joined_singleton] at hjoined
  rw [betweenDots, hsplit, List.map_singleton, String.ofList_toList]

namespace Name

variable {a b name : Name}

/-- The name with its labels divided at the dots in them. -/
def split (name : Name) : Name :=
  ⟨name.labels.flatMap Text.betweenDots⟩

/-- A name that is not mistaken for another: no label holds a dot, and there is not just one label
without characters, which would be written as the root is. -/
structure Legible (name : Name) : Prop where
  dotless : name.Dotless
  notBlank : name.labels ≠ [""]

theorem flatMap_betweenDots (label : String) :
    ((Text.betweenDots label).flatMap fun part => part.toList ++ ['.']) =
      label.toList ++ ['.'] := by
  have hflat := HostName.flatMap_append_dot (pieces_ne_nil (labels_betweenDots_ne_nil label))
  rwa [joined_betweenDots, pieces, List.flatMap_map] at hflat

theorem labels_split_eq_nil_iff : name.split.labels = [] ↔ name.labels = [] := by
  cases hlabels : name.labels with
  | nil => simp only [split, hlabels, List.flatMap_nil]
  | cons label rest => simp [split, hlabels, Text.betweenDots_ne_nil]

/-- Divided or not, the dots are written as they are. -/
theorem fqdn_split (name : Name) : name.split.fqdn = name.fqdn := by
  by_cases hne : name.labels = []
  · rw [fqdn, fqdn, if_pos hne, if_pos (labels_split_eq_nil_iff.mpr hne)]
  · rw [fqdn, fqdn, if_neg hne, if_neg (mt labels_split_eq_nil_iff.mp hne), split,
      List.flatMap_assoc]
    simp only [flatMap_betweenDots]

theorem dotless_split (name : Name) : name.split.Dotless := by
  intro part hpart
  obtain ⟨label, -, hpart⟩ := List.mem_flatMap.mp hpart
  exact Text.dotless_of_mem_betweenDots hpart

theorem split_of_dotless (h : name.Dotless) : name.split = name := by
  have hparts : name.labels.flatMap Text.betweenDots = name.labels.flatMap fun label => [label] :=
    List.flatMap_congr fun label hlabel => Text.betweenDots_of_notMem (h label hlabel)
  rw [split, hparts, List.flatMap_singleton']

/-- A legible name is read off its text. -/
theorem Legible.labels_eq (h : name.Legible) :
    name.labels = if name.fqdn = "." then []
    else Text.betweenDots (Text.withoutFinalDot name.fqdn) := by
  by_cases hne : name.labels = []
  · rw [if_pos (by rw [fqdn, if_pos hne]), hne]
  · have hlabels := betweenDots_joined hne h.dotless
    have hbody := withoutFinalDot_fqdn hne
    have hdot : name.fqdn ≠ "." := by
      -- Between the dots of a lone dot stands one part without characters.
      intro hdot
      rw [← hbody, hdot] at hlabels
      exact h.notBlank (hlabels.symm.trans (by decide))
    rw [if_neg hdot, hbody, hlabels]

theorem Legible.fqdn_inj (ha : a.Legible) (hb : b.Legible) (h : a.fqdn = b.fqdn) : a = b := by
  have hlabels : a.labels = b.labels := by rw [ha.labels_eq, hb.labels_eq, h]
  cases a
  cases b
  exact congrArg Name.mk hlabels

theorem LabelsValid.legible_split (h : name.LabelsValid) : name.split.Legible := by
  refine ⟨name.dotless_split, fun hblank => ?_⟩
  have hne : name.labels ≠ [] := by
    intro hnil
    rw [labels_split_eq_nil_iff.mpr hnil] at hblank
    exact nomatch hblank
  refine fqdn_ne_dot h hne ?_
  rw [← fqdn_split, fqdn, hblank]
  decide

/-- Two names have the same text exactly when they are the same once their labels are divided at the
dots in them. -/
theorem fqdn_eq_iff (ha : a.LabelsValid) (hb : b.LabelsValid) :
    a.fqdn = b.fqdn ↔ a.split = b.split := by
  rw [← fqdn_split a, ← fqdn_split b]
  exact ⟨ha.legible_split.fqdn_inj hb.legible_split, congrArg fqdn⟩

end Name

end DnsHealth
