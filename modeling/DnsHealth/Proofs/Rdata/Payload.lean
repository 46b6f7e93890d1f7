import DnsHealth.Proofs.Message.Counts
import DnsHealth.Proofs.Name.Split
import DnsHealth.Proofs.Rdata.Canonical
import DnsHealth.Proofs.Text.Digits
import DnsHealth.Rdata.Presentation

/-!
# What an answer tells about its names

In an answer the names are shown with a dot behind every label. On the wire a label may hold dots as
well, and these are written as they are, so names that divide the same text differently look alike:
`["a.b"]` and `["a", "b"]` are both `a.b.`. A name is known from its text up to such divisions
(`Name.fqdn_eq_iff`), and with it the data of the types that are shown as names with numbers beside
them (`Rdata.payload?_eq_iff`), because numbers can be told from what surrounds them. The start of a
zone of authority is shown with two names behind each other, and the first is taken to end at the
first space behind a dot, which a label can hold, too.
-/

namespace DnsHealth

/-! ### Fields with a separator between them -/

section

variable {α : Type} {separator : α} {front front' rest rest' : List α}

/-- A list is divided at a separator in two ways only when one of them has the separator once more,
in front of it and behind the other. -/
theorem separated_cases (h : front ++ separator :: rest = front' ++ separator :: rest') :
    (front = front' ∧ rest = rest') ∨
      (∃ between, front' = front ++ separator :: between ∧ rest = between ++ separator :: rest') ∨
      (∃ between, front = front' ++ separator :: between ∧
        rest' = between ++ separator :: rest) := by
  rcases List.append_eq_append_iff.mp h with ⟨more, hfront, hrest⟩ | ⟨more, hfront, hrest⟩
  · cases more with
    | nil => exact .inl ⟨by simpa using hfront.symm, (List.cons.inj hrest).2⟩
    | cons c between =>
        obtain ⟨rfl, hbehind⟩ := List.cons.inj hrest
        exact .inr (.inl ⟨between, hfront, hbehind⟩)
  · cases more with
    | nil => exact .inl ⟨by simpa using hfront, (List.cons.inj hrest).2.symm⟩
    | cons c between =>
        obtain ⟨rfl, hbehind⟩ := List.cons.inj hrest
        exact .inr (.inr ⟨between, hfront, hbehind⟩)

/-- The first separator ends a front that holds none. -/
theorem separated_front_inj (hfront : separator ∉ front) (hfront' : separator ∉ front')
    (h : front ++ separator :: rest = front' ++ separator :: rest') :
    front = front' ∧ rest = rest' := by
  rcases separated_cases h with h | ⟨between, rfl, -⟩ | ⟨between, rfl, -⟩
  · exact h
  · simp at hfront'
  · simp at hfront

/-- Behind the last separator stands a rest that holds none. -/
theorem separated_rest_inj (hrest : separator ∉ rest) (hrest' : separator ∉ rest')
    (h : front ++ separator :: rest = front' ++ separator :: rest') :
    front = front' ∧ rest = rest' := by
  rcases separated_cases h with h | ⟨between, -, rfl⟩ | ⟨between, -, rfl⟩
  · exact h
  · simp at hrest
  · simp at hrest'

end

namespace Text

theorem decimal_inj {m n : Nat} (h : (toString m).toList = (toString n).toList) : m = n := by
  simp only [Nat.toString_eq_ofList_toDigits, String.toList_ofList] at h
  exact toDigits_inj.mp h

/-- A number in front ends at the first character that is no digit. -/
theorem decimal_front_inj {c : Char} (hc : c.isDigit = false) {m n : Nat} {rest rest' : List Char}
    (h : (toString m).toList ++ c :: rest = (toString n).toList ++ c :: rest') :
    m = n ∧ rest = rest' := by
  obtain ⟨hnumber, hrest⟩ := separated_front_inj (notMem_decimal hc m) (notMem_decimal hc n) h
  exact ⟨decimal_inj hnumber, hrest⟩

/-- A number at the end begins behind the last character that is no digit. -/
theorem decimal_rest_inj {c : Char} (hc : c.isDigit = false) {m n : Nat} {front front' : List Char}
    (h : front ++ c :: (toString m).toList = front' ++ c :: (toString n).toList) :
    front = front' ∧ m = n := by
  obtain ⟨hfront, hnumber⟩ := separated_rest_inj (notMem_decimal hc m) (notMem_decimal hc n) h
  exact ⟨hfront, decimal_inj hnumber⟩

theorem toList_append_space (a b : String) :
    (a ++ " " ++ b).toList = a.toList ++ ' ' :: b.toList := by
  rw [String.toList_append, String.toList_append, List.append_assoc]
  rfl

end Text

/-! ### Two names behind each other -/

namespace Name

variable {a b : Name}

/-- No space stands behind a dot in the text of the name, so that the text ends where it looks as if
it did. -/
def Unspaced (name : Name) : Prop :=
  ¬ ['.', ' '] <:+: name.fqdn.toList

instance (name : Name) : Decidable name.Unspaced :=
  inferInstanceAs (Decidable (¬ _))

/-- Labels without spaces are enough for that. -/
theorem unspaced_of_labels {name : Name} (h : ∀ label ∈ name.labels, ' ' ∉ label.toList) :
    name.Unspaced := by
  intro hspaced
  have hmem : ' ' ∈ name.fqdn.toList := hspaced.mem (by simp)
  rw [fqdn] at hmem
  split at hmem
  case _ => exact absurd hmem (by decide)
  case _ =>
      rw [String.toList_ofList] at hmem
      obtain ⟨label, hlabel, hmem⟩ := List.mem_flatMap.mp hmem
      exact h label hlabel (by simpa using hmem)

theorem exists_fqdn_eq (name : Name) : ∃ front, name.fqdn.toList = front ++ ['.'] := by
  by_cases hne : name.labels = []
  · exact ⟨[], by rw [fqdn, if_pos hne]; rfl⟩
  · exact ⟨_, by rw [fqdn_eq hne, String.toList_append]; rfl⟩

/-- The text goes on behind a name and a space only with a space behind a dot. -/
theorem not_unspaced {name longer : Name} {between : List Char}
    (h : longer.fqdn.toList = name.fqdn.toList ++ ' ' :: between) : ¬ longer.Unspaced := by
  obtain ⟨front, hfront⟩ := exists_fqdn_eq name
  refine not_not_intro ⟨front, between, ?_⟩
  rw [h, hfront, List.append_assoc, List.append_assoc]
  rfl

theorem Unspaced.fqdn_inj (ha : a.Unspaced) (hb : b.Unspaced) {rest rest' : List Char}
    (h : a.fqdn.toList ++ ' ' :: rest = b.fqdn.toList ++ ' ' :: rest') :
    a.fqdn = b.fqdn ∧ rest = rest' := by
  rcases separated_cases h with ⟨hname, hrest⟩ | ⟨between, hlonger, -⟩ | ⟨between, hlonger, -⟩
  · exact ⟨String.toList_inj.mp hname, hrest⟩
  · exact absurd hb (not_unspaced hlonger)
  · exact absurd ha (not_unspaced hlonger)

/-- Some message has the name in it. -/
def Received (name : Name) : Prop :=
  ∃ message offset stop, Decoder.name message offset = (.ok name, stop)

theorem received_iff {name : Name} : name.Received ↔ name.Valid := by
  constructor
  · rintro ⟨message, offset, stop, h⟩
    exact Decoder.Yields.name message offset name stop h
  · intro h
    exact ⟨_, 0, _, Decoder.Reads.name h (HoldsAt.whole name.wire)⟩

end Name

/-! ### Data that is shown as names -/

namespace Rdata

variable {x y value : Rdata} {type : RecordType}

/-- Some message has the data in it, in a record of the type. -/
def Received (type : RecordType) (value : Rdata) : Prop :=
  ∃ message length offset stop, decoder type length message offset = (.ok value, stop)

theorem received_iff : Received type value ↔ value.type = type ∧ value.WellFormed := by
  constructor
  · rintro ⟨message, length, offset, stop, h⟩
    obtain ⟨htype, hwell, -⟩ := Decoder.Yields.rdata message offset value stop h
    exact ⟨htype, hwell⟩
  · rintro ⟨rfl, h⟩
    exact ⟨_, _, 0, _, Decoder.Reads.rdata h rfl (HoldsAt.whole value.wire)⟩

/-- The types whose data is shown as names, for some of them with numbers beside the names. -/
def hostTypes : List RecordType :=
  [.cname, .ns, .ptr, .mx, .soa, .srv]

/-- Data of one of these types, twice. -/
inductive Comparable : Rdata → Rdata → Prop
  | cname (a b : Name) : Comparable (.cname a) (.cname b)
  | ns (a b : Name) : Comparable (.ns a) (.ns b)
  | ptr (a b : Name) : Comparable (.ptr a) (.ptr b)
  | mx (p q : UInt16) (a b : Name) : Comparable (.mx p a) (.mx q b)
  | soa (y z : Soa) : Comparable (.soa y) (.soa z)
  | srv (s t : Srv) : Comparable (.srv s) (.srv t)

theorem Received.comparable (hx : Received type x) (hy : Received type y)
    (htype : type ∈ hostTypes) : Comparable x y := by
  obtain ⟨rfl, hwell⟩ := received_iff.mp hx
  obtain ⟨hsame, hwell'⟩ := received_iff.mp hy
  -- Octets without an interpretation are never read under one of these types.
  have hinterpreted : ∀ type ∈ hostTypes, type ∈ RecordType.interpreted := by decide
  cases x with
  | cname | ns | ptr | mx | soa | srv =>
      cases y with
      | cname | ns | ptr | mx | soa | srv =>
          first
          | constructor
          | exact absurd hsame (by simp only [Rdata.type]; decide)
      | a | aaaa | txt | spf | ds | dnskey | rrsig =>
          exact absurd hsame (by simp only [Rdata.type]; decide)
      | unknown other data =>
          rw [← hsame] at htype
          exact absurd (hinterpreted other htype) hwell'
  | a | aaaa | txt | spf | ds | dnskey | rrsig =>
      exact absurd htype (by simp only [Rdata.type]; decide)
  | unknown other data => exact absurd (hinterpreted other htype) hwell

/-! ### Changing the names -/

theorem names_mapNames (f : Name → Name) (value : Rdata) :
    (value.mapNames f).names = value.names.map f := by
  cases value <;> rfl

theorem mapNames_eq_self {f : Name → Name} (h : ∀ name ∈ value.names, f name = name) :
    value.mapNames f = value := by
  cases value <;> simp_all [mapNames, names]

theorem Comparable.mapNames (h : Comparable x y) (f : Name → Name) :
    Comparable (x.mapNames f) (y.mapNames f) := by
  cases h <;> constructor

/-- Names are shown, and so nothing changes where they are divided at dots. -/
theorem payload?_mapNames_split (value : Rdata) :
    (value.mapNames Name.split).payload? = value.payload? := by
  cases value <;> simp only [mapNames, payload?, presentation, Name.fqdn_split]

/-! ### Reading an answer -/

/-- The name of the primary server ends at the first space behind a dot. -/
def Separable : Rdata → Prop
  | .soa zone => zone.mname.Unspaced
  | _ => True

theorem separable_mapNames_split : (value.mapNames Name.split).Separable ↔ value.Separable := by
  cases value with
  | soa zone => simp only [mapNames, Separable, Name.Unspaced, Name.fqdn_split]
  | _ => exact Iff.rfl

theorem toList_payload?_mx (preference : UInt16) (exchange : Name) :
    (mx preference exchange).payload?.map String.toList =
      some ('(' :: ((toString preference.toNat).toList ++ ')' :: ' ' :: exchange.fqdn.toList)) := by
  have htext : (mx preference exchange).payload? =
      some ("(" ++ toString preference.toNat ++ ") " ++ exchange.fqdn) := rfl
  rw [htext, Option.map_some, String.toList_append, String.toList_append, String.toList_append,
    List.append_assoc]
  rfl

theorem toList_presentation_srv (service : Srv) :
    (srv service).presentation.toList =
      (toString service.priority.toNat).toList ++ ' ' :: ((toString service.weight.toNat).toList ++
        ' ' :: ((toString service.port.toNat).toList ++ ' ' :: service.target.fqdn.toList)) := by
  have htext : (srv service).presentation =
      toString service.priority.toNat ++ " " ++ toString service.weight.toNat ++ " " ++
        toString service.port.toNat ++ " " ++ service.target.fqdn := rfl
  simp only [htext, Text.toList_append_space, List.append_assoc, List.cons_append]

/-- The fields of a zone are counted from the end, where the numbers are. -/
theorem toList_presentation_soa (zone : Soa) :
    (soa zone).presentation.toList =
      (((((zone.mname.fqdn.toList ++ ' ' :: zone.rname.fqdn.toList) ++
        ' ' :: (toString zone.serial.toNat).toList) ++ ' ' ::
        (toString zone.refresh.toNat).toList) ++
        ' ' :: (toString zone.retry.toNat).toList) ++ ' ' :: (toString zone.expire.toNat).toList) ++
        ' ' :: (toString zone.minimum.toNat).toList := by
  have htext : (soa zone).presentation =
      zone.mname.fqdn ++ " " ++ zone.rname.fqdn ++ " " ++ toString zone.serial.toNat ++ " " ++
        toString zone.refresh.toNat ++ " " ++ toString zone.retry.toNat ++ " " ++
        toString zone.expire.toNat ++ " " ++ toString zone.minimum.toNat := rfl
  simp only [htext, Text.toList_append_space]

/-- Legible names can be told from the answer, and so can the numbers. -/
theorem Comparable.eq_of_payload? (h : Comparable x y) (hx : ∀ name ∈ x.names, name.Legible)
    (hy : ∀ name ∈ y.names, name.Legible) (hxs : x.Separable) (hys : y.Separable)
    (heq : x.payload? = y.payload?) : x = y := by
  cases h with
  | cname a b | ns a b | ptr a b =>
      have hname :=
        (hx a List.mem_cons_self).fqdn_inj (hy b List.mem_cons_self) (Option.some.inj heq)
      rw [hname]
  | mx p q a b =>
      have htext := congrArg (Option.map String.toList) heq
      rw [toList_payload?_mx, toList_payload?_mx] at htext
      obtain ⟨-, hfields⟩ := List.cons.inj (Option.some.inj htext)
      obtain ⟨hpreference, hrest⟩ := Text.decimal_front_inj (by decide) hfields
      have hname := (hx a List.mem_cons_self).fqdn_inj (hy b List.mem_cons_self)
        (String.toList_inj.mp (List.cons.inj hrest).2)
      rw [UInt16.toNat_inj.mp hpreference, hname]
  | srv s t =>
      have htext := congrArg String.toList (Option.some.inj heq)
      rw [toList_presentation_srv, toList_presentation_srv] at htext
      obtain ⟨hpriority, htext⟩ := Text.decimal_front_inj (by decide) htext
      obtain ⟨hweight, htext⟩ := Text.decimal_front_inj (by decide) htext
      obtain ⟨hport, htext⟩ := Text.decimal_front_inj (by decide) htext
      have htarget := (hx s.target List.mem_cons_self).fqdn_inj (hy t.target List.mem_cons_self)
        (String.toList_inj.mp htext)
      cases s
      cases t
      simp_all only [UInt16.toNat_inj]
  | soa y z =>
      have htext := congrArg String.toList (Option.some.inj heq)
      rw [toList_presentation_soa, toList_presentation_soa] at htext
      -- The second name may hold spaces, so the numbers are taken off from the end.
      obtain ⟨htext, hminimum⟩ := Text.decimal_rest_inj (by decide) htext
      obtain ⟨htext, hexpire⟩ := Text.decimal_rest_inj (by decide) htext
      obtain ⟨htext, hretry⟩ := Text.decimal_rest_inj (by decide) htext
      obtain ⟨htext, hrefresh⟩ := Text.decimal_rest_inj (by decide) htext
      obtain ⟨htext, hserial⟩ := Text.decimal_rest_inj (by decide) htext
      obtain ⟨hfirst, hsecond⟩ := Name.Unspaced.fqdn_inj hxs hys htext
      have hmname := (hx y.mname List.mem_cons_self).fqdn_inj (hy z.mname List.mem_cons_self) hfirst
      have hrname := (hx y.rname (by simp [names])).fqdn_inj (hy z.rname (by simp [names]))
        (String.toList_inj.mp hsecond)
      cases y
      cases z
      simp_all only [UInt32.toNat_inj]

theorem legible_of_mem_names_split (h : Received type value) :
    ∀ name ∈ (value.mapNames Name.split).names, name.Legible := by
  intro name hname
  rw [names_mapNames] at hname
  obtain ⟨received, hreceived, rfl⟩ := List.mem_map.mp hname
  obtain ⟨-, hwell⟩ := received_iff.mp h
  exact Name.LabelsValid.legible_split (hwell.valid_of_mem_names received hreceived).1

theorem payload?_eq_iff_mapNames (htype : type ∈ hostTypes) (hx : Received type x)
    (hy : Received type y) (hxs : x.Separable) (hys : y.Separable) :
    x.payload? = y.payload? ↔ x.mapNames Name.split = y.mapNames Name.split := by
  rw [← payload?_mapNames_split x, ← payload?_mapNames_split y]
  refine ⟨fun h => ?_, congrArg payload?⟩
  have hcomparable := (hx.comparable hy htype).mapNames Name.split
  exact hcomparable.eq_of_payload? (legible_of_mem_names_split hx) (legible_of_mem_names_split hy)
    (separable_mapNames_split.mpr hxs) (separable_mapNames_split.mpr hys) h

/-- **Answers tell their names up to the dots in labels.** Two data of one type that is shown as
names make the same answer exactly when they are the same once the labels in them are divided at
their dots; for the start of a zone of authority this asks that no space stands behind a dot in the
name of the primary server. It comes from the same being true of the texts of any two names that a
message can have in it. Names without dots in their labels, and data with such names, are therefore
known from their text. -/
theorem payload?_eq_iff (htype : type ∈ hostTypes) (hx : Received type x) (hy : Received type y)
    (hxs : x.Separable) (hys : y.Separable) :
    (∀ a b : Name, a.Received → b.Received →
      (a.fqdn = b.fqdn ↔ a.split = b.split) ∧ (a.Dotless → b.Dotless → (a.fqdn = b.fqdn ↔ a = b))) ∧
    (x.payload? = y.payload? ↔ x.mapNames Name.split = y.mapNames Name.split) ∧
    ((∀ name ∈ x.names ++ y.names, name.Dotless) → (x.payload? = y.payload? ↔ x = y)) := by
  have hiff := payload?_eq_iff_mapNames htype hx hy hxs hys
  refine ⟨fun a b ha hb => ?_, hiff, fun hdotless => ?_⟩
  · have hname := Name.fqdn_eq_iff (Name.received_iff.mp ha).1 (Name.received_iff.mp hb).1
    refine ⟨hname, fun hda hdb => ?_⟩
    rw [hname, Name.split_of_dotless hda, Name.split_of_dotless hdb]
  · have hsplit : ∀ name ∈ x.names ++ y.names, name.split = name :=
      fun name hname => Name.split_of_dotless (hdotless name hname)
    rw [hiff, mapNames_eq_self fun name hname => hsplit name (List.mem_append_left _ hname),
      mapNames_eq_self fun name hname => hsplit name (List.mem_append_right _ hname)]

/-- Starts of authority of two primary servers that an answer does not tell apart, and of two that
it does. -/
theorem payload?_eq_iff_primaries :
    let start (mname : Name) : Rdata :=
      .soa
        { mname, rname := ⟨["admin", "example"]⟩
          serial := 7, refresh := 1, retry := 1, expire := 1, minimum := 1 }
    (start ⟨["ns.example"]⟩).payload? = (start ⟨["ns", "example"]⟩).payload? ∧
      (start ⟨["ns", "example"]⟩).payload? ≠ (start ⟨["ns", "Example"]⟩).payload? := by
  intro start
  have hrname : (⟨["admin", "example"]⟩ : Name).Valid := by decide
  have hreceived : ∀ mname : Name, mname.Valid → Received .soa (start mname) :=
    fun mname h => received_iff.mpr ⟨rfl, h, hrname⟩
  have hseparable : ∀ mname : Name, (∀ label ∈ mname.labels, ' ' ∉ label.toList) →
      (start mname).Separable :=
    fun mname h => Name.unspaced_of_labels h
  obtain ⟨-, hsame, -⟩ := payload?_eq_iff (by decide) (hreceived ⟨["ns.example"]⟩ (by decide))
    (hreceived ⟨["ns", "example"]⟩ (by decide)) (hseparable _ (by decide))
    (hseparable _ (by decide))
  obtain ⟨-, hother, -⟩ := payload?_eq_iff (by decide) (hreceived ⟨["ns", "example"]⟩ (by decide))
    (hreceived ⟨["ns", "Example"]⟩ (by decide)) (hseparable _ (by decide))
    (hseparable _ (by decide))
  exact ⟨hsame.mpr (by decide), mt hother.mp (by decide)⟩

/-- A name with a dot in a label has the text of another name, and a name server of that name makes
the same answer as the other. Two starts of authority make the same answer also without such dots,
when labels begin with a space. -/
theorem payload?_ambiguous :
    (¬ ∀ a b : Name, a.Received → b.Received → a.fqdn = b.fqdn → a = b) ∧
      (¬ ∀ type ∈ hostTypes, ∀ x y : Rdata, Received type x → Received type y →
        x.payload? = y.payload? → x = y) ∧
      ¬ ∀ x y : Rdata, Received .soa x → Received .soa y →
        (∀ name ∈ x.names ++ y.names, name.Dotless) → x.payload? = y.payload? → x = y := by
  refine ⟨fun h => ?_, fun h => ?_, fun h => ?_⟩
  · have :=
      h ⟨["a.b"]⟩ ⟨["a", "b"]⟩ (Name.received_iff.mpr (by decide))
      (Name.received_iff.mpr (by decide)) (by decide)
    exact absurd this (by decide)
  · have := h .ns (by decide) (.ns ⟨["a.b"]⟩) (.ns ⟨["a", "b"]⟩) (received_iff.mpr (by decide))
      (received_iff.mpr (by decide)) (by decide)
    exact absurd this (by decide)
  · have :=
      h (.soa ⟨⟨["a"]⟩, ⟨["b", " c"]⟩, 1, 2, 3, 4, 5⟩)
      (.soa ⟨⟨["a", " b"]⟩, ⟨["c"]⟩, 1, 2, 3, 4, 5⟩)
      (received_iff.mpr (by decide)) (received_iff.mpr (by decide)) (by decide) (by decide)
    exact absurd this (by decide)

end Rdata

end DnsHealth
