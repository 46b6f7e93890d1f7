import DnsHealth.Proofs.Name.Case
import DnsHealth.Proofs.Name.Parse
import DnsHealth.Proofs.Name.Reverse

/-!
# The address of a reverse name

`Name.reverseAddress?` reads a reverse name back. The last two labels tell the family, and those in
front of them, from back to front, are the octets of the address: each in decimal, or each as two
hexadecimal digits with the high one first. No other name than the reverse name of an address is
read as the address, letter case apart (`Name.reverseAddress?_eq_some_iff`). So an address can be
told from its reverse name.

On either side of the equivalence stands a list of labels in small letters, from back to front
(`Name.backLabels`).
-/

namespace DnsHealth

/-- An octet is read from its digits and from nothing else. -/
theorem Ipv4.octet?_eq_some_iff {digits : List Char} {octet : UInt8} :
    octet? digits = some octet ↔ digits = (toString octet.toNat).toList := by
  rw [Nat.toString_eq_ofList_toDigits, String.toList_ofList]
  have hvalue : ((Text.decimal? digits).filter (· < 256)).map UInt8.ofNat = some octet ↔
      Text.decimal? digits = some octet.toNat := by
    simp only [Option.map_eq_some_iff, Option.filter_eq_some_iff, decide_eq_true_eq]
    constructor
    · rintro ⟨n, ⟨hn, hlt⟩, rfl⟩
      rw [hn, UInt8.toNat_ofNat_of_lt' hlt]
    · intro h
      exact ⟨octet.toNat, ⟨h, octet.toNat_lt⟩, UInt8.ofNat_toNat⟩
  unfold octet?
  split
  case _ second rest =>
      -- A zero in front makes the number zero, which has no further digits.
      refine iff_of_false nofun fun h => ?_
      have hzero := Text.head?_toDigits_eq_zero_iff.mp (congrArg List.head? h.symm)
      rw [hzero, Nat.toDigits_zero] at h
      exact nomatch (List.cons.inj h).2
  case _ hother =>
      rw [hvalue]
      cases digits with
      | nil => exact iff_of_false nofun fun h => Nat.toDigits_ne_nil h.symm
      | cons c cs =>
          refine Text.decimal?_eq_some_iff ?_
          cases cs with
          | nil => exact .inr rfl
          | cons second rest => exact .inl fun hzero => hother second rest (by rw [hzero])

namespace Name

variable {name : Name} {address : Address} {labels : List String} {label : String} {octets : Bytes}
  {octet : UInt8}

/-! ### Reading labels -/

/-- The octets that decimal labels stand for. -/
def decimalOctets? (labels : List String) : Option Bytes :=
  labels.mapM fun label => Ipv4.octet? label.toList

/-- The value of a label of one hexadecimal digit. -/
def nibble? (label : String) : Option Nat :=
  match label.toList with
  | [digit] => Text.hexValue? digit
  | _ => none

/-- The octets that labels of one hexadecimal digit stand for. Of each octet the high digit comes
before the low one. -/
def nibbleOctets? : List String → Option Bytes
  | [] => some []
  | [_] => none
  | high :: low :: rest => do
    let h ← nibble? high
    let l ← nibble? low
    let octets ← nibbleOctets? rest
    some (UInt8.ofNat (h * 16 + l) :: octets)

/-- As many octets as an address has to have. -/
def exactly? (count : Nat) (octets : Bytes) : Option (Vector UInt8 count) :=
  if h : octets.length = count then some ⟨octets.toArray, h⟩ else none

/-- The address that a reverse name stands for. The last two labels tell the family; the labels in
front of them are read back to front, and have to be those of as many octets as an address of the
family has. -/
def reverseAddress? (name : Name) : Option Address :=
  match name.labels.reverse with
  | top :: family :: labels =>
    if top.toLower = "arpa" ∧ family.toLower = "in-addr" then
      ((decimalOctets? labels).bind (exactly? 4)).map .v4
    else if top.toLower = "arpa" ∧ family.toLower = "ip6" then
      ((nibbleOctets? labels).bind (exactly? 16)).map .v6
    else none
  | _ => none

theorem bind_exactly?_eq_some_iff {count : Nat} {read : Option Bytes} {v : Vector UInt8 count} :
    read.bind (exactly? count) = some v ↔ read = some v.toList := by
  have hexactly : ∀ octets, exactly? count octets = some v ↔ octets = v.toList := by
    intro octets
    unfold exactly?
    split
    case _ h =>
        rw [Option.some.injEq, ← Vector.toList_inj]
        exact Iff.rfl
    case _ h =>
        refine iff_of_false nofun ?_
        rintro rfl
        exact h v.length_toList
  simp only [Option.bind_eq_some_iff, hexactly, exists_eq_right]

/-! ### Decimal labels -/

/-- Decimal digits are no letters. -/
theorem toLower_eq_decimal_iff {n : Nat} : label.toLower = toString n ↔ label = toString n := by
  rw [Text.toLower_eq_iff, ← String.toList_inj, Nat.toString_eq_ofList_toDigits,
    String.toList_ofList]
  refine Text.map_toLower_eq_iff_of_lt fun c hc => ?_
  have := Text.toNat_of_mem_toDigits hc
  omega

theorem decimalOctets?_eq_some_iff : decimalOctets? labels = some octets ↔
    labels.map String.toLower = octets.map fun octet => toString octet.toNat := by
  have hlabel : ∀ (label : String) octet,
      Ipv4.octet? label.toList = some octet ↔ label.toLower = toString octet.toNat := by
    intro label octet
    rw [Ipv4.octet?_eq_some_iff, String.toList_inj, toLower_eq_decimal_iff]
  unfold decimalOctets?
  induction labels generalizing octets with
  | nil =>
      simp only [List.mapM_nil, Option.pure_def, Option.some.injEq, List.map_nil, List.nil_eq,
        List.map_eq_nil_iff]
  | cons label rest ih =>
      simp only [List.mapM_cons, Option.bind_eq_bind, Option.pure_def, Option.bind_eq_some_iff,
        Option.some.injEq, hlabel, ih, List.map_cons]
      constructor
      · rintro ⟨octet, hfirst, octets, hrest, rfl⟩
        rw [hfirst, hrest, List.map_cons]
      · intro h
        obtain ⟨octet, octets, rfl, hfirst, hrest⟩ := List.map_eq_cons_iff.mp h.symm
        exact ⟨octet, hfirst.symm, octets, hrest.symm, rfl⟩

/-! ### Labels of one digit -/

/-- The two labels of an octet, the high digit first. -/
def nibbleLabels (octet : UInt8) : List String :=
  [String.singleton (Bytes.hexDigit (octet.toNat / 16)),
    String.singleton (Bytes.hexDigit (octet.toNat % 16))]

theorem nibble?_eq_some_iff {digit : Nat} :
    nibble? label = some digit ↔
    digit < 16 ∧ label.toLower = String.singleton (Bytes.hexDigit digit) := by
  have hdigits : ∀ d < 16, Bytes.hexDigit d = Nat.digitChar d := by decide
  rw [Text.toLower_eq_iff, String.toList_singleton, nibble?]
  split
  case _ c hlabel =>
      rw [hlabel, Text.hexValue?_eq_some_iff, List.map_singleton, List.singleton_inj]
      exact and_congr_right fun hdigit => by rw [hdigits digit hdigit]
  case _ hother =>
      refine iff_of_false nofun fun h => ?_
      obtain ⟨c, hc, -⟩ := List.map_eq_singleton_iff.mp h.2
      exact hother c hc

theorem nibbleOctets?_eq_some_iff :
    nibbleOctets? labels = some octets ↔
    labels.map String.toLower = octets.flatMap nibbleLabels := by
  fun_induction nibbleOctets? labels generalizing octets with
  | case1 => cases octets <;> simp [nibbleLabels]
  | case2 label =>
      refine iff_of_false nofun fun h => ?_
      cases octets <;> simp [nibbleLabels] at h
  | case3 high low rest ih =>
      simp only [Option.bind_eq_bind, Option.bind_eq_some_iff, Option.some.injEq,
        nibble?_eq_some_iff, ih]
      constructor
      · rintro ⟨h, ⟨hh, hhigh⟩, l, ⟨hl, hlow⟩, octets, hrest, rfl⟩
        have hoctet : (UInt8.ofNat (h * 16 + l)).toNat = h * 16 + l :=
          UInt8.toNat_ofNat_of_lt' (show h * 16 + l < 256 by omega)
        rw [List.map_cons, List.map_cons, hhigh, hlow, hrest, List.flatMap_cons, nibbleLabels,
          hoctet, show (h * 16 + l) / 16 = h by omega, show (h * 16 + l) % 16 = l by omega]
        rfl
      · intro h
        cases octets with
        | nil => exact nomatch h
        | cons octet octets =>
            have hlt := octet.toNat_lt
            simp only [List.map_cons, List.flatMap_cons, nibbleLabels, List.cons_append,
              List.nil_append, List.cons.injEq] at h
            obtain ⟨hhigh, hlow, hrest⟩ := h
            refine ⟨_, ⟨by omega, hhigh⟩, _, ⟨by omega, hlow⟩, octets, hrest, ?_⟩
            rw [Nat.div_add_mod', UInt8.ofNat_toNat]

/-! ### Names from back to front -/

/-- The labels of the reverse name of an address, from back to front. -/
def backLabels : Address → List String
  | .v4 octets => "arpa" :: "in-addr" :: octets.toList.map fun octet => toString octet.toNat
  | .v6 octets => "arpa" :: "ip6" :: octets.toList.flatMap nibbleLabels

theorem reverse_labels_reversePointer (address : Address) :
    (reversePointer address).labels.reverse = backLabels address := by
  cases address with
  | v4 octets =>
      simp only [reversePointer, reverseOctets, List.reverse_append, List.map_reverse,
        List.reverse_reverse]
      rfl
  | v6 octets =>
      simp only [reversePointer, reverseNibbles, List.reverse_append, List.reverse_flatMap,
        List.reverse_reverse]
      rfl

/-- They are in small letters. -/
theorem map_toLower_backLabels (address : Address) :
    (backLabels address).map String.toLower = backLabels address := by
  have htop : "arpa".toLower = "arpa" := Text.toLower_eq_iff.mpr (by decide)
  cases address with
  | v4 octets =>
      have hfamily : "in-addr".toLower = "in-addr" := Text.toLower_eq_iff.mpr (by decide)
      have hdecimal : ∀ n : Nat, (toString n).toLower = toString n :=
        fun _ => toLower_eq_decimal_iff.mpr rfl
      simp only [backLabels, List.map_cons, List.map_map, Function.comp_def, htop, hfamily,
        hdecimal]
  | v6 octets =>
      have hfamily : "ip6".toLower = "ip6" := Text.toLower_eq_iff.mpr (by decide)
      have hread : ∀ d < 16, nibble? (String.singleton (Bytes.hexDigit d)) = some d := by decide
      have hdigits : ∀ octet, (nibbleLabels octet).map String.toLower = nibbleLabels octet := by
        intro octet
        have hlt := octet.toNat_lt
        rw [nibbleLabels, List.map_cons, List.map_singleton,
          (nibble?_eq_some_iff.mp (hread _ (by omega))).2,
          (nibble?_eq_some_iff.mp (hread _ (by omega))).2]
      simp only [backLabels, List.map_cons, List.map_flatMap, htop, hfamily, hdigits]

theorem exists_cons_cons_of_map_eq_backLabels (h : labels.map String.toLower = backLabels address) :
    ∃ top family rest, labels = top :: family :: rest := by
  cases address
  all_goals
    obtain ⟨top, behind, rfl, -, h⟩ := List.map_eq_cons_iff.mp h
    obtain ⟨family, rest, rfl, -, -⟩ := List.map_eq_cons_iff.mp h
    exact ⟨top, family, rest, rfl⟩

theorem reverseAddress?_eq_some_iff_backLabels :
    name.reverseAddress? = some address ↔
    name.labels.reverse.map String.toLower = backLabels address := by
  unfold reverseAddress?
  split
  case _ top family labels hlabels =>
      rw [hlabels, List.map_cons, List.map_cons]
      split
      case isTrue h =>
          obtain ⟨htop, hfamily⟩ := h
          cases address <;>
            simp only [htop, hfamily, backLabels, List.cons.injEq, String.reduceEq,
              Option.map_eq_some_iff, bind_exactly?_eq_some_iff, decimalOctets?_eq_some_iff,
              Address.v4.injEq, reduceCtorEq, exists_eq_right, and_false, false_and, true_and,
              exists_false]
      case isFalse hdecimal =>
          split
          case isTrue h =>
              obtain ⟨htop, hfamily⟩ := h
              cases address <;>
                simp only [htop, hfamily, backLabels, List.cons.injEq, String.reduceEq,
                  Option.map_eq_some_iff, bind_exactly?_eq_some_iff, nibbleOctets?_eq_some_iff,
                  Address.v6.injEq, reduceCtorEq, exists_eq_right, and_false, false_and, true_and,
                  exists_false]
          case isFalse hnibbles =>
              refine iff_of_false nofun fun h => ?_
              cases address with
              | v4 => exact hdecimal ⟨(List.cons.inj h).1, (List.cons.inj (List.cons.inj h).2).1⟩
              | v6 => exact hnibbles ⟨(List.cons.inj h).1, (List.cons.inj (List.cons.inj h).2).1⟩
  case _ hother =>
      refine iff_of_false nofun fun h => ?_
      obtain ⟨top, family, rest, hlabels⟩ := exists_cons_cons_of_map_eq_backLabels h
      exact hother top family rest hlabels

/-- A name is read as an address exactly when it is the reverse name of the address, in whatever
case. -/
theorem reverseAddress?_eq_some_iff :
    name.reverseAddress? = some address ↔ name.eqIgnoreCase (reversePointer address) = true := by
  rw [reverseAddress?_eq_some_iff_backLabels, eqIgnoreCase_iff_toLower, ← map_toLower_backLabels,
    ← reverse_labels_reversePointer, List.map_reverse, List.map_reverse, List.reverse_inj]

/-- Digits are no dots. -/
theorem dotless_reversePointer (address : Address) : (reversePointer address).Dotless := by
  intro label hlabel
  rw [← List.mem_reverse, reverse_labels_reversePointer] at hlabel
  cases address with
  | v4 octets =>
      simp only [backLabels, List.mem_cons, List.mem_map] at hlabel
      rcases hlabel with rfl | rfl | ⟨octet, -, rfl⟩
      · decide
      · decide
      · exact Text.notMem_decimal (by decide) octet.toNat
  | v6 octets =>
      have hdigit : ∀ d < 16, '.' ∉ (String.singleton (Bytes.hexDigit d)).toList := by decide
      simp only [backLabels, List.mem_cons, List.mem_flatMap, nibbleLabels, List.not_mem_nil,
        or_false] at hlabel
      rcases hlabel with rfl | rfl | ⟨octet, -, rfl | rfl⟩
      · decide
      · decide
      · have := octet.toNat_lt
        exact hdigit _ (by omega)
      · exact hdigit _ (by omega)

/-- **A reverse name tells its address.** The reverse name of every address is made of labels that
keep the limits. Read from back to front, it is the address again, and no name that is not the same
up to letter case is. So different addresses, also of different families, have names that are not
the same even up to case. The name is read back from its presentation form. -/
theorem reversePointer_determines (address other : Address) (name : Name) :
    ofLabels (reversePointer address).labels = .ok (reversePointer address) ∧
      (reversePointer address).reverseAddress? = some address ∧
      (name.reverseAddress? = some address ↔ name.eqIgnoreCase (reversePointer address) = true) ∧
      ((reversePointer address).eqIgnoreCase (reversePointer other) = true ↔ address = other) ∧
      parse (reversePointer address).fqdn = .ok (reversePointer address) := by
  have hvalid := valid_reversePointer address
  have hread : (reversePointer address).reverseAddress? = some address :=
    reverseAddress?_eq_some_iff.mpr (eqIgnoreCase_refl _)
  refine ⟨ofLabels_eq_ok_iff.mpr ⟨rfl, hvalid⟩, hread, reverseAddress?_eq_some_iff, ?_,
    parse_fqdn hvalid (dotless_reversePointer address)⟩
  rw [← reverseAddress?_eq_some_iff, hread, Option.some.injEq]

end Name

end DnsHealth
