import DnsHealth.Address
import DnsHealth.FormatError

/-!
# Domain names

A name is absolute and is held as its labels, without the root label. The type itself puts no limit
on them: the limits of the wire format are the predicates `Label.Valid` and `Name.Valid`, which
`Name.ofLabels` checks. A name put together from parts of a valid one, such as a wildcard suffix,
is not checked again.

Lengths and letter case are those of the UTF-8 octets, since these are what a message carries;
case folding touches ASCII letters only.

The host name of an address is looked up under its reverse name: the decimal octets of an IPv4
address, or the hexadecimal digits of an IPv6 address, last first, below `in-addr.arpa` or
`ip6.arpa`. Each label is one digit or one octet, so the name keeps the limits without a check.
-/

namespace DnsHealth

/-- The UTF-8 octets of a text. -/
def utf8 (text : String) : Bytes :=
  text.toByteArray.data.toList

@[simp] theorem length_utf8 (text : String) : (utf8 text).length = text.utf8ByteSize := rfl

/-- A label takes 1 to 63 octets. -/
def Label.Valid (label : String) : Prop :=
  1 ≤ label.utf8ByteSize ∧ label.utf8ByteSize ≤ 63

instance (label : String) : Decidable (Label.Valid label) :=
  inferInstanceAs (Decidable (_ ∧ _))

/-- An absolute domain name, held as its labels with the root label left out. -/
structure Name where
  labels : List String
  deriving DecidableEq, Repr, Inhabited

namespace Name

/-- The most octets a name may take on the wire, root label included. -/
def maxLength : Nat := 255

/-- The root name. -/
def root : Name := ⟨[]⟩

def isRoot (name : Name) : Bool :=
  name.labels.isEmpty

/-! ## Wire forms -/

/-- The octets that labels take on the wire, each with its length octet. -/
def labelsLength (labels : List String) : Nat :=
  (labels.map fun label => label.utf8ByteSize + 1).foldr (· + ·) 0

/-- The octets that a name takes on the wire uncompressed, root label included. -/
def wireLength (name : Name) : Nat :=
  labelsLength name.labels + 1

/-- The uncompressed wire form: each label after its length, then the root label. -/
def wire (name : Name) : Bytes :=
  (name.labels.flatMap fun label => UInt8.ofNat label.utf8ByteSize :: utf8 label) ++ [0]

/-- The canonical wire form: uncompressed, with ASCII letters in lower case. -/
def canonical (name : Name) : Bytes :=
  (name.labels.flatMap fun label =>
    UInt8.ofNat label.utf8ByteSize :: Bytes.lower (utf8 label)) ++ [0]

theorem length_wire (name : Name) : name.wire.length = name.wireLength := by
  simp only [wire, wireLength, labelsLength, List.length_append, List.length_flatMap,
    List.length_cons, length_utf8, List.length_nil, List.sum_eq_foldr]

theorem length_canonical (name : Name) : name.canonical.length = name.wireLength := by
  simp only [canonical, wireLength, labelsLength, List.length_append, List.length_flatMap,
    List.length_cons, Bytes.length_lower, length_utf8, List.length_nil, List.sum_eq_foldr]

/-! ## Validity -/

/-- The limits of the wire format: every label has 1 to 63 octets and the whole name at most 255. -/
def Valid (name : Name) : Prop :=
  (∀ label ∈ name.labels, Label.Valid label) ∧ name.wireLength ≤ maxLength

instance (name : Name) : Decidable name.Valid :=
  inferInstanceAs (Decidable (_ ∧ _))

/-- The name with the given labels, when they keep the limits. A bad label is reported before the
total length. -/
def ofLabels (labels : List String) : Except FormatError Name :=
  if ∀ label ∈ labels, Label.Valid label then
    if labelsLength labels + 1 ≤ maxLength then .ok ⟨labels⟩ else .error .nameTooLong
  else .error .invalidLabel

/-- Labels make a name exactly when that name is valid. -/
theorem ofLabels_eq_ok_iff {labels : List String} {name : Name} :
    ofLabels labels = .ok name ↔ name = ⟨labels⟩ ∧ (⟨labels⟩ : Name).Valid := by
  by_cases hlabels : ∀ label ∈ labels, Label.Valid label
  · by_cases hlength : labelsLength labels + 1 ≤ maxLength
    · simp only [ofLabels, Valid, wireLength, if_pos hlabels, if_pos hlength, Except.ok.injEq]
      exact ⟨fun h => ⟨h.symm, hlabels, hlength⟩, fun h => h.1.symm⟩
    · simp only [ofLabels, Valid, wireLength, if_pos hlabels, if_neg hlength, reduceCtorEq,
        false_iff]
      exact fun h => hlength h.2.2
  · simp only [ofLabels, Valid, if_neg hlabels, reduceCtorEq, false_iff]
    exact fun h => hlabels h.2.1

/-! ## Text -/

/-- Read a textual name. The final dot is optional, and a lone dot is the root. -/
def parse (text : String) : Except FormatError Name :=
  if text = "." then .ok root
  else
    match Text.dropFinalDot text.toList with
    | [] => .error .invalidLabel
    | body => ofLabels ((body.splitOn '.').map String.ofList)

/-- The fully qualified presentation form, with the final dot. -/
def fqdn (name : Name) : String :=
  if name.labels = [] then "."
  else String.ofList (name.labels.flatMap fun label => label.toList ++ ['.'])

/-! ## Case and wildcards -/

/-- Equality of names up to the case of ASCII letters, label by label. -/
def eqIgnoreCase (a b : Name) : Bool :=
  a.labels.map (fun label => Bytes.lower (utf8 label)) =
    b.labels.map (fun label => Bytes.lower (utf8 label))

/-- The label count of a signature: the root and a leading wildcard label do not count. -/
def labelCount (name : Name) : Nat :=
  if name.labels.head? = some "*" then name.labels.length - 1 else name.labels.length

/-- The last `count` labels behind a wildcard label. -/
def wildcardSuffix (name : Name) (count : Nat) : Name :=
  ⟨"*" :: name.labels.drop (name.labels.length - count)⟩

/-! ## Reverse names -/

/-- The labels of an IPv4 address, last octet first. -/
def reverseOctets (address : Ipv4) : List String :=
  address.toList.reverse.map fun octet => toString octet.toNat

/-- The labels of an IPv6 address: of each octet, last first, the low digit before the high one. -/
def reverseNibbles (address : Ipv6) : List String :=
  address.toList.reverse.flatMap fun octet =>
    [String.singleton (Bytes.hexDigit (octet.toNat % 16)),
      String.singleton (Bytes.hexDigit (octet.toNat / 16))]

/-- The reverse lookup name of an address. -/
def reversePointer : Address → Name
  | .v4 address => ⟨reverseOctets address ++ ["in-addr", "arpa"]⟩
  | .v6 address => ⟨reverseNibbles address ++ ["ip6", "arpa"]⟩

end Name

end DnsHealth
