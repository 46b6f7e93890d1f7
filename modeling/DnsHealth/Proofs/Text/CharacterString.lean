import DnsHealth.Rdata.Presentation
import DnsHealth.Text.Characters

/-!
# Reading character strings back

The zone-file form of character strings says itself where an octet ends and where a string does:
only a quote in front of which no backslash stands closes a string, and behind a backslash stand a
quote, a backslash or three digits, whatever comes after them. `characterStrings?` reads the form
back, and so different strings have different forms.

The reader does not ask whether the writer would have escaped an octet, so it accepts other
spellings as well.
-/

namespace DnsHealth

namespace Text

/-! ### The reader -/

/-- A printable character of ASCII, spaces included. -/
def IsPrintable (c : Char) : Prop :=
  32 ≤ c.toNat ∧ c.toNat ≤ 126

instance (c : Char) : Decidable (IsPrintable c) :=
  inferInstanceAs (Decidable (_ ∧ _))

/-- A character that stands for itself inside quotes. -/
def IsPlain (c : Char) : Prop :=
  c ≠ '"' ∧ c ≠ '\\' ∧ IsPrintable c

instance (c : Char) : Decidable (IsPlain c) :=
  inferInstanceAs (Decidable (_ ∧ _))

/-- The octet with a decimal number. -/
def decimalOctet? (cs : List Char) : Option UInt8 :=
  ((decimal? cs).filter (· < 256)).map UInt8.ofNat

/-- The strings in what follows an opening quote. The first of them is the one that was opened. -/
def openStrings? : List Char → Option (List Bytes)
  | ['"'] => some [[]]
  | '"' :: ' ' :: '"' :: rest => (openStrings? rest).map ([] :: ·)
  | '"' :: _ => none
  | '\\' :: '"' :: rest => (openStrings? rest).map (.modifyHead (34 :: ·))
  | '\\' :: '\\' :: rest => (openStrings? rest).map (.modifyHead (92 :: ·))
  | '\\' :: high :: middle :: low :: rest =>
    match decimalOctet? [high, middle, low] with
    | some octet => (openStrings? rest).map (.modifyHead (octet :: ·))
    | none => none
  | c :: rest =>
    if IsPlain c then (openStrings? rest).map (.modifyHead (UInt8.ofNat c.toNat :: ·)) else none
  | [] => none

/-- The strings of a text: none, or strings in quotes with a space between them. -/
def characterStrings? : List Char → Option (List Bytes)
  | [] => some []
  | '"' :: rest => openStrings? rest
  | _ :: _ => none

/-! ### Octets -/

variable {b : UInt8} {s : Bytes} {strings : List Bytes} {rest : List Char} {c : Char}

theorem toNat_ofNat_octet (b : UInt8) : (Char.ofNat b.toNat).toNat = b.toNat := by
  have hvalid : b.toNat.isValidChar := .inl (Nat.lt_trans b.toNat_lt (by decide))
  rw [Char.ofNat, dif_pos hvalid]
  rfl

theorem digitValue?_decimalDigit : ∀ n < 10, digitValue? 10 (decimalDigit n) = some n := by
  decide

/-- Three digits are read as the octet that they were written for. -/
theorem decimalOctet?_digits (b : UInt8) :
    decimalOctet? [decimalDigit (b.toNat / 100), decimalDigit (b.toNat / 10 % 10),
      decimalDigit (b.toNat % 10)] = some b := by
  have hlt : b.toNat < 256 := b.toNat_lt
  have hnumber : (b.toNat / 100 * 10 + b.toNat / 10 % 10) * 10 + b.toNat % 10 = b.toNat := by omega
  have hread : decimal? [decimalDigit (b.toNat / 100), decimalDigit (b.toNat / 10 % 10),
    decimalDigit (b.toNat % 10)] =
      some b.toNat := by
    simp only [decimal?, number?, numberFrom?,
      digitValue?_decimalDigit _ (show b.toNat / 100 < 10 by omega),
      digitValue?_decimalDigit _ (show b.toNat / 10 % 10 < 10 by omega),
      digitValue?_decimalDigit _ (show b.toNat % 10 < 10 by omega), Nat.zero_mul, Nat.zero_add,
      hnumber]
  rw [decimalOctet?, hread, Option.filter_some, if_pos (decide_eq_true hlt), Option.map_some,
    UInt8.ofNat_toNat]

/-- A digit is neither a quote nor a backslash. -/
theorem decimalDigit_ne : ∀ n < 10, decimalDigit n ≠ '"' ∧ decimalDigit n ≠ '\\' := by
  decide

theorem openStrings?_plain (h : IsPlain c) (rest : List Char) :
    openStrings? (c :: rest) =
    (openStrings? rest).map (.modifyHead (UInt8.ofNat c.toNat :: ·)) := by
  have hplain := h
  obtain ⟨hquote, hbackslash, -⟩ := h
  rw [openStrings?.eq_def]
  split
  all_goals simp_all

theorem isPrintable_ofNat (h : 32 ≤ b ∧ b ≤ 126) : IsPrintable (Char.ofNat b.toNat) := by
  rw [IsPrintable, toNat_ofNat_octet]
  exact h

theorem isPlain_ofNat (hne : ¬ (b = 34 ∨ b = 92)) (h : 32 ≤ b ∧ b ≤ 126) :
    IsPlain (Char.ofNat b.toNat) := by
  have hinj : ∀ {d : UInt8}, Char.ofNat b.toNat = Char.ofNat d.toNat → b = d := by
    intro d heq
    rw [← UInt8.toNat_inj, ← toNat_ofNat_octet b, heq, toNat_ofNat_octet]
  exact ⟨fun heq => hne (.inl (hinj (d := 34) heq)), fun heq => hne (.inr (hinj (d := 92) heq)),
    isPrintable_ofNat h⟩

/-- An octet is read back, and reading goes on behind it. -/
theorem openStrings?_quotedOctet (b : UInt8) (rest : List Char) :
    openStrings? (quotedOctet b ++ rest) = (openStrings? rest).map (.modifyHead (b :: ·)) := by
  unfold quotedOctet
  split
  case _ h =>
      rcases h with rfl | rfl <;> rfl
  case _ hother =>
      split
      case _ hprintable =>
          rw [List.singleton_append, openStrings?_plain (isPlain_ofNat hother hprintable),
            toNat_ofNat_octet, UInt8.ofNat_toNat]
      case _ =>
          have hdigit := decimalDigit_ne (b.toNat / 100) (by have := b.toNat_lt; omega)
          simp only [List.cons_append, List.nil_append]
          rw [openStrings?, decimalOctet?_digits]
          · simp [hdigit]
          · simp [hdigit]

/-- The octets of an open string are read back in front of what follows them. -/
theorem openStrings?_flatMap (s : Bytes) (rest : List Char) :
    openStrings? (s.flatMap quotedOctet ++ rest) =
    (openStrings? rest).map (.modifyHead (s ++ ·)) := by
  induction s with
  | nil =>
      show openStrings? rest = _
      cases openStrings? rest with
      | none => rfl
      | some strings => cases strings <;> rfl
  | cons b s ih =>
      rw [List.flatMap_cons, List.append_assoc, openStrings?_quotedOctet, ih, Option.map_map]
      congr 1
      funext strings
      exact List.modifyHead_modifyHead

/-! ### Strings -/

theorem quotedStrings_singleton (s : Bytes) : quotedStrings [s] = quoted s :=
  List.intercalate_singleton

theorem quotedStrings_cons_cons (first second : Bytes) (others : List Bytes) :
    quotedStrings (first :: second :: others) =
    quoted first ++ ' ' :: quotedStrings (second :: others) := by
  simp only [quotedStrings, List.map_cons, List.intercalate_cons_cons, List.append_assoc,
    List.singleton_append]

/-- Strings are read back from behind the first quote. -/
theorem openStrings?_quotedStrings (first : Bytes) (others : List Bytes) :
    ∃ rest, quotedStrings (first :: others) = '"' :: rest ∧
      openStrings? rest = some (first :: others) := by
  induction others generalizing first with
  | nil =>
      refine ⟨first.flatMap quotedOctet ++ ['"'], quotedStrings_singleton first, ?_⟩
      rw [openStrings?_flatMap, openStrings?]
      simp
  | cons second others ih =>
      obtain ⟨rest, hrest, hread⟩ := ih second
      refine ⟨first.flatMap quotedOctet ++ '"' :: ' ' :: '"' :: rest, ?_, ?_⟩
      · rw [quotedStrings_cons_cons, hrest, quoted]
        simp
      · rw [openStrings?_flatMap, openStrings?, hread]
        simp

/-- The strings are read back from their form. -/
theorem characterStrings?_quotedStrings (strings : List Bytes) :
    characterStrings? (quotedStrings strings) = some strings := by
  cases strings with
  | nil => rfl
  | cons first others =>
      obtain ⟨rest, hrest, hread⟩ := openStrings?_quotedStrings first others
      rw [hrest]
      exact hread

/-- The same letter, once by itself and once by its number. -/
example : characterStrings? ['"', 'A', '\\', '0', '6', '5', '"'] = some [[65, 65]] := by decide

theorem quotedStrings_inj {others : List Bytes} :
    quotedStrings strings = quotedStrings others ↔ strings = others := by
  constructor
  · intro h
    have hread := characterStrings?_quotedStrings strings
    rw [h, characterStrings?_quotedStrings] at hread
    exact (Option.some.inj hread).symm
  · rintro rfl
    rfl

/-! ### Characters -/

/-- An octet is written in printable characters, whatever it is. -/
theorem isPrintable_of_mem_quotedOctet (h : c ∈ quotedOctet b) : IsPrintable c := by
  have hdigit : ∀ n < 10, IsPrintable (decimalDigit n) := by decide
  have := b.toNat_lt
  unfold quotedOctet at h
  split at h
  case _ hescaped =>
      simp only [List.mem_cons, List.not_mem_nil, or_false] at h
      rcases hescaped with rfl | rfl <;> rcases h with rfl | rfl <;> decide
  case _ =>
      split at h
      case _ hprintable =>
          obtain rfl := List.mem_singleton.mp h
          exact isPrintable_ofNat hprintable
      case _ =>
          simp only [List.mem_cons, List.not_mem_nil, or_false] at h
          rcases h with rfl | rfl | rfl | rfl
          · decide
          · exact hdigit _ (by omega)
          · exact hdigit _ (by omega)
          · exact hdigit _ (by omega)

theorem isPrintable_of_mem_quoted (h : c ∈ quoted s) : IsPrintable c := by
  simp only [quoted, List.cons_append, List.mem_cons, List.mem_append, List.mem_flatMap,
    List.not_mem_nil, or_false] at h
  rcases h with rfl | ⟨b, -, hb⟩ | rfl
  · decide
  · exact isPrintable_of_mem_quotedOctet hb
  · decide

theorem isPrintable_of_mem_quotedStrings (h : c ∈ quotedStrings strings) : IsPrintable c := by
  induction strings with
  | nil => exact absurd h List.not_mem_nil
  | cons first others ih =>
      cases others with
      | nil =>
          rw [quotedStrings_singleton] at h
          exact isPrintable_of_mem_quoted h
      | cons second others =>
          rw [quotedStrings_cons_cons, List.mem_append, List.mem_cons] at h
          rcases h with h | rfl | h
          · exact isPrintable_of_mem_quoted h
          · decide
          · exact ih h

end Text

namespace Rdata

/-- **The zone-file form of texts loses nothing.** Under either type of texts the form of a list of
strings consists of printable characters, and the list can be read back from it: with no string in
it, with empty strings, and whatever octets the strings hold. So data of either type can be told
from its form. -/
theorem characterStrings?_presentation (strings : List Bytes) :
    (∀ c ∈ (txt strings).presentation.toList, 0x20 ≤ c.toNat ∧ c.toNat ≤ 0x7e) ∧
    (∀ c ∈ (spf strings).presentation.toList, 0x20 ≤ c.toNat ∧ c.toNat ≤ 0x7e) ∧
    Text.characterStrings? (txt strings).presentation.toList = some strings ∧
    Text.characterStrings? (spf strings).presentation.toList = some strings ∧
    ∀ others, ((txt others).presentation = (txt strings).presentation ↔ txt others = txt strings) ∧
      ((spf others).presentation = (spf strings).presentation ↔ spf others = spf strings) := by
  have hprintable : ∀ c ∈ Text.quotedStrings strings, 0x20 ≤ c.toNat ∧ c.toNat ≤ 0x7e :=
    fun c hc => Text.isPrintable_of_mem_quotedStrings hc
  have hread := Text.characterStrings?_quotedStrings strings
  simp only [presentation, String.toList_ofList, String.ofList_inj, Text.quotedStrings_inj,
    txt.injEq, spf.injEq, implies_true, and_true]
  exact ⟨hprintable, hprintable, hread, hread⟩

/-- An empty string, one with a quote, a backslash, a control character in front of a digit and an
octet outside of ASCII, and one with a space. -/
theorem characterStrings?_presentation_escapes :
    let strings : List Bytes := [[], [34, 92, 7, 48, 233], [32]]
    (txt strings).presentation = "\"\" \"\\\"\\\\\\0070\\233\" \" \"" ∧
      Text.characterStrings? "\"\" \"\\\"\\\\\\0070\\233\" \" \"".toList = some strings ∧
      '\\' ∈ (txt strings).presentation.toList ∧ 0x20 ≤ '\\'.toNat ∧ '\\'.toNat ≤ 0x7e := by
  intro strings
  have hform : (txt strings).presentation = "\"\" \"\\\"\\\\\\0070\\233\" \" \"" := by decide
  obtain ⟨hprintable, -, hread, -⟩ := characterStrings?_presentation strings
  have hmem : '\\' ∈ (txt strings).presentation.toList := by
    rw [hform]
    decide
  exact ⟨hform, hform ▸ hread, hmem, hprintable _ hmem⟩

end Rdata

end DnsHealth
