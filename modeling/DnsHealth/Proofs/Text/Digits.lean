import DnsHealth.Text.Characters

/-!
# Digits and small letters

What the readers of numbers accept is told by what writing a number gives. A hexadecimal digit may
be a letter of either case, so it is the digit of its value once it is a small letter
(`Text.hexValue?_eq_some_iff`). A decimal number without a zero in front of it is read from its
digits and from nothing else (`Text.decimal?_eq_some_iff`).

Reading goes from the front and a number is written from the back, so the induction carries the
number that was read so far: it is not zero, and its digits stand in front of the rest.
-/

namespace DnsHealth.Text

/-! ### Small letters -/

section

variable {c d : Char} {cs ds : List Char}

theorem toNat_toLower (c : Char) :
    c.toLower.toNat = if 65 ≤ c.toNat ∧ c.toNat ≤ 90 then c.toNat + 32 else c.toNat := by
  split
  case _ hletter =>
      have hlower : c.toLower.val = c.val + 32 := congrArg Char.val (dif_pos hletter)
      have hhigh : c.val.toNat ≤ 90 := hletter.2
      show c.toLower.val.toNat = c.val.toNat + 32
      rw [hlower, UInt32.toNat_add]
      exact Nat.mod_eq_of_lt (show c.val.toNat + 32 < 2 ^ 32 by omega)
  case _ hother => exact congrArg Char.toNat (dif_neg hother)

/-- Digits and dots come in front of the letters, and are not made of any. -/
theorem toLower_eq_iff_of_lt (h : d.toNat < 65) : c.toLower = d ↔ c = d := by
  rw [← Char.toNat_inj, ← Char.toNat_inj, toNat_toLower]
  split <;> omega

theorem map_toLower_eq_iff_of_lt (h : ∀ d ∈ ds, d.toNat < 65) : cs.map Char.toLower = ds ↔
    cs = ds := by
  induction cs generalizing ds with
  | nil => exact Iff.rfl
  | cons c cs ih =>
      cases ds with
      | nil => exact iff_of_false nofun nofun
      | cons d ds =>
          obtain ⟨hd, hds⟩ := List.forall_mem_cons.mp h
          rw [List.map_cons, List.cons.injEq, List.cons.injEq, toLower_eq_iff_of_lt hd, ih hds]

theorem toLower_eq_iff {text small : String} :
    text.toLower = small ↔ text.toList.map Char.toLower = small.toList := by
  have hchars : text.toLower.toList = text.toList.map Char.toLower := String.toList_map
  rw [← String.toList_inj, hchars]

end

variable {c : Char} {cs : List Char} {d m n : Nat}

/-! ### Digits -/

theorem toNat_digitChar (h : d < 16) :
    (Nat.digitChar d).toNat = if d < 10 then 48 + d else 87 + d := by
  have hdigits : ∀ d < 16, (Nat.digitChar d).toNat = if d < 10 then 48 + d else 87 + d := by decide
  exact hdigits d h

/-- The characters with a value are the sixteen digits, with letters of either case. -/
theorem hexValue?_eq_some_iff : hexValue? c = some d ↔ d < 16 ∧ c.toLower = Nat.digitChar d := by
  have hvalue : hexValue? c =
      if 48 ≤ c.toNat ∧ c.toNat ≤ 57 then some (c.toNat - 48)
      else if 97 ≤ c.toNat ∧ c.toNat ≤ 102 then some (c.toNat - 87)
      else if 65 ≤ c.toNat ∧ c.toNat ≤ 70 then some (c.toNat - 55)
      else none := rfl
  have hsmall := toNat_toLower c
  have hdigit : d < 16 → (c.toLower = Nat.digitChar d ↔
      c.toLower.toNat = if d < 10 then 48 + d else 87 + d) := by
    intro h
    rw [← toNat_digitChar h]
    exact Char.toNat_inj.symm
  -- The three ranges of characters and their values are now a matter of arithmetic.
  rw [hvalue]
  constructor
  · intro h
    have hd : d < 16 := by grind
    rw [hdigit hd]
    grind
  · rintro ⟨hd, h⟩
    rw [hdigit hd] at h
    grind

theorem digitValue?_ten_eq_some_iff : digitValue? 10 c = some d ↔ d < 10 ∧ c = Nat.digitChar d := by
  have hsmall : ∀ d < 10, (Nat.digitChar d).toNat < 65 := by decide
  rw [digitValue?, Option.filter_eq_some_iff, hexValue?_eq_some_iff, decide_eq_true_eq]
  constructor
  · rintro ⟨⟨-, h⟩, hd⟩
    exact ⟨hd, (toLower_eq_iff_of_lt (hsmall d hd)).mp h⟩
  · rintro ⟨hd, h⟩
    exact ⟨⟨Nat.lt_trans hd (by decide), (toLower_eq_iff_of_lt (hsmall d hd)).mpr h⟩, hd⟩

/-! ### Decimal numbers -/

theorem toNat_of_mem_toDigits (h : c ∈ Nat.toDigits 10 n) : 48 ≤ c.toNat ∧ c.toNat ≤ 57 := by
  have hdigit : c.isDigit = true := Nat.isDigit_of_mem_toDigits (by decide) (by decide) h
  simpa [Char.isDigit, UInt32.le_iff_toNat_le] using hdigit

theorem digitValue?_ne_none (h : c ∈ Nat.toDigits 10 n) : digitValue? 10 c ≠ none := by
  obtain ⟨hlow, hhigh⟩ := toNat_of_mem_toDigits h
  have hvalue : digitValue? 10 c = some (c.toNat - 48) := by
    refine digitValue?_ten_eq_some_iff.mpr ⟨by omega, Char.toNat_inj.mp ?_⟩
    rw [toNat_digitChar (by omega), if_pos (by omega)]
    omega
  rw [hvalue]
  exact nofun

theorem notMem_decimal (hc : c.isDigit = false) (n : Nat) : c ∉ (toString n).toList := by
  intro hmem
  rw [Nat.toString_eq_ofList_toDigits, String.toList_ofList] at hmem
  rw [Nat.isDigit_of_mem_toDigits (by decide) (by decide) hmem] at hc
  exact nomatch hc

theorem toDigits_inj : Nat.toDigits 10 m = Nat.toDigits 10 n ↔ m = n := by
  refine ⟨fun h => ?_, congrArg _⟩
  rw [← @Nat.ofDigitChars_ten_toDigits m, h, Nat.ofDigitChars_ten_toDigits]

/-- One more digit behind a number that is not zero. -/
theorem toDigits_append_digitChar (hn : 0 < n) (hd : d < 10) :
    Nat.toDigits 10 n ++ [Nat.digitChar d] = Nat.toDigits 10 (n * 10 + d) := by
  rw [← Nat.toDigits_of_lt_base hd, Nat.toDigits_append_toDigits (by decide) hn hd, Nat.mul_comm]

/-- Behind a number that is not zero, the other digits of a number are read and nothing else. -/
theorem numberFrom?_eq_some_iff (hn : 0 < n) :
    numberFrom? 10 n cs = some m ↔ Nat.toDigits 10 m = Nat.toDigits 10 n ++ cs := by
  induction cs generalizing n with
  | nil =>
      rw [numberFrom?, List.append_nil, Option.some.injEq, toDigits_inj]
      exact eq_comm
  | cons c cs ih =>
      rw [numberFrom?]
      cases hc : digitValue? 10 c with
      | some d =>
          obtain ⟨hd, rfl⟩ := digitValue?_ten_eq_some_iff.mp hc
          rw [← List.singleton_append, ← List.append_assoc, toDigits_append_digitChar hn hd]
          exact ih (by omega)
      | none => exact iff_of_false nofun fun h => digitValue?_ne_none (n := m) (by simp [h]) hc

/-- No number but zero is written with a zero in front. -/
theorem head?_toDigits_eq_zero_iff : (Nat.toDigits 10 n).head? = some '0' ↔ n = 0 := by
  induction n using Nat.strongRecOn with
  | ind n ih =>
      rw [Nat.toDigits_eq_if (by decide)]
      split
      case _ => rw [List.head?_cons, Option.some.injEq, Nat.digitChar_eq_zero]
      case _ hn =>
          have hne : Nat.toDigits 10 (n / 10) ≠ [] := Nat.toDigits_ne_nil
          have hhead := ih (n / 10) (by omega)
          obtain ⟨first, rest, hfirst⟩ := List.exists_cons_of_ne_nil hne
          rw [hfirst, List.head?_cons] at hhead
          rw [hfirst, List.cons_append, List.head?_cons, hhead]
          omega

/-- Without a zero in front of other characters, exactly the digits of a number are read. -/
theorem decimal?_eq_some_iff (h : c ≠ '0' ∨ cs = []) : decimal? (c :: cs) = some n ↔
    c :: cs = Nat.toDigits 10 n := by
  have hstart : decimal? (c :: cs) = numberFrom? 10 0 (c :: cs) := rfl
  rw [hstart, numberFrom?]
  cases hc : digitValue? 10 c with
  | some d =>
      obtain ⟨hd, rfl⟩ := digitValue?_ten_eq_some_iff.mp hc
      dsimp only
      rw [Nat.zero_mul, Nat.zero_add]
      rcases Nat.eq_zero_or_pos d with rfl | hpos
      · obtain rfl : cs = [] := h.resolve_left (not_not_intro rfl)
        rw [numberFrom?, Option.some.injEq, ← Nat.toDigits_of_lt_base hd, toDigits_inj]
      · rw [numberFrom?_eq_some_iff hpos, Nat.toDigits_of_lt_base hd, List.singleton_append]
        exact eq_comm
  | none => exact iff_of_false nofun fun h => digitValue?_ne_none (n := n) (by simp [← h]) hc

end DnsHealth.Text
