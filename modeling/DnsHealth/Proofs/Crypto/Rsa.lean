import DnsHealth.Dnssec.Algorithm
import DnsHealth.Proofs.Wire.PartialDecoder

/-!
# The format of RSA keys

In front of the exponent stands its length, in one octet or in two behind a zero octet, and what
follows the exponent is the modulus. Which of the two forms it is shows in the first octet alone,
since no exponent is empty: a key that starts with zero and is too short for two more octets has no
length. `PublicKey.WrittenAs` says so without splitting anything, and a key is split exactly as it
says (`PublicKey.ofWire?_eq_some_iff`).

`PublicKey.sliced?` splits by offsets in the octets, where a slice that is not in range is
undefined.
-/

namespace DnsHealth.Crypto.Rsa

variable {front octets rest : Bytes} {length start : Nat} {key : PublicKey}

/-! ### Lengths of exponents -/

/-- The octets that announce an exponent of a length: one that is not zero, or a zero octet and the
two of a word. -/
inductive Announces : (front : Bytes) → (length : Nat) → Prop
  | short (length : UInt8) (hne : length ≠ 0) : Announces [length] length.toNat
  | long (length : UInt16) : Announces (0 :: Bytes.ofUInt16 length) length.toNat

theorem exponentLength?_of_announces (h : Announces front length) (rest : Bytes) :
    exponentLength? (front ++ rest) = some (length, rest) := by
  cases h with
  | short length hne =>
      simp only [List.cons_append, List.nil_append]
      unfold exponentLength?
      split
      case _ heq => exact absurd (List.cons.inj heq).1 hne
      case _ heq =>
          obtain ⟨rfl, rfl⟩ := List.cons.inj heq
          rfl
      case _ heq => exact nomatch heq
  | long length =>
      simp only [Bytes.ofUInt16, List.cons_append, List.nil_append, exponentLength?,
        Bytes.toUInt16_ofUInt16]

theorem exists_announces_of_exponentLength? (h : exponentLength? octets = some (length, rest))
    (hne : length ≠ 0) : ∃ front, Announces front length ∧ octets = front ++ rest := by
  unfold exponentLength? at h
  split at h
  case _ high low rest =>
      obtain ⟨rfl, rfl⟩ := Prod.mk.inj (Option.some.inj h)
      exact ⟨_, .long (Bytes.toUInt16 high low), by simp⟩
  case _ first rest _ =>
      obtain ⟨rfl, rfl⟩ := Prod.mk.inj (Option.some.inj h)
      have hfirst : first ≠ 0 := by
        rintro rfl
        exact hne rfl
      exact ⟨_, .short first hfirst, rfl⟩
  case _ => exact nomatch h

/-! ### Keys -/

namespace PublicKey

/-- The octets are those of the key: the length of the exponent, the exponent and the modulus. -/
def WrittenAs (key : PublicKey) (octets : Bytes) : Prop :=
  key.exponent ≠ [] ∧ key.modulus ≠ [] ∧
    ∃ front, Announces front key.exponent.length ∧ octets = front ++ key.exponent ++ key.modulus

theorem ofWire?_eq_some_iff_written : ofWire? octets = some key ↔ key.WrittenAs octets := by
  constructor
  · intro h
    unfold ofWire? at h
    split at h
    case _ length rest hlength =>
        split at h
        case _ => exact nomatch h
        case _ hfits =>
            rw [not_or, Nat.not_le] at hfits
            obtain ⟨front, hfront, hoctets⟩ := exists_announces_of_exponentLength? hlength hfits.1
            obtain rfl := Option.some.inj h
            have hexponent : (rest.take length).length = length :=
              List.length_take_of_le (Nat.le_of_lt hfits.2)
            refine ⟨?_, ?_, front, by rwa [hexponent], ?_⟩
            · exact List.ne_nil_of_length_pos (by rw [hexponent]; exact Nat.pos_of_ne_zero hfits.1)
            · exact List.ne_nil_of_length_pos
                (by rw [List.length_drop]; exact Nat.sub_pos_of_lt hfits.2)
            · rw [hoctets, List.append_assoc, List.take_append_drop]
    case _ => exact nomatch h
  · rintro ⟨hexponent, hmodulus, front, hfront, hoctets⟩
    have hfits : ¬ (key.exponent.length = 0 ∨
      (key.exponent ++ key.modulus).length ≤ key.exponent.length) := by
      have := List.length_pos_iff.mpr hexponent
      have := List.length_pos_iff.mpr hmodulus
      rw [List.length_append]
      omega
    rw [ofWire?, hoctets, List.append_assoc, exponentLength?_of_announces hfront]
    simp only [if_neg hfits, List.take_left, List.drop_left]

theorem ofWire?_eq_none_iff_unwritten : ofWire? octets = none ↔
    ¬ ∃ key : PublicKey, key.WrittenAs octets := by
  simp only [← ofWire?_eq_some_iff_written, ← Option.isSome_iff_exists,
    Option.not_isSome_iff_eq_none]

/-- Lengths from 1 to 65535 are announced, the short ones in one octet. -/
theorem announces_of_le (hpos : 1 ≤ length) (hlength : length ≤ 65535) :
    Announces (if length ≤ 255 then [UInt8.ofNat length]
      else 0 :: Bytes.ofUInt16 (UInt16.ofNat length)) length := by
  split
  case _ hshort =>
      have hoctet : (UInt8.ofNat length).toNat = length :=
        UInt8.toNat_ofNat_of_lt' (Nat.lt_succ_of_le hshort)
      have hne : UInt8.ofNat length ≠ 0 := by
        intro hzero
        rw [hzero, UInt8.toNat_zero] at hoctet
        exact absurd hoctet (Nat.ne_of_lt hpos)
      have hannounces := Announces.short _ hne
      rwa [hoctet] at hannounces
  case _ =>
      have hword : (UInt16.ofNat length).toNat = length :=
        UInt16.toNat_ofNat_of_lt' (Nat.lt_succ_of_le hlength)
      have hannounces := Announces.long (UInt16.ofNat length)
      rwa [hword] at hannounces

/-- The key format writes a key. -/
theorem writtenAs_wire (hpos : 1 ≤ key.exponent.length) (hlength : key.exponent.length ≤ 65535)
    (hmodulus : key.modulus ≠ []) : key.WrittenAs key.wire :=
  ⟨List.length_pos_iff.mp hpos, hmodulus, _, announces_of_le hpos hlength, rfl⟩

/-! ### Slices -/

open Access

theorem slice?_toArray {stop : Nat} (hstart : start ≤ stop) (hstop : stop ≤ octets.length) :
    slice? octets.toArray start stop = some ((octets.drop start).take (stop - start)).toArray := by
  rw [slice?_of_le hstart (by simpa using hstop), List.extract_toArray, List.extract_eq_take_drop]

/-- The length of the exponent and the offset at which it begins, told from the first octets. -/
def exponentSpan? : Bytes → Option (Nat × Nat)
  | 0 :: high :: low :: _ => some (high.toNat * 256 + low.toNat, 3)
  | length :: _ => some (length.toNat, 1)
  | [] => none

/-- Split a key by slices of its octets, unless one of them is out of range. -/
def sliced? (octets : Array UInt8) : Option (Except DnssecError PublicKey) :=
  match exponentSpan? octets.toList with
  | none => some (.error .invalidPublicKey)
  | some (length, start) =>
    if length = 0 ∨ octets.size ≤ start + length then some (.error .invalidPublicKey)
    else
      match slice? octets start (start + length), slice? octets (start + length) octets.size with
      | some exponent, some modulus =>
          some (.ok { exponent := exponent.toList, modulus := modulus.toList })
      | _, _ => none

/-- The span begins behind the octets that were looked at. -/
theorem exponentLength?_eq_map (octets : Bytes) :
    exponentLength? octets = (exponentSpan? octets).map fun (length, start) =>
      (length, octets.drop start) := by
  unfold exponentLength? exponentSpan?
  split
  case _ => simp [Bytes.toNat_toUInt16]
  case _ => simp
  case _ => rfl

theorem start_le_of_exponentSpan? (h : exponentSpan? octets = some (length, start)) :
    start ≤ octets.length := by
  unfold exponentSpan? at h
  split at h
  case _ =>
      obtain ⟨-, rfl⟩ := Prod.mk.inj (Option.some.inj h)
      simp
  case _ =>
      obtain ⟨-, rfl⟩ := Prod.mk.inj (Option.some.inj h)
      simp
  case _ => exact nomatch h

/-- Every slice is in range. -/
theorem sliced?_eq (octets : Bytes) :
    sliced? octets.toArray = some ((ofWire? octets).elim (.error .invalidPublicKey) .ok) := by
  rw [sliced?, ofWire?, exponentLength?_eq_map, List.toList_toArray, List.size_toArray]
  cases hspan : exponentSpan? octets with
  | none => rfl
  | some span =>
      obtain ⟨length, start⟩ := span
      have hstart := start_le_of_exponentSpan? hspan
      simp only [Option.map_some, List.length_drop]
      by_cases hfits : length = 0 ∨ octets.length ≤ start + length
      · rw [if_pos hfits, if_pos (by omega)]
        rfl
      · have hstop : start + length ≤ octets.length := by omega
        have hall : octets.length - (start + length) = (octets.drop (start + length)).length := by
          rw [List.length_drop]
        rw [if_neg hfits, if_neg (by omega), slice?_toArray (Nat.le_add_right start length) hstop,
          slice?_toArray hstop (Nat.le_refl _), Nat.add_sub_cancel_left, hall, List.take_length,
          List.drop_drop]
        rfl

end PublicKey

/-! ### Keys of the wrong form -/

/-- The algorithms whose keys have this format. -/
def algorithms : List Algorithm :=
  [.rsaSha1, .rsaSha1Nsec3, .rsaSha256, .rsaSha512]

theorem accept_ne_invalidPublicKey (valid : Bool) :
    Algorithm.accept valid ≠ .error .invalidPublicKey := by
  cases valid <;> simp [Algorithm.accept]

theorem check_eq_invalidPublicKey_iff {algorithm : Algorithm} (h : algorithm ∈ algorithms)
    (message signature : Bytes) :
    algorithm.check octets message signature = .error .invalidPublicKey ↔
    PublicKey.ofWire? octets = none := by
  have hcheck : ∀ identifier digest,
      Algorithm.checkRsa identifier digest octets message signature = .error .invalidPublicKey ↔
        PublicKey.ofWire? octets = none := by
    intro identifier digest
    unfold Algorithm.checkRsa
    cases PublicKey.ofWire? octets with
    | none => simp
    | some key => simp [accept_ne_invalidPublicKey]
  simp only [algorithms, List.mem_cons, List.not_mem_nil, or_false] at h
  rcases h with rfl | rfl | rfl | rfl <;> exact hcheck _ _

/-- **Keys are split as they are written.** Octets are split into exponent and modulus exactly when
they are a length, in one octet that is not zero or in two behind a zero octet, an exponent of that
length and a modulus, neither of them empty. No slice is ever out of range. Every other key has the
wrong form for each algorithm that has keys of this format. An exponent of 1 to 65535 octets and a
modulus are found again in the key that is written of them. -/
theorem PublicKey.ofWire?_eq_some_iff (octets : Bytes) :
    (∀ key, ofWire? octets = some key ↔
      key.exponent ≠ [] ∧ key.modulus ≠ [] ∧
        ∃ front, Announces front key.exponent.length ∧
          octets = front ++ key.exponent ++ key.modulus) ∧
    sliced? octets.toArray = some ((ofWire? octets).elim (.error .invalidPublicKey) .ok) ∧
    (∀ algorithm ∈ algorithms, ∀ message signature,
      algorithm.check octets message signature = .error .invalidPublicKey ↔
        ¬ ∃ key : PublicKey, key.WrittenAs octets) ∧
    ∀ key : PublicKey, 1 ≤ key.exponent.length → key.exponent.length ≤ 65535 → key.modulus ≠ [] →
      ofWire? key.wire = some key := by
  refine ⟨fun key => ofWire?_eq_some_iff_written, sliced?_eq octets, ?_, ?_⟩
  · intro algorithm halgorithm message signature
    rw [check_eq_invalidPublicKey_iff halgorithm, ofWire?_eq_none_iff_unwritten]
  · intro key hpos hlength hmodulus
    exact ofWire?_eq_some_iff_written.mpr (writtenAs_wire hpos hlength hmodulus)

/-- An exponent whose length is just too much for one octet, a key that ends with its exponent, and
one that starts with zero but is too short for a length in two octets. -/
theorem PublicKey.ofWire?_eq_some_iff_lengths :
    let key : PublicKey := { exponent := List.replicate 256 1, modulus := [2] }
    key.wire.take 3 = [0, 1, 0] ∧ ofWire? key.wire = some key ∧
      Algorithm.check .rsaSha256 [0, 0, 1, 7] [] [] = .error .invalidPublicKey ∧
      sliced? #[0, 7] = some (.error .invalidPublicKey) := by
  intro key
  obtain ⟨-, -, -, hwritten⟩ := ofWire?_eq_some_iff key.wire
  obtain ⟨hsplit, -, hrefused, -⟩ := ofWire?_eq_some_iff [0, 0, 1, 7]
  obtain ⟨-, hslices, -, -⟩ := ofWire?_eq_some_iff [0, 7]
  have hlength : key.exponent.length = 256 := List.length_replicate
  have hfront : key.wire.take 3 = [0, 1, 0] := by
    rw [PublicKey.wire, hlength]
    rfl
  refine ⟨hfront, hwritten key (by omega) (by omega) (by decide), ?_, hslices⟩
  refine (hrefused .rsaSha256 (by decide) [] []).mpr ?_
  rintro ⟨other, hother⟩
  have hnone : ofWire? [0, 0, 1, 7] = none := by decide
  rw [(hsplit other).mpr hother] at hnone
  cases hnone

end DnsHealth.Crypto.Rsa
