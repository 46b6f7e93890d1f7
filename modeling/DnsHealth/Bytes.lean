/-!
# Byte strings

Everything on the wire is a list of octets. This module fixes the few conversions the formats
share: big-endian words, ASCII case, numbers read from octets, and the two hexadecimal spellings.

Words are split and joined with `/`, `%` and `*` on natural numbers, not with shifts, so that facts
about them are facts of linear arithmetic.
-/

namespace DnsHealth

/-- A string of octets. -/
abbrev Bytes := List UInt8

namespace Bytes

/-! ## Big-endian words -/

/-- The two octets of a 16-bit word, high octet first. -/
def ofUInt16 (w : UInt16) : Bytes :=
  [UInt8.ofNat (w.toNat / 256), UInt8.ofNat w.toNat]

/-- The four octets of a 32-bit word, high octet first. -/
def ofUInt32 (w : UInt32) : Bytes :=
  [UInt8.ofNat (w.toNat / 16777216), UInt8.ofNat (w.toNat / 65536), UInt8.ofNat (w.toNat / 256),
    UInt8.ofNat w.toNat]

/-- The 16-bit word with the given octets. -/
def toUInt16 (high low : UInt8) : UInt16 :=
  UInt16.ofNat (high.toNat * 256 + low.toNat)

/-- The 32-bit word with the given octets. -/
def toUInt32 (a b c d : UInt8) : UInt32 :=
  UInt32.ofNat (((a.toNat * 256 + b.toNat) * 256 + c.toNat) * 256 + d.toNat)

@[simp] theorem length_ofUInt16 (w : UInt16) : (ofUInt16 w).length = 2 := rfl

@[simp] theorem length_ofUInt32 (w : UInt32) : (ofUInt32 w).length = 4 := rfl

/-- Splitting a 16-bit word loses nothing. -/
@[simp] theorem toUInt16_ofUInt16 (w : UInt16) :
    toUInt16 (UInt8.ofNat (w.toNat / 256)) (UInt8.ofNat w.toNat) = w := by
  apply UInt16.toNat_inj.1
  have := w.toNat_lt
  simp only [toUInt16, UInt16.toNat_ofNat', UInt8.toNat_ofNat']
  omega

/-- Splitting a 32-bit word loses nothing. -/
@[simp] theorem toUInt32_ofUInt32 (w : UInt32) :
    toUInt32 (UInt8.ofNat (w.toNat / 16777216)) (UInt8.ofNat (w.toNat / 65536))
      (UInt8.ofNat (w.toNat / 256)) (UInt8.ofNat w.toNat) = w := by
  apply UInt32.toNat_inj.1
  have := w.toNat_lt
  simp only [toUInt32, UInt32.toNat_ofNat', UInt8.toNat_ofNat']
  omega

/-- The high octet counts 256 times. -/
theorem toNat_toUInt16 (high low : UInt8) :
    (toUInt16 high low).toNat = high.toNat * 256 + low.toNat := by
  have := high.toNat_lt
  have := low.toNat_lt
  exact UInt16.toNat_ofNat_of_lt' (show high.toNat * 256 + low.toNat < 65536 by omega)

/-- Joining two octets and splitting the word gives the octets back. -/
@[simp] theorem ofUInt16_toUInt16 (high low : UInt8) :
    ofUInt16 (toUInt16 high low) = [high, low] := by
  have := high.toNat_lt
  have := low.toNat_lt
  simp only [ofUInt16, toUInt16, UInt16.toNat_ofNat', List.cons.injEq, and_true]
  constructor <;> apply UInt8.toNat_inj.1 <;> simp only [UInt8.toNat_ofNat'] <;> omega

/-- Joining four octets and splitting the word gives the octets back. -/
@[simp] theorem ofUInt32_toUInt32 (a b c d : UInt8) :
    ofUInt32 (toUInt32 a b c d) = [a, b, c, d] := by
  have := a.toNat_lt
  have := b.toNat_lt
  have := c.toNat_lt
  have := d.toNat_lt
  simp only [ofUInt32, toUInt32, UInt32.toNat_ofNat', List.cons.injEq, and_true]
  refine ⟨?_, ?_, ?_, ?_⟩ <;> apply UInt8.toNat_inj.1 <;> simp only [UInt8.toNat_ofNat'] <;> omega

/-! ## Numbers -/

/-- The natural number whose base-256 digits are the octets, most significant first. -/
def toNatBE (bytes : Bytes) : Nat :=
  bytes.foldl (fun n b => n * 256 + b.toNat) 0

/-- The natural number whose base-256 digits are the octets, least significant first. -/
def toNatLE (bytes : Bytes) : Nat :=
  bytes.foldr (fun b n => n * 256 + b.toNat) 0

/-- The lowest `count` base-256 digits of a number, least significant first. -/
def ofNatLE : (count : Nat) → Nat → Bytes
  | 0, _ => []
  | count + 1, n => UInt8.ofNat n :: ofNatLE count (n / 256)

/-- The lowest `count` base-256 digits of a number, most significant first. -/
def ofNatBE (count n : Nat) : Bytes :=
  (ofNatLE count n).reverse

/-! ## ASCII case -/

/-- An ASCII capital letter becomes its small letter; every other octet stays. -/
def lowerOctet (b : UInt8) : UInt8 :=
  if 65 ≤ b ∧ b ≤ 90 then b + 32 else b

/-- Lower-case the ASCII letters of a byte string. -/
def lower (bytes : Bytes) : Bytes :=
  bytes.map lowerOctet

@[simp] theorem length_lower (bytes : Bytes) : (lower bytes).length = bytes.length := by
  simp [lower]

/-! ## Hexadecimal -/

/-- The small hexadecimal digit of a number below sixteen. -/
def hexDigit (n : Nat) : Char :=
  if n < 10 then Char.ofNat (48 + n) else Char.ofNat (87 + n)

/-- Two small hexadecimal digits for each octet. -/
def toHex (bytes : Bytes) : String :=
  String.ofList (bytes.flatMap fun b => [hexDigit (b.toNat / 16), hexDigit (b.toNat % 16)])

/-- Two capital hexadecimal digits for each octet. -/
def toHexUpper (bytes : Bytes) : String :=
  String.ofList
    (bytes.flatMap fun b => [(hexDigit (b.toNat / 16)).toUpper, (hexDigit (b.toNat % 16)).toUpper])

/-- Cut a byte string into blocks of `size` octets; the last block may be shorter. -/
def blocks (size : Nat) (bytes : Bytes) : List Bytes :=
  if size = 0 ∨ bytes = [] then []
  else bytes.take size :: blocks size (bytes.drop size)
termination_by bytes.length
decreasing_by
  rename_i h
  rw [not_or] at h
  have := List.length_pos_iff.2 h.2
  simp only [List.length_drop]
  omega

end Bytes

end DnsHealth
