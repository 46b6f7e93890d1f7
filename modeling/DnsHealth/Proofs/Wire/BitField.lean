import DnsHealth.Bytes
import DnsHealth.FormatError
import Mathlib.Algebra.Ring.Nat

/-!
# Fields of bits

The formats are given as numbers of a few bits each, one behind the other, and the boundaries of
octets mean nothing to them. `BitField.writeAll` writes them like this, and refuses a number that is
too wide for its bits. Octets are fields of eight bits, so whatever is a byte string elsewhere can
be compared with fields by its bits (`Bytes.bits`).

Fields that are written behind each other are the digits of one number (`BitField.binary_pack`), and
this is how a word that is put together by arithmetic is seen to hold them.
-/

namespace DnsHealth

/-- A number and the bits that it is written in. -/
structure BitField where
  width : Nat
  value : Nat
  deriving DecidableEq, Repr

namespace BitField

variable {fields front back : List BitField} {a b m n : Nat} {error : FormatError}

/-- The lowest bits of a number, as many as asked for, from high to low. -/
def binary : (width value : Nat) → List Bool
  | 0, _ => []
  | width + 1, value => binary width (value / 2) ++ [value % 2 == 1]

def bits (field : BitField) : List Bool :=
  binary field.width field.value

/-- The number is not too wide for its bits. -/
def Fits (field : BitField) : Prop :=
  field.value < 2 ^ field.width

instance (field : BitField) : Decidable field.Fits :=
  inferInstanceAs (Decidable (_ < _))

/-- Write a field. -/
def write (field : BitField) : Except FormatError (List Bool) :=
  if field.Fits then .ok field.bits else .error .fieldTooWide

/-- Write fields one behind the other, up to the first that is refused. -/
def writeAll : List BitField → Except FormatError (List Bool)
  | [] => .ok []
  | field :: rest =>
    match field.write with
    | .ok bits => (writeAll rest).map (bits ++ ·)
    | .error e => .error e

/-! ### Writing -/

theorem writeAll_of_fits (h : ∀ field ∈ fields, field.Fits) :
    writeAll fields = .ok (fields.flatMap bits) := by
  induction fields with
  | nil => rfl
  | cons field rest ih =>
      obtain ⟨hfield, hrest⟩ := List.forall_mem_cons.mp h
      rw [writeAll, write, if_pos hfield, ih hrest, List.flatMap_cons]
      rfl

theorem writeAll_of_not_fits (h : ∃ field ∈ fields, ¬ field.Fits) :
    writeAll fields = .error .fieldTooWide := by
  induction fields with
  | nil => simp at h
  | cons field rest ih =>
      rw [writeAll, write]
      by_cases hfield : field.Fits
      · rw [if_pos hfield, ih (by simpa [hfield] using h)]
        rfl
      · rw [if_neg hfield]

/-- Nothing but a number that is too wide keeps fields from being written. -/
theorem writeAll_eq_error_iff :
    writeAll fields = .error error ↔ error = .fieldTooWide ∧ ∃ field ∈ fields, ¬ field.Fits := by
  by_cases h : ∀ field ∈ fields, field.Fits
  · rw [writeAll_of_fits h]
    simpa using fun _ => h
  · have hwide : ∃ field ∈ fields, ¬ field.Fits := by simpa using h
    rw [writeAll_of_not_fits hwide, and_iff_left hwide, Except.error.injEq]
    exact eq_comm

/-! ### Fields as digits of a number -/

/-- Numbers behind each other, in binary. -/
theorem binary_add (h : b < 2 ^ n) : binary (m + n) (a * 2 ^ n + b) = binary m a ++ binary n b := by
  induction n generalizing b with
  | zero =>
      obtain rfl : b = 0 := by simpa using h
      simp [binary]
  | succ n ih =>
      have hhalf : b / 2 < 2 ^ n := by omega
      have hquotient : (a * 2 ^ (n + 1) + b) / 2 = a * 2 ^ n + b / 2 := by
        rw [Nat.pow_succ, ← Nat.mul_assoc]
        omega
      have hlast : (a * 2 ^ (n + 1) + b) % 2 = b % 2 := by
        rw [Nat.pow_succ, ← Nat.mul_assoc]
        omega
      rw [← Nat.add_assoc, binary, binary, hquotient, hlast, ih hhalf, List.append_assoc]

/-- The number whose digits, of various widths, are the fields, behind those of another number. -/
def pack (front : Nat) (fields : List BitField) : Nat :=
  fields.foldl (fun number field => number * 2 ^ field.width + field.value) front

theorem binary_pack (h : ∀ field ∈ fields, field.Fits) :
    binary (m + (fields.map width).sum) (pack a fields) = binary m a ++ fields.flatMap bits := by
  induction fields generalizing m a with
  | nil => simp [pack]
  | cons field rest ih =>
      obtain ⟨hfield, hrest⟩ := List.forall_mem_cons.mp h
      rw [List.map_cons, List.sum_cons, ← Nat.add_assoc, pack, List.foldl_cons, ← pack, ih hrest,
        binary_add hfield, List.flatMap_cons, List.append_assoc]
      rfl

/-- The bits of a number that has the fields as its digits. -/
theorem binary_eq_flatMap_bits (h : ∀ field ∈ fields, field.Fits)
    (hwidth : (fields.map width).sum = n) (hvalue : pack 0 fields = a) :
    binary n a = fields.flatMap bits := by
  have hpack := binary_pack (m := 0) (a := 0) h
  rwa [Nat.zero_add, hwidth, hvalue] at hpack

/-! ### Octets -/

/-- Octets as fields. -/
def ofBytes (bytes : Bytes) : List BitField :=
  bytes.map fun b => ⟨8, b.toNat⟩

theorem fits_of_mem_ofBytes {bytes : Bytes} : ∀ field ∈ ofBytes bytes, field.Fits := by
  intro field hfield
  obtain ⟨b, -, rfl⟩ := List.mem_map.mp hfield
  exact b.toNat_lt

/-- Words as fields. -/
def ofUInt16 (w : UInt16) : BitField :=
  ⟨16, w.toNat⟩

def ofUInt32 (w : UInt32) : BitField :=
  ⟨32, w.toNat⟩

end BitField

/-- The bits of octets. -/
def Bytes.bits (bytes : Bytes) : List Bool :=
  (BitField.ofBytes bytes).flatMap BitField.bits

namespace BitField

/-- The fields can be written, and come out as the bits of the octets. -/
structure Spells (fields : List BitField) (bytes : Bytes) : Prop where
  fits : ∀ field ∈ fields, field.Fits
  bits_eq : fields.flatMap bits = Bytes.bits bytes

namespace Spells

variable {x y : Bytes}

theorem writeAll (h : Spells fields x) : writeAll fields = .ok (Bytes.bits x) := by
  rw [writeAll_of_fits h.fits, h.bits_eq]

protected theorem append (hfront : Spells front x) (hback : Spells back y) :
    Spells (front ++ back) (x ++ y) := by
  refine ⟨List.forall_mem_append.mpr ⟨hfront.fits, hback.fits⟩, ?_⟩
  rw [List.flatMap_append, hfront.bits_eq, hback.bits_eq, Bytes.bits, Bytes.bits, Bytes.bits,
    ofBytes, ofBytes, ofBytes, List.map_append, List.flatMap_append]

/-- Parts of one kind in a row. -/
protected theorem flatMap {α : Type} {parts : List α} {layout : α → List BitField}
    {wire : α → Bytes} (h : ∀ part ∈ parts, Spells (layout part) (wire part)) :
      Spells (parts.flatMap layout) (parts.flatMap wire) := by
  induction parts with
  | nil => exact ⟨nofun, rfl⟩
  | cons part rest ih =>
      obtain ⟨hpart, hrest⟩ := List.forall_mem_cons.mp h
      exact hpart.append (ih hrest)

/-- Fields spell the octets of a number that has them as its digits. -/
theorem of_pack (hfits : ∀ field ∈ fields, field.Fits)
    (hwidth : (fields.map width).sum = ((ofBytes x).map width).sum)
    (hvalue : pack 0 fields = pack 0 (ofBytes x)) : Spells fields x := by
  have hbits := binary_eq_flatMap_bits hfits hwidth hvalue
  exact ⟨hfits, hbits.symm.trans (binary_eq_flatMap_bits fits_of_mem_ofBytes rfl rfl)⟩

theorem ofBytes (bytes : Bytes) : Spells (ofBytes bytes) bytes :=
  ⟨fits_of_mem_ofBytes, rfl⟩

theorem ofUInt16 (w : UInt16) : Spells [ofUInt16 w] (Bytes.ofUInt16 w) := by
  have hw := w.toNat_lt
  refine of_pack (List.forall_mem_singleton.mpr hw) rfl ?_
  simp only [pack, BitField.ofBytes, BitField.ofUInt16, Bytes.ofUInt16, List.map_cons, List.map_nil,
    List.foldl_cons, List.foldl_nil, UInt8.toNat_ofNat']
  omega

theorem ofUInt32 (w : UInt32) : Spells [ofUInt32 w] (Bytes.ofUInt32 w) := by
  have hw := w.toNat_lt
  refine of_pack (List.forall_mem_singleton.mpr hw) rfl ?_
  simp only [pack, BitField.ofBytes, BitField.ofUInt32, Bytes.ofUInt32, List.map_cons, List.map_nil,
    List.foldl_cons, List.foldl_nil, UInt8.toNat_ofNat']
  omega

end Spells

end BitField

end DnsHealth
