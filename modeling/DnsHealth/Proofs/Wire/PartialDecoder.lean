import DnsHealth.Proofs.Wire.Names

/-!
# Reading by partial accesses

A decoder is a total function, so it cannot show whether it ever asked for octets beyond the end of
the message. Here the accesses are partial: a difference that would be negative, a slice or an index
out of range is undefined, and a reader that meets one comes to nothing at all, neither a value nor
an error.

`Agrees p d` says that the reader `p` never does: from a cursor inside the message it comes to
exactly what the decoder `d` comes to, with a value or an error, and the cursor has not moved
backwards nor left the message. Agreement goes part by part, since every part begins where the one
before it stopped.
-/

namespace DnsHealth

/-- A reader by partial accesses: from an offset to a value or an error with the offset reached, or
to nothing when an access is undefined. -/
def PartialDecoder (α : Type) : Type :=
  (message : Array UInt8) → (offset : Nat) → Option (Except FormatError α × Nat)

/-! ### Partial accesses -/

namespace Access

/-- The difference of two numbers, unless it is negative. -/
def difference? (a b : Nat) : Option Nat :=
  if b ≤ a then some (a - b) else none

/-- The octets between two offsets, unless these are out of order or out of range. -/
def slice? (octets : Array UInt8) (start stop : Nat) : Option (Array UInt8) :=
  if start ≤ stop ∧ stop ≤ octets.size then some (octets.extract start stop) else none

/-- The 16-bit word at an index, unless one of its octets is out of range. -/
def word? (octets : Array UInt8) (i : Nat) : Option UInt16 :=
  match octets[i]?, octets[i + 1]? with
  | some high, some low => some (Bytes.toUInt16 high low)
  | _, _ => none

/-- The 32-bit word at an index, unless one of its octets is out of range. -/
def long? (octets : Array UInt8) (i : Nat) : Option UInt32 :=
  match octets[i]?, octets[i + 1]?, octets[i + 2]?, octets[i + 3]? with
  | some b₁, some b₂, some b₃, some b₄ => some (Bytes.toUInt32 b₁ b₂ b₃ b₄)
  | _, _, _, _ => none

variable {octets : Array UInt8} {a b start stop i : Nat}

theorem difference?_of_le (h : b ≤ a) : difference? a b = some (a - b) :=
  if_pos h

theorem slice?_of_le (hstart : start ≤ stop) (hstop : stop ≤ octets.size) :
    slice? octets start stop = some (octets.extract start stop) :=
  if_pos ⟨hstart, hstop⟩

theorem word?_of_lt (h : i + 1 < octets.size) :
    word? octets i = some (Bytes.toUInt16 octets[i] octets[i + 1]) := by
  simp only [word?, Array.getElem?_eq_getElem h, Array.getElem?_eq_getElem (Nat.lt_of_succ_lt h)]

theorem long?_of_lt (h : i + 3 < octets.size) :
    long? octets i =
      some (Bytes.toUInt32 octets[i] octets[i + 1] octets[i + 2] octets[i + 3]) := by
  simp only [long?, Array.getElem?_eq_getElem h,
    Array.getElem?_eq_getElem (show i + 2 < octets.size by omega),
    Array.getElem?_eq_getElem (show i + 1 < octets.size by omega),
    Array.getElem?_eq_getElem (show i < octets.size by omega)]

end Access

namespace PartialDecoder

open Access

variable {α β : Type} {message : Array UInt8} {offset stop count : Nat}

protected def pure (a : α) : PartialDecoder α :=
  fun _ offset => some (.ok a, offset)

protected def bind (p : PartialDecoder α) (q : α → PartialDecoder β) : PartialDecoder β :=
  fun message offset =>
    match p message offset with
    | some (.ok a, stop) => q a message stop
    | some (.error e, stop) => some (.error e, stop)
    | none => none

instance : Monad PartialDecoder where
  pure := PartialDecoder.pure
  bind := PartialDecoder.bind

theorem bind_of_ok {p : PartialDecoder α} {a : α} (h : p message offset = some (.ok a, stop))
    (q : α → PartialDecoder β) :
    (p >>= q) message offset = q a message stop := by
  change PartialDecoder.bind p q message offset = _
  rw [PartialDecoder.bind, h]

theorem bind_of_error {p : PartialDecoder α} {e : FormatError}
    (h : p message offset = some (.error e, stop)) (q : α → PartialDecoder β) :
    (p >>= q) message offset = some (.error e, stop) := by
  change PartialDecoder.bind p q message offset = _
  rw [PartialDecoder.bind, h]

/-! ### Readers -/

/-- A decoder that makes no partial access: it tests the range of each octet that it looks at. -/
def ofDecoder (d : Decoder α) : PartialDecoder α :=
  fun message offset => some (d message offset)

/-- A value that may be undefined. -/
def ofOption (a : Option α) : PartialDecoder α :=
  fun _ offset => a.map fun a => (.ok a, offset)

def fail (e : FormatError) : PartialDecoder α :=
  ofDecoder (Decoder.fail e)

def position : PartialDecoder Nat :=
  ofDecoder Decoder.position

/-- How many octets follow the cursor, which must not have left the message. -/
def remaining : PartialDecoder Nat :=
  fun message offset => (difference? message.size offset).map fun left => (.ok left, offset)

/-- The next `count` octets, cut out once it is known that as many follow. -/
def octets (count : Nat) : PartialDecoder (Array UInt8) :=
  fun message offset =>
    match difference? message.size offset with
    | none => none
    | some left =>
      if left < count then some (.error (.truncated offset count), offset)
      else (slice? message offset (offset + count)).map fun data => (.ok data, offset + count)

def bytes (count : Nat) : PartialDecoder Bytes := do
  let data ← octets count
  pure data.toList

def u8 : PartialDecoder UInt8 := do
  let data ← octets 1
  ofOption data[0]?

def u16 : PartialDecoder UInt16 := do
  let data ← octets 2
  ofOption (word? data 0)

def u32 : PartialDecoder UInt32 := do
  let data ← octets 4
  ofOption (long? data 0)

/-- The octets up to the offset `stop`; here a negative difference is looked for and is an error. -/
def bytesUpTo (stop : Nat) (past : FormatError) : PartialDecoder Bytes := do
  let start ← position
  match difference? stop start with
  | some count => bytes count
  | none => fail past

/-- A possibly compressed name. The walk tests the range of every octet and slice that it looks
at. -/
def name : PartialDecoder Name :=
  ofDecoder Decoder.name

def replicate (d : PartialDecoder α) : (count : Nat) → PartialDecoder (List α)
  | 0 => pure []
  | count + 1 => do
    let a ← d
    let more ← replicate d count
    pure (a :: more)

/-! ### Where a read ends -/

/-- Octets that follow the cursor are cut out, and the cursor stands behind them. -/
theorem octets_of_le (h : offset + count ≤ message.size) :
    octets count message offset = some (.ok (message.extract offset (offset + count)),
      offset + count) := by
  rw [octets, difference?_of_le (by omega)]
  dsimp only
  rw [if_neg (by omega), slice?_of_le (by omega) h]
  rfl

/-- A read that asks for too much leaves the cursor where it was. -/
theorem octets_of_lt (hoffset : offset ≤ message.size) (h : message.size < offset + count) :
    octets count message offset = some (.error (.truncated offset count), offset) := by
  rw [octets, difference?_of_le hoffset]
  exact if_pos (by omega)

theorem bytes_of_le (h : offset + count ≤ message.size) :
    bytes count message offset =
      some (.ok (message.extract offset (offset + count)).toList, offset + count) :=
  bind_of_ok (octets_of_le h) _

theorem bytes_of_lt (hoffset : offset ≤ message.size) (h : message.size < offset + count) :
    bytes count message offset = some (.error (.truncated offset count), offset) :=
  bind_of_error (octets_of_lt hoffset h) _

theorem u8_of_getElem?_eq_some {b : UInt8} (h : message[offset]? = some b) :
    u8 message offset = some (.ok b, offset + 1) := by
  obtain ⟨hlt, rfl⟩ := Array.getElem?_eq_some_iff.mp h
  have hsize : 0 < (message.extract offset (offset + 1)).size := by
    rw [Array.size_extract]
    omega
  rw [u8, bind_of_ok (octets_of_le hlt), ofOption, Array.getElem?_eq_getElem hsize,
    Array.getElem_extract]
  rfl

theorem u8_of_getElem?_eq_none (hoffset : offset ≤ message.size) (h : message[offset]? = none) :
    u8 message offset = some (.error (.truncated offset 1), offset) :=
  bind_of_error (octets_of_lt hoffset (Nat.lt_succ_of_le (Array.getElem?_eq_none_iff.mp h))) _

/-! ### Agreement -/

/-- From every cursor inside a message the reader comes to what the decoder comes to, and the cursor
goes forward and stays inside. -/
def Agrees (p : PartialDecoder α) (d : Decoder α) : Prop :=
  ∀ message offset, offset ≤ message.size →
    p message offset = some (d message offset) ∧
      offset ≤ (d message offset).2 ∧ (d message offset).2 ≤ message.size

namespace Agrees

variable {p p' : PartialDecoder α} {d d' : Decoder α} {q : α → PartialDecoder β} {f : α → Decoder β}

protected theorem pure (a : α) : Agrees (pure a) (pure a) :=
  fun _ offset h => ⟨rfl, Nat.le_refl offset, h⟩

/-- Two parts in a row: the second begins at a cursor that the first has left inside the message. -/
protected theorem bind (hp : Agrees p d) (hq : ∀ a, Agrees (q a) (f a)) :
    Agrees (p >>= q) (d >>= f) := by
  intro message offset hoffset
  obtain ⟨hdefined, hforward, hinside⟩ := hp message offset hoffset
  rcases hd : d message offset with ⟨result, stop⟩
  rw [hd] at hdefined hforward hinside
  cases result with
  | error e =>
      rw [bind_of_error hdefined, Decoder.bind_error hd]
      exact ⟨rfl, hforward, hinside⟩
  | ok a =>
      obtain ⟨hrest, hforward', hinside'⟩ := hq a message stop hinside
      rw [bind_of_ok hdefined, Decoder.bind_ok hd]
      exact ⟨hrest, Nat.le_trans hforward hforward', hinside'⟩

protected theorem map (hp : Agrees p d) (g : α → β) : Agrees (g <$> p) (g <$> d) :=
  hp.bind fun a => .pure (g a)

protected theorem ite {c : Prop} [Decidable c] (hp : Agrees p d) (hp' : Agrees p' d') :
    Agrees (if c then p else p') (if c then d else d') := by
  split
  case _ => exact hp
  case _ => exact hp'

protected theorem fail (e : FormatError) : Agrees (fail (α := α) e) (Decoder.fail e) :=
  fun _ offset h => ⟨rfl, Nat.le_refl offset, h⟩

protected theorem position : Agrees position Decoder.position :=
  fun _ offset h => ⟨rfl, Nat.le_refl offset, h⟩

/-- The octets behind the cursor can be counted as long as it is inside the message. -/
protected theorem remaining : Agrees remaining Decoder.remaining := by
  intro message offset h
  refine ⟨?_, Nat.le_refl offset, h⟩
  rw [PartialDecoder.remaining, difference?_of_le h]
  rfl

/-- What is defined may be taken for granted. -/
protected theorem ofOption {a : Option α} {b : α} (h : a = some b) :
    Agrees (ofOption a) (pure b) := by
  subst h
  exact .pure b

/-- Octets and what is made of them. The slice is in range, and so is an index below the number of
octets. -/
theorem octets_bind {count : Nat} {q : Array UInt8 → PartialDecoder β}
    {f : Vector UInt8 count → Decoder β} (hq : ∀ v, Agrees (q v.toArray) (f v)) :
      Agrees (octets count >>= q) (Decoder.octets count >>= f) := by
  intro message offset hoffset
  by_cases hend : offset + count ≤ message.size
  · have hsize : (message.extract offset (offset + count)).size = count := by
      rw [Array.size_extract]
      omega
    obtain ⟨hrest, hforward, hinside⟩ := hq ⟨_, hsize⟩ message (offset + count) hend
    rw [bind_of_ok (octets_of_le hend), Decoder.bind_ok (dif_pos hend)]
    exact ⟨hrest, Nat.le_trans (Nat.le_add_right _ _) hforward, hinside⟩
  · rw [bind_of_error (octets_of_lt hoffset (by omega)), Decoder.bind_error (dif_neg hend)]
    exact ⟨rfl, Nat.le_refl offset, hoffset⟩

protected theorem bytes (count : Nat) : Agrees (bytes count) (Decoder.bytes count) :=
  octets_bind fun v => .pure v.toList

protected theorem u8 : Agrees u8 Decoder.u8 :=
  octets_bind fun v => .ofOption (Array.getElem?_eq_getElem (by simp))

protected theorem u16 : Agrees u16 Decoder.u16 :=
  octets_bind fun v => .ofOption (word?_of_lt (by simp))

protected theorem u32 : Agrees u32 Decoder.u32 :=
  octets_bind fun v => .ofOption (long?_of_lt (by simp))

protected theorem bytesUpTo (stop : Nat) (past : FormatError) :
    Agrees (bytesUpTo stop past) (Decoder.bytesUpTo stop past) := by
  refine Agrees.position.bind fun start => ?_
  by_cases h : start ≤ stop
  · rw [difference?_of_le h, if_pos h]
    exact .bytes (stop - start)
  · rw [difference?, if_neg h, if_neg h]
    exact .fail past

/-- The cursor is set behind the labels only when the walk has found its way to their end. -/
protected theorem name : Agrees name Decoder.name := by
  intro message offset hoffset
  refine ⟨rfl, ?_⟩
  rcases hwalk : Decoder.labels message offset offset 1 with e | ⟨found, stop⟩
  · rw [Decoder.name_of_labels_error hwalk]
    exact ⟨Nat.le_refl offset, hoffset⟩
  · rw [Decoder.name_of_labels hwalk]
    obtain ⟨hforward, hinside⟩ := Decoder.labels_stop hwalk
    exact ⟨Nat.le_of_lt hforward, hinside⟩

protected theorem replicate (hp : Agrees p d) (count : Nat) :
    Agrees (replicate p count) (Decoder.replicate count d) := by
  induction count with
  | zero => exact .pure []
  | succ count ih =>
      rw [Decoder.replicate_succ]
      exact hp.bind fun a => ih.bind fun more => .pure (a :: more)

end Agrees

end PartialDecoder

end DnsHealth
