import DnsHealth.Bytes
import DnsHealth.FormatError

/-!
# Decoders

A decoder reads a whole message from an offset, since compressed names refer back to any earlier
part of it. It gives a value or an error and, either way, the offset at which it stopped: the
cursor of a failed read is part of its meaning.

* `Decoder.octets` is the only decoder that looks at the message and advances; it leaves the cursor
  where it was when the message is too short. All other fixed-width reads are built from it.
* `bind` goes on at the offset where the first decoder stopped, and stops at its error.
-/

namespace DnsHealth

/-- A reader of a message: from an offset to a value or an error, and the offset reached. -/
def Decoder (α : Type) : Type :=
  (message : Array UInt8) → (offset : Nat) → Except FormatError α × Nat

namespace Decoder

variable {α β : Type}

protected def pure (a : α) : Decoder α :=
  fun _ offset => (.ok a, offset)

protected def bind (d : Decoder α) (f : α → Decoder β) : Decoder β :=
  fun message offset =>
    match d message offset with
    | (.ok a, stop) => f a message stop
    | (.error e, stop) => (.error e, stop)

instance : Monad Decoder where
  pure := Decoder.pure
  bind := Decoder.bind

/-- Decode a byte string from its start, dropping the cursor. -/
def decode (d : Decoder α) (bytes : Bytes) : Except FormatError α :=
  (d bytes.toArray 0).1

@[simp] theorem pure_apply (a : α) (message : Array UInt8) (offset : Nat) :
    (pure a : Decoder α) message offset = (.ok a, offset) := rfl

theorem bind_apply (d : Decoder α) (f : α → Decoder β) (message : Array UInt8) (offset : Nat) :
    (d >>= f) message offset =
      match d message offset with
      | (.ok a, stop) => f a message stop
      | (.error e, stop) => (.error e, stop) := rfl

theorem bind_ok {d : Decoder α} {message : Array UInt8} {offset stop : Nat} {a : α}
    (h : d message offset = (.ok a, stop)) (f : α → Decoder β) :
    (d >>= f) message offset = f a message stop := by
  rw [bind_apply, h]

theorem bind_error {d : Decoder α} {message : Array UInt8} {offset stop : Nat} {e : FormatError}
    (h : d message offset = (.error e, stop)) (f : α → Decoder β) :
    (d >>= f) message offset = (.error e, stop) := by
  rw [bind_apply, h]

/-! ## Primitive decoders -/

/-- Fail where the cursor stands. -/
def fail (e : FormatError) : Decoder α :=
  fun _ offset => (.error e, offset)

/-- The offset of the cursor. -/
def position : Decoder Nat :=
  fun _ offset => (.ok offset, offset)

/-- How many octets follow the cursor. -/
def remaining : Decoder Nat :=
  fun message offset => (.ok (message.size - offset), offset)

/-- The next `count` octets. -/
def octets (count : Nat) : Decoder (Vector UInt8 count) :=
  fun message offset =>
    if h : offset + count ≤ message.size then
      (.ok ⟨message.extract offset (offset + count), by simp only [Array.size_extract]; omega⟩,
        offset + count)
    else (.error (.truncated offset count), offset)

/-- The next `count` octets as a byte string. -/
def bytes (count : Nat) : Decoder Bytes := do
  let v ← octets count
  pure v.toList

/-- The next octet. -/
def u8 : Decoder UInt8 := do
  let v ← octets 1
  pure v[0]

/-- The next 16-bit word, high octet first. -/
def u16 : Decoder UInt16 := do
  let v ← octets 2
  pure (Bytes.toUInt16 v[0] v[1])

/-- The next 32-bit word, high octet first. -/
def u32 : Decoder UInt32 := do
  let v ← octets 4
  pure (Bytes.toUInt32 (v.get 0) (v.get 1) (v.get 2) (v.get 3))

/-- The octets up to the offset `stop`; a cursor already past it fails with the given error. -/
def bytesUpTo (stop : Nat) (past : FormatError) : Decoder Bytes := do
  let start ← position
  if start ≤ stop then bytes (stop - start) else fail past

/-! ## Repetition -/

/-- Run a decoder `count` times, putting the values in front of those already read. -/
def replicateOnto (d : Decoder α) : (count : Nat) → List α → Decoder (List α)
  | 0, done => pure done.reverse
  | count + 1, done => fun message offset =>
    match d message offset with
    | (.ok a, stop) => replicateOnto d count (a :: done) message stop
    | (.error e, stop) => (.error e, stop)

/-- Run a decoder `count` times. -/
def replicate (count : Nat) (d : Decoder α) : Decoder (List α) :=
  replicateOnto d count []

/-- The values already read only stand in front of the others. -/
theorem replicateOnto_eq (d : Decoder α) (count : Nat) (done : List α) (message : Array UInt8)
    (offset : Nat) :
    replicateOnto d count done message offset =
      match replicateOnto d count [] message offset with
      | (.ok more, stop) => (.ok (done.reverse ++ more), stop)
      | (.error e, stop) => (.error e, stop) := by
  induction count generalizing done offset with
  | zero => simp [replicateOnto]
  | succ count ih =>
    simp only [replicateOnto]
    split
    · next a stop _ =>
      rw [ih (a :: done), ih [a]]
      split <;> simp
    · rfl

@[simp] theorem replicate_zero (d : Decoder α) : replicate 0 d = pure [] := rfl

/-- One value, then the others. -/
theorem replicate_succ (d : Decoder α) (count : Nat) :
    replicate (count + 1) d = (do
      let a ← d
      let more ← replicate count d
      pure (a :: more)) := by
  funext message offset
  simp only [replicate, bind_apply, replicateOnto, pure_apply]
  obtain ⟨result, stop⟩ := d message offset
  cases result with
  | error e => rfl
  | ok a =>
    dsimp only
    rw [replicateOnto_eq d count [a]]
    obtain ⟨result, stop⟩ := replicateOnto d count [] message stop
    cases result <;> rfl

end Decoder

end DnsHealth
