import DnsHealth.Proofs.Message.PartialDecoder

/-!
# The cursor of a reader

A caller may ask one read after another of a message, of any kind and in any order, and go on after
a failure. Each read begins where the one before it stopped. The cursor then stays inside the
message and never goes back, reads of fixed width and of names that fail leave it alone, and no
access on the way is undefined (`readSteps_inside`).
-/

namespace DnsHealth

/-! ### Failed reads -/

namespace Decoder

variable {α β : Type} {d : Decoder α}

/-- A read that fails leaves the cursor where it was. -/
def Stays (d : Decoder α) : Prop :=
  ∀ message offset e stop, d message offset = (.error e, stop) → stop = offset

namespace Stays

/-- What is made of a value that was read does not move the cursor. -/
theorem last {g : α → β} (hd : Stays d) : Stays (d >>= fun a => pure (g a)) := by
  intro message offset e stop h
  rw [bind_apply] at h
  split at h
  case _ => simp [pure_apply] at h
  case _ e' next hread =>
      obtain ⟨-, rfl⟩ := Prod.mk.inj h
      exact hd message offset e' next hread

protected theorem map (hd : Stays d) (g : α → β) : Stays (g <$> d) :=
  hd.last

protected theorem octets (count : Nat) : Stays (octets count) := by
  intro message offset e stop h
  rw [Decoder.octets] at h
  split at h
  case _ => simp at h
  case _ => exact (Prod.mk.inj h).2.symm

protected theorem bytes (count : Nat) : Stays (bytes count) :=
  (Stays.octets count).last

protected theorem u8 : Stays u8 :=
  (Stays.octets 1).last

protected theorem u16 : Stays u16 :=
  (Stays.octets 2).last

protected theorem u32 : Stays u32 :=
  (Stays.octets 4).last

/-- A name is refused during the walk over its labels or not at all. -/
protected theorem name : Stays name := by
  intro message offset e stop h
  rcases hwalk : labels message offset offset 1 with e' | ⟨found, next⟩
  · rw [name_of_labels_error hwalk] at h
    exact (Prod.mk.inj h).2.symm
  · rw [name_of_labels hwalk] at h
    simp at h

end Stays

end Decoder

/-! ### Single reads -/

/-- A read that can be asked of a cursor. -/
inductive ReadOperation where
  | u8
  | u16
  | u32
  | bytes (count : Nat)
  | name
  | rdata (type : RecordType) (length : Nat)
  deriving DecidableEq, Repr

/-- What a read gives. -/
inductive ReadValue where
  | u8 (value : UInt8)
  | u16 (value : UInt16)
  | u32 (value : UInt32)
  | bytes (value : Bytes)
  | name (value : Name)
  | rdata (value : Rdata)
  deriving DecidableEq, Repr

namespace ReadOperation

def decoder : ReadOperation → Decoder ReadValue
  | u8 => .u8 <$> Decoder.u8
  | u16 => .u16 <$> Decoder.u16
  | u32 => .u32 <$> Decoder.u32
  | bytes count => .bytes <$> Decoder.bytes count
  | name => .name <$> Decoder.name
  | rdata type length => .rdata <$> Rdata.decoder type length

def partialDecoder : ReadOperation → PartialDecoder ReadValue
  | u8 => .u8 <$> PartialDecoder.u8
  | u16 => .u16 <$> PartialDecoder.u16
  | u32 => .u32 <$> PartialDecoder.u32
  | bytes count => .bytes <$> PartialDecoder.bytes count
  | name => .name <$> PartialDecoder.name
  | rdata type length => .rdata <$> PartialDecoder.rdata type length

theorem agrees (operation : ReadOperation) :
    PartialDecoder.Agrees operation.partialDecoder operation.decoder := by
  cases operation with
  | u8 => exact PartialDecoder.Agrees.u8.map _
  | u16 => exact PartialDecoder.Agrees.u16.map _
  | u32 => exact PartialDecoder.Agrees.u32.map _
  | bytes count => exact (PartialDecoder.Agrees.bytes count).map _
  | name => exact PartialDecoder.Agrees.name.map _
  | rdata type length => exact (PartialDecoder.Agrees.rdata type length).map _

/-- Only a failed read of record data may have moved the cursor. -/
theorem stays {operation : ReadOperation} (h : ∀ type length, operation ≠ .rdata type length) :
    operation.decoder.Stays := by
  cases operation with
  | u8 => exact Decoder.Stays.u8.map _
  | u16 => exact Decoder.Stays.u16.map _
  | u32 => exact Decoder.Stays.u32.map _
  | bytes count => exact (Decoder.Stays.bytes count).map _
  | name => exact Decoder.Stays.name.map _
  | rdata type length => exact absurd rfl (h type length)

end ReadOperation

/-! ### Reads in a row -/

/-- One read of a cursor: where it stood, what was asked, what came of it, and where it stands
then. -/
structure ReadStep where
  start : Nat
  operation : ReadOperation
  result : Except FormatError ReadValue
  stop : Nat

/-- Reads one after another, each from where the one before it stopped, failing or not. -/
def readSteps (message : Array UInt8) (offset : Nat) : List ReadOperation → List ReadStep
  | [] => []
  | operation :: rest =>
    let (result, stop) := operation.decoder message offset
    { start := offset, operation, result, stop } :: readSteps message stop rest

/-- The same reads by partial accesses. -/
def readSteps? (message : Array UInt8) (offset : Nat) : List ReadOperation → Option (List ReadStep)
  | [] => some []
  | operation :: rest =>
    match operation.partialDecoder message offset with
    | none => none
    | some (result, stop) =>
      (readSteps? message stop rest).map
        fun steps => { start := offset, operation, result, stop } :: steps

variable {message : Array UInt8} {offset : Nat}

/-- One read: it moves the cursor forward inside the message, and if it fails only for record
data. -/
structure ReadStep.Inside (message : Array UInt8) (step : ReadStep) : Prop where
  forward : step.start ≤ step.stop
  inside : step.stop ≤ message.size
  stays : ∀ e, step.result = .error e → (∀ type length, step.operation ≠ .rdata type length) →
    step.stop = step.start

theorem ReadOperation.inside (operation : ReadOperation) (h : offset ≤ message.size) :
    ReadStep.Inside message
      { start := offset, operation
        result := (operation.decoder message offset).1
        stop := (operation.decoder message offset).2 } := by
  obtain ⟨-, hforward, hinside⟩ := operation.agrees message offset h
  refine ⟨hforward, hinside, ?_⟩
  intro e hresult hoperation
  exact ReadOperation.stays hoperation message offset e _ (Prod.ext hresult rfl)

/-- Every read of a row begins inside the message, since the one before it ended there. -/
theorem inside_of_mem_readSteps (operations : List ReadOperation) (h : offset ≤ message.size) :
    ∀ step ∈ readSteps message offset operations, step.Inside message := by
  induction operations generalizing offset with
  | nil => exact fun step hstep => absurd hstep List.not_mem_nil
  | cons operation rest ih =>
      have hfirst := operation.inside h
      rw [readSteps]
      exact List.forall_mem_cons.mpr ⟨hfirst, ih hfirst.inside⟩

theorem readSteps?_eq (operations : List ReadOperation) (h : offset ≤ message.size) :
    readSteps? message offset operations = some (readSteps message offset operations) := by
  induction operations generalizing offset with
  | nil => rfl
  | cons operation rest ih =>
      obtain ⟨hread, -, hinside⟩ := operation.agrees message offset h
      rw [readSteps?, hread, readSteps]
      dsimp only
      rw [ih hinside]
      rfl

/-- **Reading stays inside the message.** Whatever the octets are and whatever is asked of them in a
row, failing or not: each read moves the cursor forward at most to the end of the message, and not
at all when it fails and was not for record data; no difference, slice or index on the way is
undefined; and neither is one in reading the octets as a message, which comes to a message or to an
error. -/
theorem readSteps_inside (bytes : Bytes) (operations : List ReadOperation) :
    (∀ step ∈ readSteps bytes.toArray 0 operations,
        step.start ≤ step.stop ∧ step.stop ≤ bytes.length ∧
          ∀ e, step.result = .error e → (∀ type length, step.operation ≠ .rdata type length) →
            step.stop = step.start) ∧
      readSteps? bytes.toArray 0 operations = some (readSteps bytes.toArray 0 operations) ∧
      PartialDecoder.ofWire bytes = some (Message.ofWire bytes) := by
  refine ⟨?_, readSteps?_eq operations (Nat.zero_le _), PartialDecoder.ofWire_eq bytes⟩
  intro step hstep
  obtain ⟨hforward, hinside, hstays⟩ :=
    inside_of_mem_readSteps operations (Nat.zero_le _) step hstep
  exact ⟨hforward, hinside, hstays⟩

end DnsHealth
