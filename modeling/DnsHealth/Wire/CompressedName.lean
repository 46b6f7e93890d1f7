import DnsHealth.Name
import DnsHealth.Wire.Decoder

/-!
# Compressed names

A name in a message is a sequence of labels that ends in the root label or in a pointer to an
earlier offset, where it goes on. A pointer must lead strictly before the offset at which the walk
last began, so the walk ends whatever the message holds.

`Decoder.labels` is the walk. It answers with the labels and with the offset at which reading
resumes: after the root label, or after the first pointer.
-/

namespace DnsHealth

namespace Decoder

/-- A lower limit outweighs what is left of the message behind any offset. -/
theorem pointer_measure_lt {target limit : Nat} (h : target < limit) (size offset : Nat) :
    target * (size + 1) + (size - target) < limit * (size + 1) + (size - offset) := by
  have hlower : (target + 1) * (size + 1) ≤ limit * (size + 1) := Nat.mul_le_mul_right _ h
  rw [Nat.succ_mul] at hlower
  omega

/-- The labels of the name at `offset`. Pointers must lead before `limit`; `length` counts the wire
octets of the root label and of the labels walked so far. -/
def labels (message : Array UInt8) (offset limit length : Nat) :
    Except FormatError (List String × Nat) :=
  match _hfirst : message[offset]? with
  | none => .error (.truncated offset 1)
  | some first =>
    let size := first.toNat
    if size = 0 then .ok ([], offset + 1)
    else if size < 64 then
      if _hsize : offset + 1 + size ≤ message.size then
        if length + size + 1 ≤ Name.maxLength then
          match String.fromUTF8? ⟨message.extract (offset + 1) (offset + 1 + size)⟩ with
          | none => .error .invalidLabel
          | some label =>
            match labels message (offset + 1 + size) limit (length + size + 1) with
            | .ok (rest, stop) => .ok (label :: rest, stop)
            | .error e => .error e
        else .error .nameTooLong
      else .error (.truncated (offset + 1) size)
    else if size < 192 then .error .invalidLabel
    else
      match message[offset + 1]? with
      | none => .error (.truncated offset 2)
      | some low =>
        let target := (size - 192) * 256 + low.toNat
        if target < limit then
          match labels message target target length with
          | .ok (rest, _) => .ok (rest, offset + 2)
          | .error e => .error e
        else .error (.badPointer offset)
termination_by limit * (message.size + 1) + (message.size - offset)
decreasing_by
  · omega
  · exact pointer_measure_lt (by assumption) message.size offset

/-- A possibly compressed name. The cursor moves only when the walk over the labels ends well. -/
def name : Decoder Name :=
  fun message offset =>
    match labels message offset offset 1 with
    | .ok (found, stop) => (Name.ofLabels found, stop)
    | .error e => (.error e, offset)

end Decoder

end DnsHealth
