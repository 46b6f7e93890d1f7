import DnsHealth.RecordType

/-!
# Format errors

The ways in which a message, a name or one of its parts can be malformed. `FormatError.message` is
the only place that words them.
-/

namespace DnsHealth

/-- Why a message cannot be read or written. -/
inductive FormatError where
  /-- The message is shorter than the fixed header. -/
  | invalidHeader
  /-- A label is empty, too long, not text, or of an unassigned kind. -/
  | invalidLabel
  /-- A name takes more than 255 octets on the wire. -/
  | nameTooLong
  /-- A read of `need` octets at `offset` runs past the end of the message. -/
  | truncated (offset need : Nat)
  /-- The compression pointer at `offset` does not point strictly backwards. -/
  | badPointer (offset : Nat)
  /-- The RDATA of a record does not fill its declared length. -/
  | invalidRdata (type : RecordType)
  /-- The options of an OPT record are not well delimited. -/
  | invalidEdns
  /-- A header field holds a value wider than its bits. -/
  | fieldTooWide
  deriving DecidableEq, Repr

/-- The wording of a format error. -/
def FormatError.message : FormatError → String
  | .invalidHeader => "Invalid DNS header"
  | .invalidLabel => "Invalid DNS label"
  | .nameTooLong => "Domain name exceeds 255 octets"
  | .truncated offset need => s!"Truncated message at offset {offset}, need {need} more bytes"
  | .badPointer offset => s!"Bad compression pointer at offset {offset}"
  | .invalidRdata type => s!"Invalid RDATA for {type.name}"
  | .invalidEdns => "Invalid EDNS OPT record"
  | .fieldTooWide => "Invalid bit stream: excessive value for bits written"

/-- What a reader makes of octets can be compared with a result. -/
instance decidableEqExcept {ε α : Type} [DecidableEq ε] [DecidableEq α] : DecidableEq (Except ε α)
  | .ok a, .ok b => decidable_of_iff (a = b) ⟨congrArg _, Except.ok.inj⟩
  | .error a, .error b => decidable_of_iff (a = b) ⟨congrArg _, Except.error.inj⟩
  | .ok _, .error _ | .error _, .ok _ => isFalse nofun

end DnsHealth
