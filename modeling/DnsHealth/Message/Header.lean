import DnsHealth.Wire.Decoder

/-!
# Message headers

The fixed twelve octets of a message. The second word packs the flags and three narrow numbers; a
number too wide for its bits cannot be written. Packing is by multiplication, unpacking by division
and remainder.
-/

namespace DnsHealth

/-- A message header. -/
structure Header where
  id : UInt16 := 0
  response : Bool := false
  opcode : UInt8 := 0
  authoritative : Bool := false
  truncated : Bool := false
  recursionDesired : Bool := false
  recursionAvailable : Bool := false
  reserved : UInt8 := 0
  rcode : UInt8 := 0
  questionCount : UInt16 := 0
  answerCount : UInt16 := 0
  authorityCount : UInt16 := 0
  additionalCount : UInt16 := 0
  deriving DecidableEq, Repr, Inhabited

namespace Header

/-- The octets of a header. -/
def size : Nat := 12

/-- The narrow numbers fit their bits. -/
def Fits (header : Header) : Prop :=
  header.opcode < 16 ∧ header.reserved < 8 ∧ header.rcode < 16

instance (header : Header) : Decidable header.Fits :=
  inferInstanceAs (Decidable (_ ∧ _ ∧ _))

/-- The second word: flags, operation code, reserved bits and response code. -/
def flagsWord (header : Header) : UInt16 :=
  UInt16.ofNat
    (header.response.toNat * 32768 + header.opcode.toNat * 2048 +
      header.authoritative.toNat * 1024 + header.truncated.toNat * 512 +
      header.recursionDesired.toNat * 256 + header.recursionAvailable.toNat * 128 +
      header.reserved.toNat * 16 + header.rcode.toNat)

/-- The twelve octets of a header whose numbers fit. -/
def wire (header : Header) : Except FormatError Bytes :=
  if header.Fits then
    .ok (Bytes.ofUInt16 header.id ++ Bytes.ofUInt16 header.flagsWord ++
      Bytes.ofUInt16 header.questionCount ++ Bytes.ofUInt16 header.answerCount ++
      Bytes.ofUInt16 header.authorityCount ++ Bytes.ofUInt16 header.additionalCount)
  else .error .fieldTooWide

/-- The header with the given words. -/
def ofWords (id flags questions answers authorities additionals : UInt16) : Header :=
  let bits := flags.toNat
  { id
    response := bits / 32768 % 2 == 1
    opcode := UInt8.ofNat (bits / 2048 % 16)
    authoritative := bits / 1024 % 2 == 1
    truncated := bits / 512 % 2 == 1
    recursionDesired := bits / 256 % 2 == 1
    recursionAvailable := bits / 128 % 2 == 1
    reserved := UInt8.ofNat (bits / 16 % 8)
    rcode := UInt8.ofNat (bits % 16)
    questionCount := questions
    answerCount := answers
    authorityCount := authorities
    additionalCount := additionals }

/-- Read a header. A message shorter than one has no header at all. -/
def decoder : Decoder Header :=
  fun message offset =>
    match Decoder.octets size message offset with
    | (.ok v, stop) =>
      (.ok (ofWords (Bytes.toUInt16 v[0] v[1]) (Bytes.toUInt16 v[2] v[3])
          (Bytes.toUInt16 v[4] v[5]) (Bytes.toUInt16 v[6] v[7]) (Bytes.toUInt16 v[8] v[9])
          (Bytes.toUInt16 v[10] v[11])),
        stop)
    | (.error _, stop) => (.error .invalidHeader, stop)

end Header

end DnsHealth
