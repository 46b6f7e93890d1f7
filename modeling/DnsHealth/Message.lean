import DnsHealth.Message.Edns
import DnsHealth.Message.Header
import DnsHealth.Message.Record

/-!
# Messages

A message is a header, four sections and an optional OPT record. The OPT record travels in the
additional section; reading takes it out of there and writing puts it behind the other records.

* `Message.wire` counts the sections itself, so the counts in the header do not matter to it. The
  only messages without a wire form are those whose header numbers do not fit their bits.
* `Message.decoder` reads as many entries as the header counts and leaves whatever follows.
-/

namespace DnsHealth

/-- A message. -/
structure Message where
  header : Header := {}
  questions : List Question := []
  answers : List Record := []
  authorities : List Record := []
  additionals : List Record := []
  edns : Option Edns := none
  deriving DecidableEq, Repr, Inhabited

namespace Message

/-- Add an OPT record, or replace the one there. -/
def withEdns (message : Message) (payloadSize : UInt16) (dnssecOk : Bool) : Message :=
  { message with edns := some ((Edns.ofPayloadSize payloadSize).setDnssecOk dnssecOk) }

/-- The payload size that queries offer. -/
def queryPayloadSize : UInt16 := 2048

/-- A recursive Internet query for a name and type that asks for DNSSEC records. -/
def query (name : Name) (type : RecordType) (id : UInt16) : Message :=
  withEdns
    { header := { id, recursionDesired := true, questionCount := 1 }
      questions := [{ name, type, cls := .internet }] }
    queryPayloadSize true

/-- The full response code: the extended bits above the four of the header. -/
def rcode (message : Message) : UInt16 :=
  let extended := (message.edns.map fun edns => edns.extendedRcode.toNat).getD 0
  UInt16.ofNat (extended * 16) ||| UInt16.ofNat message.header.rcode.toNat

/-- The name of the full response code. -/
def rcodeName (message : Message) : String :=
  responseCodeName message.rcode

/-! ## Writing -/

/-- The OPT record on the wire. -/
def ednsWire (edns : Edns) : Bytes :=
  Record.fieldsWire .root .opt ⟨edns.payloadSize⟩ edns.ttl edns.data

/-- The header with the counts of the sections, modulo 65536. -/
def countedHeader (message : Message) : Header :=
  { message.header with
    questionCount := UInt16.ofNat message.questions.length
    answerCount := UInt16.ofNat message.answers.length
    authorityCount := UInt16.ofNat message.authorities.length
    additionalCount :=
      UInt16.ofNat (message.additionals.length + message.edns.toList.length) }

/-- Everything after the header, without compression. -/
def sectionsWire (message : Message) : Bytes :=
  message.questions.flatMap Question.wire ++
    (message.answers ++ message.authorities ++ message.additionals).flatMap Record.wire ++
    message.edns.toList.flatMap ednsWire

/-- The wire form. -/
def wire (message : Message) : Except FormatError Bytes :=
  match message.countedHeader.wire with
  | .ok header => .ok (header ++ message.sectionsWire)
  | .error e => .error e

/-! ## Reading -/

/-- The data of a record that carries the EDNS content: an OPT record of the root. -/
def ednsData? (record : Record) : Option Bytes :=
  if record.type = .opt ∧ record.name.isRoot then
    match record.rdata with
    | .unknown _ data => some data
    | _ => none
  else none

/-- An entry of the additional section: the EDNS content, or another record. -/
def additionalDecoder : Decoder (Edns ⊕ Record) := do
  let record ← Record.decoder
  match ednsData? record with
  | some data =>
    match Edns.ofFields record.cls.code record.ttl data with
    | .ok edns => pure (.inl edns)
    | .error e => Decoder.fail e
  | none => pure (.inr record)

/-- Read a message. Of several OPT records the last one counts. -/
def decoder : Decoder Message := do
  let header ← Header.decoder
  let questions ← Decoder.replicate header.questionCount.toNat Question.decoder
  let answers ← Decoder.replicate header.answerCount.toNat Record.decoder
  let authorities ← Decoder.replicate header.authorityCount.toNat Record.decoder
  let entries ← Decoder.replicate header.additionalCount.toNat additionalDecoder
  pure
    { header, questions, answers, authorities
      additionals := entries.filterMap Sum.getRight?
      edns := (entries.filterMap Sum.getLeft?).getLast? }

/-- The message at the start of a byte string. -/
def ofWire (bytes : Bytes) : Except FormatError Message :=
  decoder.decode bytes

end Message

end DnsHealth
