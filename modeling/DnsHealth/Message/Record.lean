import DnsHealth.Rdata.Decoder

/-!
# Questions and resource records

The entries of the sections of a message. The type of a record is a field of its own and may
disagree with its data; a record that was read always agrees. The length in front of the data is
written modulo 65536, while all the data follows.
-/

namespace DnsHealth

/-- An entry of the question section. -/
structure Question where
  name : Name
  type : RecordType
  cls : RecordClass
  deriving DecidableEq, Repr, Inhabited

namespace Question

def wire (question : Question) : Bytes :=
  question.name.wire ++ Bytes.ofUInt16 question.type.code ++ Bytes.ofUInt16 question.cls.code

def decoder : Decoder Question := do
  let name ← Decoder.name
  let type ← Decoder.u16
  let cls ← Decoder.u16
  pure { name, type := ⟨type⟩, cls := ⟨cls⟩ }

end Question

/-- A resource record. -/
structure Record where
  name : Name
  type : RecordType
  cls : RecordClass
  ttl : UInt32
  rdata : Rdata
  deriving DecidableEq, Repr, Inhabited

namespace Record

/-- An Internet record of the type of its data. -/
def ofRdata (name : Name) (ttl : UInt32) (rdata : Rdata) : Record :=
  { name, type := rdata.type, cls := .internet, ttl, rdata }

/-- The fields of a record on the wire. -/
def fieldsWire (name : Name) (type : RecordType) (cls : RecordClass) (ttl : UInt32)
    (data : Bytes) : Bytes :=
  name.wire ++ Bytes.ofUInt16 type.code ++ Bytes.ofUInt16 cls.code ++ Bytes.ofUInt32 ttl ++
    Bytes.ofUInt16 (UInt16.ofNat data.length) ++ data

def wire (record : Record) : Bytes :=
  fieldsWire record.name record.type record.cls record.ttl record.rdata.wire

def decoder : Decoder Record := do
  let name ← Decoder.name
  let type ← Decoder.u16
  let cls ← Decoder.u16
  let ttl ← Decoder.u32
  let length ← Decoder.u16
  let rdata ← Rdata.decoder ⟨type⟩ length.toNat
  pure { name, type := ⟨type⟩, cls := ⟨cls⟩, ttl, rdata }

end Record

end DnsHealth
