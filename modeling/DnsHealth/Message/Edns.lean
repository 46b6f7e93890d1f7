import DnsHealth.Bytes
import DnsHealth.FormatError

/-!
# EDNS

The OPT pseudo-record extends a message: its class carries the sender's payload size, its TTL the
upper response code bits, a version and sixteen flags, and its data a sequence of options.

`Edns.ofFields` and `Edns.fields` translate between this reading and the three record fields.
-/

namespace DnsHealth

/-- An option of an OPT record. -/
structure EdnsOption where
  code : UInt16
  data : Bytes
  deriving DecidableEq, Repr, Inhabited

/-- The content of an OPT record. -/
structure Edns where
  payloadSize : UInt16 := 0
  extendedRcode : UInt8 := 0
  version : UInt8 := 0
  flags : UInt16 := 0
  options : List EdnsOption := []
  deriving DecidableEq, Repr, Inhabited

namespace EdnsOption

/-- An option on the wire. Its length is written modulo 65536, while all the data follows. -/
def wire (option : EdnsOption) : Bytes :=
  Bytes.ofUInt16 option.code ++ Bytes.ofUInt16 (UInt16.ofNat option.data.length) ++ option.data

/-- Read a whole sequence of options, behind those already read. -/
def listOnto (done : List EdnsOption) : Bytes → Option (List EdnsOption)
  | [] => some done.reverse
  | c₁ :: c₂ :: l₁ :: l₂ :: rest =>
    let length := (Bytes.toUInt16 l₁ l₂).toNat
    let data := rest.take length
    if data.length = length then
      listOnto (⟨Bytes.toUInt16 c₁ c₂, data⟩ :: done) (rest.drop length)
    else none
  | _ => none
termination_by bytes => bytes.length
decreasing_by simp only [List.length_drop, List.length_cons]; omega

/-- Read a whole sequence of options. -/
def list? (bytes : Bytes) : Option (List EdnsOption) :=
  listOnto [] bytes

end EdnsOption

namespace Edns

/-- The flag by which a resolver is asked for DNSSEC records. -/
def dnssecOkFlag : UInt16 := 0x8000

/-- An OPT record with a payload size and nothing else. -/
def ofPayloadSize (size : UInt16) : Edns :=
  { payloadSize := size }

def dnssecOk (edns : Edns) : Bool :=
  edns.flags &&& dnssecOkFlag ≠ 0

/-- Set or clear the DNSSEC flag, leaving the other flags alone. -/
def setDnssecOk (edns : Edns) (value : Bool) : Edns :=
  { edns with
    flags := if value then edns.flags ||| dnssecOkFlag else edns.flags &&& ~~~dnssecOkFlag }

/-- Read the content of an OPT record off its class, TTL and data. -/
def ofFields (cls : UInt16) (ttl : UInt32) (data : Bytes) : Except FormatError Edns :=
  match EdnsOption.list? data with
  | some options =>
    .ok
      { payloadSize := cls
        extendedRcode := UInt8.ofNat (ttl.toNat / 16777216)
        version := UInt8.ofNat (ttl.toNat / 65536)
        flags := UInt16.ofNat ttl.toNat
        options }
  | none => .error .invalidEdns

/-- The TTL field of the OPT record. -/
def ttl (edns : Edns) : UInt32 :=
  UInt32.ofNat
    (edns.extendedRcode.toNat * 16777216 + edns.version.toNat * 65536 + edns.flags.toNat)

/-- The data field of the OPT record. -/
def data (edns : Edns) : Bytes :=
  edns.options.flatMap EdnsOption.wire

/-- The class, TTL and data of the OPT record. -/
def fields (edns : Edns) : UInt16 × UInt32 × Bytes :=
  (edns.payloadSize, edns.ttl, edns.data)

end Edns

end DnsHealth
