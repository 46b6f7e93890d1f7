import DnsHealth.Address
import DnsHealth.Name

/-!
# Record data

The typed data of a resource record. Types that nothing here interprets keep their octets under
their type code. The wire form is uncompressed; the canonical form is the wire form with the
embedded names in lower case, as signatures and digests cover it.

Lengths in front of character strings are written modulo 256, while all octets follow.
-/

namespace DnsHealth

/-- The start of a zone of authority. -/
structure Soa where
  mname : Name
  rname : Name
  serial : UInt32
  refresh : UInt32
  retry : UInt32
  expire : UInt32
  minimum : UInt32
  deriving DecidableEq, Repr

/-- The location of a service. -/
structure Srv where
  priority : UInt16
  weight : UInt16
  port : UInt16
  target : Name
  deriving DecidableEq, Repr

/-- A delegation signer: the digest of a key of the child zone. -/
structure Ds where
  keyTag : UInt16
  algorithm : UInt8
  digestType : UInt8
  digest : Bytes
  deriving DecidableEq, Repr

/-- A public key of a zone. -/
structure Dnskey where
  flags : UInt16
  protocol : UInt8
  algorithm : UInt8
  publicKey : Bytes
  deriving DecidableEq, Repr

/-- A signature over a record set. -/
structure Rrsig where
  typeCovered : RecordType
  algorithm : UInt8
  labels : UInt8
  originalTtl : UInt32
  expiration : UInt32
  inception : UInt32
  keyTag : UInt16
  signerName : Name
  signature : Bytes
  deriving DecidableEq, Repr

/-- Typed record data. -/
inductive Rdata where
  | a (address : Ipv4)
  | aaaa (address : Ipv6)
  | cname (target : Name)
  | ns (target : Name)
  | ptr (target : Name)
  | mx (preference : UInt16) (exchange : Name)
  | soa (zone : Soa)
  | txt (strings : List Bytes)
  | spf (strings : List Bytes)
  | srv (service : Srv)
  | ds (signer : Ds)
  | dnskey (key : Dnskey)
  | rrsig (signature : Rrsig)
  | unknown (type : RecordType) (data : Bytes)
  deriving DecidableEq, Repr

/-- No type and no data. -/
instance : Inhabited Rdata := ⟨.unknown ⟨0⟩ []⟩

/-! ## Keys -/

namespace Dnskey

/-- The flag of a zone key. -/
def zoneFlag : UInt16 := 0x0100

/-- The flags of a key-signing key: a zone key that is also a secure entry point. -/
def kskFlags : UInt16 := 0x0101

/-- The zone flag is set. -/
def isZoneKey (key : Dnskey) : Bool :=
  key.flags &&& zoneFlag ≠ 0

/-- The flags are exactly those of a key-signing key. -/
def isKsk (key : Dnskey) : Bool :=
  key.flags = kskFlags

/-- The wire form of the record data. -/
def wire (key : Dnskey) : Bytes :=
  Bytes.ofUInt16 key.flags ++ [key.protocol, key.algorithm] ++ key.publicKey

end Dnskey

/-! ## Signatures -/

namespace Rrsig

/-- The fields in front of the signer name. -/
def fixedFields (sig : Rrsig) : Bytes :=
  Bytes.ofUInt16 sig.typeCovered.code ++ [sig.algorithm, sig.labels] ++
    Bytes.ofUInt32 sig.originalTtl ++ Bytes.ofUInt32 sig.expiration ++
    Bytes.ofUInt32 sig.inception ++ Bytes.ofUInt16 sig.keyTag

/-- What a signature covers of its own record: everything before the signature field, with the
signer name in canonical form. -/
def signedFields (sig : Rrsig) : Bytes :=
  sig.fixedFields ++ sig.signerName.canonical

end Rrsig

namespace Rdata

/-- The record type of the data. -/
def type : Rdata → RecordType
  | .a _ => .a
  | .aaaa _ => .aaaa
  | .cname _ => .cname
  | .ns _ => .ns
  | .ptr _ => .ptr
  | .mx _ _ => .mx
  | .soa _ => .soa
  | .txt _ => .txt
  | .spf _ => .spf
  | .srv _ => .srv
  | .ds _ => .ds
  | .dnskey _ => .dnskey
  | .rrsig _ => .rrsig
  | .unknown type _ => type

/-! ## Wire forms -/

/-- Character strings, each after its length. -/
def stringsWire (strings : List Bytes) : Bytes :=
  strings.flatMap fun s => UInt8.ofNat s.length :: s

/-- The wire form with the embedded names written by `nameWire`. -/
def write (nameWire : Name → Bytes) : Rdata → Bytes
  | .a address => address.toList
  | .aaaa address => address.toList
  | .cname target | .ns target | .ptr target => nameWire target
  | .mx preference exchange => Bytes.ofUInt16 preference ++ nameWire exchange
  | .soa z =>
    nameWire z.mname ++ nameWire z.rname ++ Bytes.ofUInt32 z.serial ++ Bytes.ofUInt32 z.refresh ++
      Bytes.ofUInt32 z.retry ++ Bytes.ofUInt32 z.expire ++ Bytes.ofUInt32 z.minimum
  | .txt strings | .spf strings => stringsWire strings
  | .srv s =>
    Bytes.ofUInt16 s.priority ++ Bytes.ofUInt16 s.weight ++ Bytes.ofUInt16 s.port ++
      nameWire s.target
  | .ds d => Bytes.ofUInt16 d.keyTag ++ [d.algorithm, d.digestType] ++ d.digest
  | .dnskey key => key.wire
  | .rrsig sig => sig.fixedFields ++ nameWire sig.signerName ++ sig.signature
  | .unknown _ data => data

/-- The uncompressed wire form. -/
def wire (rdata : Rdata) : Bytes :=
  rdata.write Name.wire

/-- The canonical wire form: embedded names in lower case. -/
def canonical (rdata : Rdata) : Bytes :=
  rdata.write Name.canonical

end Rdata

end DnsHealth
