import DnsHealth.Dnssec.Error
import DnsHealth.Message.Record

/-!
# Signed data

The byte string that a signature over a record set covers (RFC 4034, section 3.1.8.1): the fields of
the signature record in front of the signature, then one block for each distinct canonical record
data, in ascending octet order. Each block repeats the owner, type and class of the set and the
original TTL of the signature.

The owner is that of the first record. When the signature counts fewer labels than it has, the set
was expanded from a wildcard, and the owner is that wildcard again.
-/

namespace DnsHealth

namespace SignedData

/-- The owner that the signer saw, for a signature that counts `labels` labels. -/
def owner (labels : UInt8) (received : Name) : Except DnssecError Name :=
  if received.labelCount < labels.toNat then
    .error (.invalidLabelCount labels received.labelCount)
  else if labels.toNat < received.labelCount then .ok (received.wildcardSuffix labels.toNat)
  else .ok received

/-- The canonical record data of a set, ascending and without repetition. -/
def canonicalRdata (rrset : List Record) : List Bytes :=
  ((rrset.map fun record => record.rdata.canonical).mergeSort (· ≤ ·)).eraseReps

/-- The block of one record data. -/
def block (owner : Name) (type : RecordType) (cls : RecordClass) (ttl : UInt32) (rdata : Bytes) :
    Bytes :=
  owner.canonical ++ Bytes.ofUInt16 type.code ++ Bytes.ofUInt16 cls.code ++ Bytes.ofUInt32 ttl ++
    Bytes.ofUInt16 (UInt16.ofNat rdata.length) ++ rdata

end SignedData

/-- The byte string that a signature over a record set covers. -/
def signedData (sig : Rrsig) : List Record → Except DnssecError Bytes
  | [] => .error .rrsetMismatch
  | first :: rest =>
    match SignedData.owner sig.labels first.name with
    | .error e => .error e
    | .ok owner =>
      .ok
        (sig.signedFields ++
          (SignedData.canonicalRdata (first :: rest)).flatMap
            (SignedData.block owner first.type first.cls sig.originalTtl))

end DnsHealth
