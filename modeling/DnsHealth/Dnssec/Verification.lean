import DnsHealth.Dnssec.Algorithm
import DnsHealth.Dnssec.Digest
import DnsHealth.Dnssec.KeyTag
import DnsHealth.Dnssec.SignedData

/-!
# Verification of record sets

A `ZoneKey` and a `SignatureRecord` are key and signature data together with the fields of the
records that carried them. `verifyRrset` checks a signature over a record set with a key, in a fixed
order of causes; the validity period of the signature is not looked at.
-/

namespace DnsHealth

/-- A key with its owner and class. -/
structure ZoneKey where
  owner : Name
  cls : RecordClass
  key : Dnskey
  deriving DecidableEq, Repr

namespace ZoneKey

/-- The key of a record that holds one. -/
def ofRecord? (record : Record) : Option ZoneKey :=
  match record.rdata with
  | .dnskey key => some { owner := record.name, cls := record.cls, key }
  | _ => none

def keyTag (key : ZoneKey) : UInt16 :=
  key.key.keyTag

/-- What a delegation digest of the key covers. -/
def digestInput (key : ZoneKey) : Bytes :=
  key.owner.canonical ++ key.key.wire

end ZoneKey

/-- A signature with the owner, class and TTL of its record. -/
structure SignatureRecord where
  owner : Name
  cls : RecordClass
  ttl : UInt32
  rrsig : Rrsig
  deriving DecidableEq, Repr

/-- The signature of a record that holds one. -/
def SignatureRecord.ofRecord? (record : Record) : Option SignatureRecord :=
  match record.rdata with
  | .rrsig rrsig => some { owner := record.name, cls := record.cls, ttl := record.ttl, rrsig }
  | _ => none

/-- The protocol field that every key must have. -/
def keyProtocol : UInt8 := 3

/-- The records share one owner up to case, the class of the signature and the covered type. -/
def Covers (sig : SignatureRecord) (first : Name) (rrset : List Record) : Prop :=
  ∀ record ∈ rrset,
    record.name.eqIgnoreCase first = true ∧ record.cls = sig.cls ∧
      record.type = sig.rrsig.typeCovered

instance (sig : SignatureRecord) (first : Name) (rrset : List Record) :
    Decidable (Covers sig first rrset) :=
  inferInstanceAs (Decidable (∀ record ∈ rrset, _))

/-- What must hold between signature and key before the records matter. -/
def checkKey (sig : SignatureRecord) (key : ZoneKey) : Except DnssecError Unit :=
  if key.keyTag ≠ sig.rrsig.keyTag then .error .keyTagMismatch
  else if key.cls ≠ sig.cls then .error .rrsetMismatch
  else if key.key.algorithm ≠ sig.rrsig.algorithm then
    .error (.algorithmMismatch sig.rrsig.algorithm key.key.algorithm)
  else if sig.rrsig.signerName.eqIgnoreCase key.owner = false then
    .error (.signerMismatch sig.rrsig.signerName.fqdn key.owner.fqdn)
  else if key.key.protocol ≠ keyProtocol then .error (.invalidProtocol key.key.protocol)
  else .ok ()

/-- The records form a set that the signature covers. -/
def checkRrset (sig : SignatureRecord) : List Record → Except DnssecError Unit
  | [] => .error .rrsetMismatch
  | first :: rest =>
    if Covers sig first.name (first :: rest) then .ok () else .error .rrsetMismatch

/-- Verify a signature over a record set with a key and a signature primitive. -/
def verifyRrset (check : SignatureCheck) (sig : SignatureRecord) (key : ZoneKey)
    (rrset : List Record) : Except DnssecError Unit := do
  checkKey sig key
  checkRrset sig rrset
  match Algorithm.ofNumber? sig.rrsig.algorithm with
  | none => .error (.unsupportedAlgorithm sig.rrsig.algorithm)
  | some algorithm =>
    let data ← signedData sig.rrsig rrset
    check algorithm key.key.publicKey data sig.rrsig.signature

/-- Whether a signature over a record set verifies. -/
def verifiesRrset (check : SignatureCheck) (sig : SignatureRecord) (key : ZoneKey)
    (rrset : List Record) : Bool :=
  (verifyRrset check sig key rrset).isOk

end DnsHealth
