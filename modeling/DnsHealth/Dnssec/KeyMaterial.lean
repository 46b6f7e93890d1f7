import DnsHealth.Dnssec.Verification

/-!
# Key material

What the answer to a key query yields: the keys in response order, the records that form the key
set, and the first signature that came along.

`KeyMaterial.signsItself` is the self check of the key set, and `KeyMaterial.agreesWith` its cross
check against the delegation records of the parent zone, which speaks only about the first
key-signing key and is vacuously true without one.
-/

namespace DnsHealth

/-- The answers that are not signatures. -/
def withoutSignatures (answers : List Record) : List Record :=
  answers.filter fun record => record.type ≠ .rrsig

/-- The first signature among the answers: the first answer of signature type that holds one. -/
def firstSignature? (answers : List Record) : Option SignatureRecord :=
  (answers.filter fun record => record.type = .rrsig).findSome? SignatureRecord.ofRecord?

/-- The key set of a zone and the signature that accompanied it. -/
structure KeyMaterial where
  keys : List ZoneKey
  signature : Option SignatureRecord
  /-- The key records as received. -/
  rrset : List Record
  deriving DecidableEq, Repr, Inhabited

namespace KeyMaterial

/-- The key material in the answers to a key query. -/
def ofAnswers (answers : List Record) : KeyMaterial :=
  let rrset := (withoutSignatures answers).filter fun record => record.type = .dnskey
  { keys := rrset.filterMap ZoneKey.ofRecord?, signature := firstSignature? answers, rrset }

def isEmpty (material : KeyMaterial) : Bool :=
  material.keys.isEmpty

/-- The keys with the zone flag, key-signing keys included. -/
def zoneKeys (material : KeyMaterial) : List ZoneKey :=
  material.keys.filter fun key => key.key.isZoneKey

/-- The key-signing keys. -/
def ksks (material : KeyMaterial) : List ZoneKey :=
  material.keys.filter fun key => key.key.isKsk

def firstKsk? (material : KeyMaterial) : Option ZoneKey :=
  material.ksks.head?

/-- Some key-signing key verifies the signature over the key set. -/
def signsItself (check : SignatureCheck) (material : KeyMaterial) : Bool :=
  match material.signature with
  | some sig => material.ksks.any fun ksk => verifiesRrset check sig ksk material.rrset
  | none => false

/-- A delegation record names the key: its digest type is supported and its digest is that of the
key. -/
def matchesKey (digest : DigestType → Bytes → Bytes) (key : ZoneKey) (ds : Ds) : Bool :=
  match DigestType.ofNumber? ds.digestType with
  | some type => digest type key.digestInput = ds.digest
  | none => false

/-- Every delegation record names the first key-signing key, if there is one. -/
def agreesWith (digest : DigestType → Bytes → Bytes) (material : KeyMaterial) (records : List Ds) :
    Bool :=
  match material.firstKsk? with
  | some ksk => records.all (matchesKey digest ksk)
  | none => true

end KeyMaterial

end DnsHealth
