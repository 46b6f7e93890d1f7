/-!
# DNSSEC errors

Why a signature does not verify a record set. A report shows these only as a flag; the wording is in
`DnssecError.message`.
-/

namespace DnsHealth

inductive DnssecError where
  /-- The key tag of the signature is not that of the key. -/
  | keyTagMismatch
  /-- The signer of the signature is not the owner of the key; both as presented. -/
  | signerMismatch (signer owner : String)
  /-- The protocol field of the key is not 3. -/
  | invalidProtocol (protocol : UInt8)
  /-- Signature and key name different algorithms. -/
  | algorithmMismatch (sig key : UInt8)
  /-- The algorithm is not one that can be verified. -/
  | unsupportedAlgorithm (algorithm : UInt8)
  /-- The records do not form the record set that the signature covers. -/
  | rrsetMismatch
  /-- The signature counts more labels than the owner has. -/
  | invalidLabelCount (labels : UInt8) (owner : Nat)
  /-- The public key does not have the form that its algorithm asks for. -/
  | invalidPublicKey
  /-- The signature is not a signature of the data under the key. -/
  | signatureVerificationFailed
  deriving DecidableEq, Repr

/-- The wording of a DNSSEC error. -/
def DnssecError.message : DnssecError → String
  | .keyTagMismatch => "Key tag does not match"
  | .signerMismatch signer owner => s!"Signer name {signer} does not match key owner {owner}"
  | .invalidProtocol protocol => s!"DNSKEY protocol {protocol.toNat} is not 3"
  | .algorithmMismatch sig key =>
    s!"RRSIG algorithm {sig.toNat} does not match DNSKEY algorithm {key.toNat}"
  | .unsupportedAlgorithm algorithm => s!"Unsupported DNSSEC algorithm: {algorithm.toNat}"
  | .rrsetMismatch => "RRset is inconsistent with the covering RRSIG"
  | .invalidLabelCount labels owner =>
    s!"RRSIG label count {labels.toNat} exceeds owner label count {owner}"
  | .invalidPublicKey => "Invalid DNSKEY public key format"
  | .signatureVerificationFailed => "DNSSEC signature verification failed"

end DnsHealth
