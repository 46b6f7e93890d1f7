import DnsHealth.Crypto.Ecdsa
import DnsHealth.Crypto.Ed25519
import DnsHealth.Crypto.Rsa
import DnsHealth.Crypto.Sha1
import DnsHealth.Crypto.Sha2
import DnsHealth.Dnssec.Error

/-!
# Signature algorithms

The algorithms whose signatures can be verified. `SignatureCheck` is the type of a signature
primitive; everything that verifies record sets takes one as a parameter, and `Algorithm.check` is
the real one.

A key of the wrong form is told apart from a signature that does not fit. All that is wrong inside a
key of the right form counts as a failed signature.
-/

namespace DnsHealth

inductive Algorithm where
  | rsaSha1
  | rsaSha1Nsec3
  | rsaSha256
  | rsaSha512
  | ecdsaP256
  | ecdsaP384
  | ed25519
  deriving DecidableEq, Repr

/-- A signature primitive: for an algorithm, a public key, a message and a signature, whether the
signature is accepted. -/
abbrev SignatureCheck :=
  Algorithm → (publicKey message signature : Bytes) → Except DnssecError Unit

namespace Algorithm

/-- The number in keys and signatures. -/
def number : Algorithm → UInt8
  | .rsaSha1 => 5
  | .rsaSha1Nsec3 => 7
  | .rsaSha256 => 8
  | .rsaSha512 => 10
  | .ecdsaP256 => 13
  | .ecdsaP384 => 14
  | .ed25519 => 15

/-- The algorithm with a number, if it is supported. -/
def ofNumber? (n : UInt8) : Option Algorithm :=
  [rsaSha1, rsaSha1Nsec3, rsaSha256, rsaSha512, ecdsaP256, ecdsaP384, ed25519].find?
    fun algorithm => algorithm.number = n

theorem ofNumber?_number (algorithm : Algorithm) :
    ofNumber? algorithm.number = some algorithm := by
  cases algorithm <;> rfl

def name : Algorithm → String
  | .rsaSha1 => "RSASHA1"
  | .rsaSha1Nsec3 => "RSASHA1-NSEC3-SHA1"
  | .rsaSha256 => "RSASHA256"
  | .rsaSha512 => "RSASHA512"
  | .ecdsaP256 => "ECDSAP256SHA256"
  | .ecdsaP384 => "ECDSAP384SHA384"
  | .ed25519 => "ED25519"

/-- Success or a failed signature. -/
def accept (valid : Bool) : Except DnssecError Unit :=
  if valid then .ok () else .error .signatureVerificationFailed

/-- RSA with the given digest and its identifier. -/
def checkRsa (identifier : Bytes) (digest : Bytes → Bytes) (publicKey message signature : Bytes) :
    Except DnssecError Unit :=
  match Crypto.Rsa.PublicKey.ofWire? publicKey with
  | some key => accept (Crypto.Rsa.verifies key identifier (digest message) signature)
  | none => .error .invalidPublicKey

/-- ECDSA over the given curve and digest; a key is two coordinates. -/
def checkEcdsa (curve : Crypto.Ecdsa.Curve) (digest : Bytes → Bytes)
    (publicKey message signature : Bytes) : Except DnssecError Unit :=
  if publicKey.length = 2 * curve.size then
    accept (Crypto.Ecdsa.verifies curve publicKey (digest message) signature)
  else .error .invalidPublicKey

/-- Ed25519; a key has 32 octets. -/
def checkEd25519 (publicKey message signature : Bytes) : Except DnssecError Unit :=
  if publicKey.length = 32 then accept (Crypto.Ed25519.verifies publicKey message signature)
  else .error .invalidPublicKey

/-- The signature primitives of the algorithms. -/
def check : SignatureCheck
  | .rsaSha1 | .rsaSha1Nsec3 => checkRsa Crypto.Rsa.sha1Identifier Crypto.sha1
  | .rsaSha256 => checkRsa Crypto.Rsa.sha256Identifier Crypto.sha256
  | .rsaSha512 => checkRsa Crypto.Rsa.sha512Identifier Crypto.sha512
  | .ecdsaP256 => checkEcdsa Crypto.Ecdsa.p256 Crypto.sha256
  | .ecdsaP384 => checkEcdsa Crypto.Ecdsa.p384 Crypto.sha384
  | .ed25519 => checkEd25519

end Algorithm

end DnsHealth
