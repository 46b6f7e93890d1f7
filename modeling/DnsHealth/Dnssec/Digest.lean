import DnsHealth.Crypto.Sha1
import DnsHealth.Crypto.Sha2

/-!
# Delegation digests

The digests by which a parent zone names a key of its child.
-/

namespace DnsHealth

inductive DigestType where
  | sha1
  | sha256
  | sha384
  deriving DecidableEq, Repr

namespace DigestType

/-- The number in a delegation record. -/
def number : DigestType → UInt8
  | .sha1 => 1
  | .sha256 => 2
  | .sha384 => 4

/-- The digest with a number, if it is supported. -/
def ofNumber? (n : UInt8) : Option DigestType :=
  [sha1, sha256, sha384].find? fun type => type.number = n

def name : DigestType → String
  | .sha1 => "SHA1"
  | .sha256 => "SHA256"
  | .sha384 => "SHA384"

/-- The octets of a digest. -/
def length : DigestType → Nat
  | .sha1 => 20
  | .sha256 => 32
  | .sha384 => 48

/-- The digest of a byte string. -/
def digest : DigestType → Bytes → Bytes
  | .sha1 => Crypto.sha1
  | .sha256 => Crypto.sha256
  | .sha384 => Crypto.sha384

theorem ofNumber?_number (type : DigestType) : ofNumber? type.number = some type := by
  cases type <;> rfl

end DigestType

end DnsHealth
