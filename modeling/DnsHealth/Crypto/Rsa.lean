import DnsHealth.Bytes

/-!
# RSA signatures

Verification of RSASSA-PKCS1-v1_5 signatures (RFC 8017) and the key format of RFC 3110: the length
of the exponent in one octet, or in two behind a zero octet, then the exponent, then the modulus.

A verifier accepts moduli of 1024 to 8192 bits, where the lower bound looks at the length rounded up
to whole octets, and odd exponents from 3 to 33 bits.

`power op unit x n` combines `n` copies of `x` by repeated squaring, in a number of steps
logarithmic in `n`. Powers modulo a number and multiples of curve points are both instances.
-/

namespace DnsHealth.Crypto

variable {α : Type}

/-- The `n`-fold combination of `x` with itself. -/
def power (op : α → α → α) (unit x : α) (n : Nat) : α :=
  if n = 0 then unit
  else
    let rest := power op unit (op x x) (n / 2)
    if n % 2 = 1 then op x rest else rest
termination_by n

/-- `base ^ exponent` modulo `modulus`. -/
def powMod (base exponent modulus : Int) : Int :=
  power (fun x y => x * y % modulus) (1 % modulus) (base % modulus) exponent.toNat

/-- The inverse of a number modulo a prime, by Fermat's little theorem; zero goes to zero. -/
def inverseMod (x prime : Int) : Int :=
  powMod x (prime - 2) prime

namespace Rsa

/-- A public key as two big-endian numbers. -/
structure PublicKey where
  exponent : Bytes
  modulus : Bytes
  deriving DecidableEq, Repr

/-- The length of the exponent and the octets behind it. -/
def exponentLength? : Bytes → Option (Nat × Bytes)
  | 0 :: high :: low :: rest => some ((Bytes.toUInt16 high low).toNat, rest)
  | length :: rest => some (length.toNat, rest)
  | [] => none

/-- Split a key into exponent and modulus. Neither may be empty. -/
def PublicKey.ofWire? (key : Bytes) : Option PublicKey :=
  match exponentLength? key with
  | some (length, rest) =>
    if length = 0 ∨ rest.length ≤ length then none
    else some { exponent := rest.take length, modulus := rest.drop length }
  | none => none

/-- The key format: a short length for exponents up to 255 octets, a long one above. -/
def PublicKey.wire (key : PublicKey) : Bytes :=
  let length := key.exponent.length
  (if length ≤ 255 then [UInt8.ofNat length] else 0 :: Bytes.ofUInt16 (UInt16.ofNat length)) ++
    key.exponent ++ key.modulus

/-- The number of bits of a natural number. -/
def bitLength (n : Nat) : Nat :=
  if n = 0 then 0 else n.log2 + 1

/-- The modulus is odd, has no leading zero octet and has an accepted length. -/
def acceptsModulus (modulus : Bytes) : Bool :=
  let bits := bitLength (Bytes.toNatBE modulus)
  modulus.head? != some 0 && Bytes.toNatBE modulus % 2 == 1 &&
    decide (1024 ≤ (bits + 7) / 8 * 8) && decide (bits ≤ 8192)

/-- The exponent is odd, has no leading zero octet, is at least 3 and has at most 33 bits. -/
def acceptsExponent (exponent : Bytes) : Bool :=
  let e := Bytes.toNatBE exponent
  exponent.head? != some 0 && exponent.length ≤ 5 && e % 2 == 1 && decide (3 ≤ e) &&
    decide (e < Nat.pow 2 33)

/-- The encoded message of a digest: padding, then the digest behind its algorithm identifier. -/
def encodedMessage (length : Nat) (identifier digest : Bytes) : Bytes :=
  let tail := identifier ++ digest
  0 :: 1 :: (List.replicate (length - tail.length - 3) 255 ++ 0 :: tail)

/-- The signature is a number below the modulus, as long as it, whose power is the encoded
digest. -/
def verifies (key : PublicKey) (identifier digest signature : Bytes) : Bool :=
  let n := Bytes.toNatBE key.modulus
  let s := Bytes.toNatBE signature
  acceptsModulus key.modulus && acceptsExponent key.exponent &&
    signature.length == key.modulus.length && decide (s < n) &&
    powMod s (Bytes.toNatBE key.exponent) n ==
      Bytes.toNatBE (encodedMessage key.modulus.length identifier digest)

/-! ## Algorithm identifiers -/

/-- The identifier of SHA-1 in an encoded message. -/
def sha1Identifier : Bytes :=
  [0x30, 0x21, 0x30, 0x09, 0x06, 0x05, 0x2b, 0x0e, 0x03, 0x02, 0x1a, 0x05, 0x00, 0x04, 0x14]

/-- The identifier of SHA-256 in an encoded message. -/
def sha256Identifier : Bytes :=
  [0x30, 0x31, 0x30, 0x0d, 0x06, 0x09, 0x60, 0x86, 0x48, 0x01, 0x65, 0x03, 0x04, 0x02, 0x01, 0x05,
    0x00, 0x04, 0x20]

/-- The identifier of SHA-512 in an encoded message. -/
def sha512Identifier : Bytes :=
  [0x30, 0x51, 0x30, 0x0d, 0x06, 0x09, 0x60, 0x86, 0x48, 0x01, 0x65, 0x03, 0x04, 0x02, 0x03, 0x05,
    0x00, 0x04, 0x40]

end Rsa

end DnsHealth.Crypto
