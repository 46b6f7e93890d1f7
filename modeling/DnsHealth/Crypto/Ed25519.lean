import DnsHealth.Bytes
import DnsHealth.Crypto.Rsa
import DnsHealth.Crypto.Sha2

/-!
# Ed25519 signatures

Verification of RFC 8032 on the twisted Edwards curve `-x² + y² = 1 + dx²y²` modulo `2²⁵⁵ - 19`. Its
addition law is complete, so every sum of points is computed alike.

The key is read leniently: its ordinate need not be reduced, and the sign bit of a zero abscissa is
ignored. The first half of a signature is compared octet by octet with the encoding of the point
that it should be, and its second half must be below the group order.
-/

namespace DnsHealth.Crypto.Ed25519

def prime : Int := Nat.pow 2 255 - 19

/-- The order of the base point. -/
def order : Int := Nat.pow 2 252 + 27742317777372353535851937790883648493

/-- The coefficient of the curve. -/
def d : Int := -121665 * inverseMod 121666 prime % prime

/-- A square root of minus one. -/
def rootOfMinusOne : Int := powMod 2 ((prime - 1) / 4) prime

/-- A point in homogeneous coordinates. -/
structure Point where
  x : Int
  y : Int
  z : Int

def zero : Point := ⟨0, 1, 1⟩

/-- The sum of two points. -/
def add (p q : Point) : Point :=
  let r (n : Int) := n % prime
  let a := r (p.z * q.z)
  let b := r (a * a)
  let c := r (p.x * q.x)
  let e := r (p.y * q.y)
  let f := r (d * c * e)
  let xy := (p.x + p.y) * (q.x + q.y) - c - e
  ⟨r (r (a * (b - f)) * xy), r (r (a * (b + f)) * (e + c)), r ((b - f) * (b + f))⟩

def neg (p : Point) : Point :=
  ⟨-p.x % prime, p.y, p.z⟩

/-- A multiple of a point. -/
def multiple (n : Int) (p : Point) : Point :=
  power add zero p n.toNat

/-- The abscissa with the given ordinate and sign, if there is one. -/
def abscissa? (y : Int) (odd : Bool) : Option Int :=
  let u := (y * y - 1) % prime
  let v := (d * (y * y) + 1) % prime
  let x := u * powMod v 3 prime * powMod (u * powMod v 7 prime) ((prime - 5) / 8) prime % prime
  let signed (x : Int) := if (x % 2 == 1) == odd then x else -x % prime
  if (v * x * x - u) % prime = 0 then some (signed x)
  else if (v * x * x + u) % prime = 0 then some (signed (x * rootOfMinusOne % prime))
  else none

/-- Read a point: the ordinate in 255 bits, and the sign of the abscissa in the last bit. -/
def Point.ofWire? (bytes : Bytes) : Option Point :=
  let n := Bytes.toNatLE bytes
  let y : Int := ((n % Nat.pow 2 255 : Nat) : Int) % prime
  (abscissa? y (n / Nat.pow 2 255 % 2 == 1)).map fun x => ⟨x, y, 1⟩

/-- The 32 octets of a point. -/
def Point.wire (p : Point) : Bytes :=
  let w := inverseMod p.z prime
  let x := (p.x * w % prime).toNat
  let y := (p.y * w % prime).toNat
  Bytes.ofNatLE 32 (y + x % 2 * Nat.pow 2 255)

/-- The point with ordinate 4/5 and even abscissa. -/
def base : Point :=
  let y := 4 * inverseMod 5 prime % prime
  ⟨(abscissa? y false).getD 0, y, 1⟩

/-- The signature is valid for the key and the message. -/
def verifies (key message signature : Bytes) : Bool :=
  let first := signature.take 32
  let s : Int := Bytes.toNatLE (signature.drop 32)
  match Point.ofWire? key with
  | some a =>
    let h := ((Bytes.toNatLE (sha512 (first ++ key ++ message)) : Nat) : Int) % order
    signature.length == 64 && decide (s < order) &&
      (add (multiple s base) (multiple h (neg a))).wire == first
  | none => false

end DnsHealth.Crypto.Ed25519
