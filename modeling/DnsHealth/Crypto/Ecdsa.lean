import DnsHealth.Bytes
import DnsHealth.Crypto.Rsa

/-!
# ECDSA signatures

Verification over short Weierstrass curves of prime order (FIPS 186-4), with keys and signatures as
two numbers of fixed width side by side.

Points are in homogeneous coordinates. On a curve of odd order one addition law serves every pair of
points, equal, opposite and infinite ones included, so there is no case distinction.
-/

namespace DnsHealth.Crypto.Ecdsa

/-- The curve `y² = x³ + ax + b` over the integers modulo a prime, with a generator. -/
structure Curve where
  /-- Octets of a coordinate. -/
  size : Nat
  prime : Int
  a : Int
  b : Int
  order : Int
  generatorX : Int
  generatorY : Int

/-- A point in homogeneous coordinates; at infinity `z` is zero. -/
structure Point where
  x : Int
  y : Int
  z : Int

def infinity : Point := ⟨0, 1, 0⟩

/-- The sum of two points. -/
def Curve.add (curve : Curve) (p q : Point) : Point :=
  let r (n : Int) := n % curve.prime
  let xx := r (p.x * q.x)
  let yy := r (p.y * q.y)
  let zz := r (p.z * q.z)
  let xy := r (p.x * q.y + q.x * p.y)
  let xz := r (p.x * q.z + q.x * p.z)
  let yz := r (p.y * q.z + q.y * p.z)
  let u := r (curve.a * xz + 3 * curve.b * zz)
  let v := r (3 * xx + curve.a * zz)
  let w := r (curve.a * (xx - curve.a * zz) + 3 * curve.b * xz)
  ⟨r (xy * (yy - u) - yz * w), r (v * w + (yy + u) * (yy - u)), r (yz * (yy + u) + xy * v)⟩

/-- A multiple of a point. -/
def Curve.multiple (curve : Curve) (n : Int) (p : Point) : Point :=
  power curve.add infinity p n.toNat

/-- The coordinates satisfy the equation of the curve. -/
def Curve.contains (curve : Curve) (x y : Int) : Bool :=
  (y * y - ((x * x + curve.a) * x + curve.b)) % curve.prime == 0

/-- Two numbers of `size` octets side by side. -/
def pair? (size : Nat) (bytes : Bytes) : Option (Int × Int) :=
  if bytes.length = 2 * size then
    some ((Bytes.toNatBE (bytes.take size) : Int), (Bytes.toNatBE (bytes.drop size) : Int))
  else none

/-- The signature `(r, s)` is in range, the key is on the curve, and the point that the signature
and the digest determine has the abscissa `r` modulo the order. -/
def verifies (curve : Curve) (key digest signature : Bytes) : Bool :=
  match pair? curve.size key, pair? curve.size signature with
  | some (x, y), some (r, s) =>
    let n := curve.order
    decide (x < curve.prime) && decide (y < curve.prime) && curve.contains x y &&
      decide (1 ≤ r) && decide (r < n) && decide (1 ≤ s) && decide (s < n) &&
      let w := inverseMod s n
      let e : Int := Bytes.toNatBE digest
      let sum :=
        curve.add (curve.multiple (e * w % n) ⟨curve.generatorX, curve.generatorY, 1⟩)
          (curve.multiple (r * w % n) ⟨x, y, 1⟩)
      sum.z != 0 && sum.x * inverseMod sum.z curve.prime % curve.prime % n == r
  | _, _ => false

/-- The curve P-256. -/
def p256 : Curve where
  size := 32
  prime := 0xffffffff00000001000000000000000000000000ffffffffffffffffffffffff
  a := -3
  b := 0x5ac635d8aa3a93e7b3ebbd55769886bc651d06b0cc53b0f63bce3c3e27d2604b
  order := 0xffffffff00000000ffffffffffffffffbce6faada7179e84f3b9cac2fc632551
  generatorX := 0x6b17d1f2e12c4247f8bce6e563a440f277037d812deb33a0f4a13945d898c296
  generatorY := 0x4fe342e2fe1a7f9b8ee7eb4a7c0f9e162bce33576b315ececbb6406837bf51f5

/-- The curve P-384. -/
def p384 : Curve where
  size := 48
  prime :=
    0xfffffffffffffffffffffffffffffffffffffffffffffffffffffffffffffffeffffffff0000000000000000ffffffff
  a := -3
  b :=
    0xb3312fa7e23ee7e4988e056be3f82d19181d9c6efe8141120314088f5013875ac656398d8a2ed19d2a85c8edd3ec2aef
  order :=
    0xffffffffffffffffffffffffffffffffffffffffffffffffc7634d81f4372ddf581a0db248b0a77aecec196accc52973
  generatorX :=
    0xaa87ca22be8b05378eb1c71ef320ad746e1d3b628ba79b9859f741e082542a385502f25dbf55296c3a545e3872760ab7
  generatorY :=
    0x3617de4a96262c6f5d9e98bf9292dc29f8f41dbd289a147ce9da3113b5f0b8c00a60b1ce1d7e819d7a431d7c90ea0e5f

end DnsHealth.Crypto.Ecdsa
