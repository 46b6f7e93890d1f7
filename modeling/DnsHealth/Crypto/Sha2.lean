import DnsHealth.Bytes

/-!
# SHA-2

The digests of FIPS 180-4 on 32-bit and on 64-bit words, as one definition over a `Family` that
holds the word size and the four bit mixing functions.

The constants of the standard are leading bits of the fractional parts of roots of the first primes,
and that is how they are defined here: cube roots for the round constants, square roots for the
initial states. The 32-bit family takes 32 leading bits, the 64-bit family 64.
-/

namespace DnsHealth.Crypto

namespace Sha2

/-! ## Constants -/

/-- The first eighty primes. -/
def primes : List Nat :=
  ((List.range 410).filter fun n =>
    2 ≤ n && (List.range n).all fun d => d < 2 || n % d != 0).take 80

/-- The largest number below `start + 2 ^ bits` whose `k`-th power is at most `n`. -/
def rootFrom (k n : Nat) : (bits : Nat) → (start : Nat) → Nat
  | 0, start => start
  | bits + 1, start =>
    let next := start + Nat.pow 2 bits
    rootFrom k n bits (if Nat.pow next k ≤ n then next else start)

/-- The leading `bits` bits of the fractional part of the `k`-th root of `n`. -/
def rootFraction (k bits n : Nat) : Nat :=
  rootFrom k (n * Nat.pow 2 (k * bits)) (bits + 5) 0 % Nat.pow 2 bits

/-! ## The compression function -/

/-- The state of eight words. -/
structure State (W : Type) where
  a : W
  b : W
  c : W
  d : W
  e : W
  f : W
  g : W
  h : W

/-- The state with the words of a list; missing words are the default. -/
def State.ofList {W : Type} [Inhabited W] (ws : List W) : State W :=
  let w (i : Nat) := ws.getD i default
  ⟨w 0, w 1, w 2, w 3, w 4, w 5, w 6, w 7⟩

def State.toList {W : Type} (s : State W) : List W :=
  [s.a, s.b, s.c, s.d, s.e, s.f, s.g, s.h]

/-- What the two widths differ in. -/
structure Family (W : Type) where
  /-- Octets of a word. -/
  wordSize : Nat
  ofNat : Nat → W
  toNat : W → Nat
  bigSigma0 : W → W
  bigSigma1 : W → W
  smallSigma0 : W → W
  smallSigma1 : W → W
  /-- Round constants; there are as many rounds. -/
  constants : List W

section

variable {W : Type} [Inhabited W] [Add W] [AndOp W] [XorOp W] [Complement W]

/-- Octets of a block. -/
def Family.blockSize (family : Family W) : Nat :=
  16 * family.wordSize

/-- The message with its padding, in whole blocks; the length takes the room of two words. -/
def padded (family : Family W) (message : Bytes) : Bytes :=
  let size := family.blockSize
  let lengthSize := 2 * family.wordSize
  let zeros := (size - (message.length + 1 + lengthSize) % size) % size
  message ++ 0x80 :: (List.replicate zeros 0 ++ Bytes.ofNatBE lengthSize (message.length * 8))

/-- The message schedule: the words of the block and those mixed from them. -/
@[specialize] def schedule (family : Family W) (block : Bytes) : Array W :=
  let words :=
    ((Bytes.blocks family.wordSize block).map fun b => family.ofNat (Bytes.toNatBE b)).toArray
  (List.range (family.constants.length - 16)).foldl
    (fun w i =>
      let t := i + 16
      w.push
        (family.smallSigma1 (w.getD (t - 2) default) + w.getD (t - 7) default +
          family.smallSigma0 (w.getD (t - 15) default) + w.getD (t - 16) default))
    words

/-- One round with its constant and schedule word. -/
@[specialize] def round (family : Family W) (s : State W) (k w : W) : State W :=
  let choice := (s.e &&& s.f) ^^^ (~~~s.e &&& s.g)
  let majority := (s.a &&& s.b) ^^^ (s.a &&& s.c) ^^^ (s.b &&& s.c)
  let t₁ := s.h + family.bigSigma1 s.e + choice + k + w
  let t₂ := family.bigSigma0 s.a + majority
  ⟨t₁ + t₂, s.a, s.b, s.c, s.d + t₁, s.e, s.f, s.g⟩

/-- Stir a block into the state. -/
@[specialize] def compress (family : Family W) (s : State W) (block : Bytes) : State W :=
  let rounds := family.constants.zip (schedule family block).toList
  let r := rounds.foldl (fun s kw => round family s kw.1 kw.2) s
  ⟨s.a + r.a, s.b + r.b, s.c + r.c, s.d + r.d, s.e + r.e, s.f + r.f, s.g + r.g, s.h + r.h⟩

/-- The digest of all eight words. -/
@[specialize] def digest (family : Family W) (initial : List W) (message : Bytes) : Bytes :=
  let final :=
    (Bytes.blocks family.blockSize (padded family message)).foldl (compress family)
      (State.ofList initial)
  final.toList.flatMap fun w => Bytes.ofNatBE family.wordSize (family.toNat w)

end

/-! ## The two widths -/

def rotate32 (x : UInt32) (n : UInt32) : UInt32 :=
  (x >>> n) ||| (x <<< (32 - n))

def rotate64 (x : UInt64) (n : UInt64) : UInt64 :=
  (x >>> n) ||| (x <<< (64 - n))

/-- The family on 32-bit words, with 64 rounds. -/
def family32 : Family UInt32 where
  wordSize := 4
  ofNat := UInt32.ofNat
  toNat := UInt32.toNat
  bigSigma0 x := rotate32 x 2 ^^^ rotate32 x 13 ^^^ rotate32 x 22
  bigSigma1 x := rotate32 x 6 ^^^ rotate32 x 11 ^^^ rotate32 x 25
  smallSigma0 x := rotate32 x 7 ^^^ rotate32 x 18 ^^^ (x >>> 3)
  smallSigma1 x := rotate32 x 17 ^^^ rotate32 x 19 ^^^ (x >>> 10)
  constants := (primes.take 64).map fun p => UInt32.ofNat (rootFraction 3 32 p)

/-- The family on 64-bit words, with 80 rounds. -/
def family64 : Family UInt64 where
  wordSize := 8
  ofNat := UInt64.ofNat
  toNat := UInt64.toNat
  bigSigma0 x := rotate64 x 28 ^^^ rotate64 x 34 ^^^ rotate64 x 39
  bigSigma1 x := rotate64 x 14 ^^^ rotate64 x 18 ^^^ rotate64 x 41
  smallSigma0 x := rotate64 x 1 ^^^ rotate64 x 8 ^^^ (x >>> 7)
  smallSigma1 x := rotate64 x 19 ^^^ rotate64 x 61 ^^^ (x >>> 6)
  constants := primes.map fun p => UInt64.ofNat (rootFraction 3 64 p)

/-- Initial words of SHA-256. -/
def initial256 : List UInt32 :=
  (primes.take 8).map fun p => UInt32.ofNat (rootFraction 2 32 p)

/-- Initial words of SHA-384. -/
def initial384 : List UInt64 :=
  ((primes.drop 8).take 8).map fun p => UInt64.ofNat (rootFraction 2 64 p)

/-- Initial words of SHA-512. -/
def initial512 : List UInt64 :=
  (primes.take 8).map fun p => UInt64.ofNat (rootFraction 2 64 p)

end Sha2

/-- The 32 octets of the SHA-256 digest. -/
def sha256 (message : Bytes) : Bytes :=
  Sha2.digest Sha2.family32 Sha2.initial256 message

/-- The 48 octets of the SHA-384 digest. -/
def sha384 (message : Bytes) : Bytes :=
  (Sha2.digest Sha2.family64 Sha2.initial384 message).take 48

/-- The 64 octets of the SHA-512 digest. -/
def sha512 (message : Bytes) : Bytes :=
  Sha2.digest Sha2.family64 Sha2.initial512 message

end DnsHealth.Crypto
