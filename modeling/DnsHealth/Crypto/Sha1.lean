import DnsHealth.Bytes

/-!
# SHA-1

The digest of FIPS 180-4 on 512-bit blocks. The message is filled up to whole blocks with a one bit,
zero bits and its length in bits; each block is stirred into a state of five words in eighty rounds.
-/

namespace DnsHealth.Crypto

namespace Sha1

def rotateLeft (x : UInt32) (n : UInt32) : UInt32 :=
  (x <<< n) ||| (x >>> (32 - n))

/-- The state of five words. -/
structure State where
  a : UInt32
  b : UInt32
  c : UInt32
  d : UInt32
  e : UInt32

def initial : State :=
  ⟨0x67452301, 0xefcdab89, 0x98badcfe, 0x10325476, 0xc3d2e1f0⟩

/-- The message with its padding, in whole blocks of 64 octets. -/
def padded (message : Bytes) : Bytes :=
  let zeros := (64 - (message.length + 9) % 64) % 64
  message ++ 0x80 :: (List.replicate zeros 0 ++ Bytes.ofNatBE 8 (message.length * 8))

/-- The sixteen words of a block. -/
def words (block : Bytes) : Array UInt32 :=
  ((Bytes.blocks 4 block).map fun b => UInt32.ofNat (Bytes.toNatBE b)).toArray

/-- The eighty words of the message schedule. -/
def schedule (block : Bytes) : Array UInt32 :=
  (List.range 64).foldl
    (fun w i =>
      let t := i + 16
      w.push
        (rotateLeft
          (w.getD (t - 3) 0 ^^^ w.getD (t - 8) 0 ^^^ w.getD (t - 14) 0 ^^^ w.getD (t - 16) 0) 1))
    (words block)

/-- The round function and the constant of round `t`. -/
def mix (t : Nat) (b c d : UInt32) : UInt32 :=
  if t < 20 then ((b &&& c) ||| (~~~b &&& d)) + 0x5a827999
  else if t < 40 then (b ^^^ c ^^^ d) + 0x6ed9eba1
  else if t < 60 then ((b &&& c) ||| (b &&& d) ||| (c &&& d)) + 0x8f1bbcdc
  else (b ^^^ c ^^^ d) + 0xca62c1d6

/-- One round. -/
def round (w : Array UInt32) (s : State) (t : Nat) : State :=
  ⟨rotateLeft s.a 5 + mix t s.b s.c s.d + s.e + w.getD t 0, s.a, rotateLeft s.b 30, s.c, s.d⟩

/-- Stir a block into the state. -/
def compress (s : State) (block : Bytes) : State :=
  let r := (List.range 80).foldl (round (schedule block)) s
  ⟨s.a + r.a, s.b + r.b, s.c + r.c, s.d + r.d, s.e + r.e⟩

end Sha1

/-- The twenty octets of the SHA-1 digest. -/
def sha1 (message : Bytes) : Bytes :=
  let s := (Bytes.blocks 64 (Sha1.padded message)).foldl Sha1.compress Sha1.initial
  [s.a, s.b, s.c, s.d, s.e].flatMap Bytes.ofUInt32

end DnsHealth.Crypto
