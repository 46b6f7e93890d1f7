import DnsHealth.Rdata

/-!
# Key tags

The sixteen-bit checksum by which signatures and delegations refer to keys (RFC 4034, Appendix B).
The record data is summed as big-endian 16-bit words in a 32-bit accumulator, whose upper half is
then added to the lower one once. Algorithm 1 takes two octets near the end of its modulus instead.
-/

namespace DnsHealth

namespace KeyTag

/-- Add octets to the accumulator; `high` says whether the next one is the high octet of a word. -/
def sum : (high : Bool) → Bytes → (accumulator : UInt32) → UInt32
  | _, [], accumulator => accumulator
  | true, b :: rest, accumulator => sum false rest (accumulator + b.toUInt32 <<< 8)
  | false, b :: rest, accumulator => sum true rest (accumulator + b.toUInt32)

/-- Add the upper half of the accumulator to the lower half. -/
def fold (accumulator : UInt32) : UInt16 :=
  (accumulator + accumulator >>> 16).toUInt16

/-- The third and second octets from the end of at least seven. -/
def tail (rdata : Bytes) : UInt16 :=
  if 7 ≤ rdata.length then
    match rdata.drop (rdata.length - 3) with
    | high :: low :: _ => Bytes.toUInt16 high low
    | _ => 0
  else 0

/-- The key tag of key record data. -/
def ofRdata (algorithm : UInt8) (rdata : Bytes) : UInt16 :=
  if algorithm = 1 then tail rdata else fold (sum true rdata 0)

end KeyTag

/-- The key tag of a key. -/
def Dnskey.keyTag (key : Dnskey) : UInt16 :=
  KeyTag.ofRdata key.algorithm key.wire

end DnsHealth
