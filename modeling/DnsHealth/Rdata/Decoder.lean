import DnsHealth.Rdata
import DnsHealth.Wire.CompressedName

/-!
# Reading record data

`Rdata.decoder type length` reads the data of a record from its declared length. Embedded names may
be compressed against the whole message, so reading is bounded only by the message; afterwards the
cursor must stand exactly where the declared length ends.
-/

namespace DnsHealth

namespace Decoder

/-- Character strings up to the offset `stop`, behind those already read. The last one may reach
past `stop`. -/
def stringsOnto (message : Array UInt8) (offset stop : Nat) (done : List Bytes) :
    Except FormatError (List Bytes) × Nat :=
  if offset < stop then
    match message[offset]? with
    | none => (.error (.truncated offset 1), offset)
    | some length =>
      let start := offset + 1
      let next := start + length.toNat
      if next ≤ message.size then
        stringsOnto message next stop ((message.extract start next).toList :: done)
      else (.error (.truncated start length.toNat), start)
  else (.ok done.reverse, offset)
termination_by stop - offset

/-- Character strings up to the offset `stop`. -/
def strings (stop : Nat) : Decoder (List Bytes) :=
  fun message offset => stringsOnto message offset stop []

end Decoder

namespace Rdata

open Decoder

def soaDecoder : Decoder Rdata := do
  let mname ← name
  let rname ← name
  let serial ← u32
  let refresh ← u32
  let retry ← u32
  let expire ← u32
  let minimum ← u32
  pure (.soa { mname, rname, serial, refresh, retry, expire, minimum })

def srvDecoder : Decoder Rdata := do
  let priority ← u16
  let weight ← u16
  let port ← u16
  let target ← name
  pure (.srv { priority, weight, port, target })

def dsDecoder (stop : Nat) : Decoder Rdata := do
  let keyTag ← u16
  let algorithm ← u8
  let digestType ← u8
  let digest ← bytesUpTo stop (.invalidRdata .ds)
  pure (.ds { keyTag, algorithm, digestType, digest })

def dnskeyDecoder (stop : Nat) : Decoder Rdata := do
  let flags ← u16
  let protocol ← u8
  let algorithm ← u8
  let publicKey ← bytesUpTo stop (.invalidRdata .dnskey)
  pure (.dnskey { flags, protocol, algorithm, publicKey })

def rrsigDecoder (stop : Nat) : Decoder Rdata := do
  let typeCovered ← u16
  let algorithm ← u8
  let labels ← u8
  let originalTtl ← u32
  let expiration ← u32
  let inception ← u32
  let keyTag ← u16
  let signerName ← name
  let signature ← bytesUpTo stop (.invalidRdata .rrsig)
  pure (.rrsig
    { typeCovered := ⟨typeCovered⟩, algorithm, labels, originalTtl, expiration, inception, keyTag,
      signerName, signature })

/-- The fields of record data that ends at the offset `stop`, `length` octets away. -/
def fieldsDecoder (type : RecordType) (length stop : Nat) : Decoder Rdata :=
  if type = .a then Rdata.a <$> octets 4
  else if type = .aaaa then Rdata.aaaa <$> octets 16
  else if type = .cname then Rdata.cname <$> name
  else if type = .ns then Rdata.ns <$> name
  else if type = .ptr then Rdata.ptr <$> name
  else if type = .mx then do
    let preference ← u16
    let exchange ← name
    pure (.mx preference exchange)
  else if type = .soa then soaDecoder
  else if type = .txt then Rdata.txt <$> strings stop
  else if type = .spf then Rdata.spf <$> strings stop
  else if type = .srv then srvDecoder
  else if type = .ds then dsDecoder stop
  else if type = .dnskey then dnskeyDecoder stop
  else if type = .rrsig then rrsigDecoder stop
  else Rdata.unknown type <$> bytes length

/-- Record data of a type in exactly `length` octets. -/
def decoder (type : RecordType) (length : Nat) : Decoder Rdata := do
  let start ← position
  let left ← remaining
  if left < length then fail (.truncated start length)
  else
    let rdata ← fieldsDecoder type length (start + length)
    let stop ← position
    if stop = start + length then pure rdata else fail (.invalidRdata type)

end Rdata

end DnsHealth
