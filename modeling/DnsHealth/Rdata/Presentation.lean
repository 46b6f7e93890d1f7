import DnsHealth.Rdata
import DnsHealth.Text.Octets
import DnsHealth.Text.Calendar

/-!
# Presentation of record data

The zone-file form of record data: what follows type, class and TTL in a zone file. Data of an
uninterpreted type is written in the generic form, its length and its hexadecimal digits.

`Rdata.payload?` is the form in which a report shows an answer. It differs for mail exchangers, and
keys, signatures and uninterpreted data have none.
-/

namespace DnsHealth

namespace Rdata

/-- Fields separated by spaces. -/
def spaced (fields : List String) : String :=
  " ".intercalate fields

/-- A time of a signature, as fourteen digits. -/
def timestamp (seconds : UInt32) : String :=
  (Text.UtcTime.ofUnixSeconds seconds.toNat).digits

/-- The zone-file form. -/
def presentation : Rdata → String
  | .a address => address.text
  | .aaaa address => address.text
  | .cname target | .ns target | .ptr target => target.fqdn
  | .mx preference exchange => spaced [toString preference.toNat, exchange.fqdn]
  | .soa z =>
    spaced
      [z.mname.fqdn, z.rname.fqdn, toString z.serial.toNat, toString z.refresh.toNat,
        toString z.retry.toNat, toString z.expire.toNat, toString z.minimum.toNat]
  | .txt strings | .spf strings => String.ofList (Text.quotedStrings strings)
  | .srv s =>
    spaced
      [toString s.priority.toNat, toString s.weight.toNat, toString s.port.toNat, s.target.fqdn]
  | .ds d =>
    spaced
      [toString d.keyTag.toNat, toString d.algorithm.toNat, toString d.digestType.toNat,
        Bytes.toHexUpper d.digest]
  | .dnskey key =>
    spaced
      [toString key.flags.toNat, toString key.protocol.toNat, toString key.algorithm.toNat,
        Text.base64 key.publicKey]
  | .rrsig sig =>
    spaced
      [sig.typeCovered.name, toString sig.algorithm.toNat, toString sig.labels.toNat,
        toString sig.originalTtl.toNat, timestamp sig.expiration, timestamp sig.inception,
        toString sig.keyTag.toNat, sig.signerName.fqdn, Text.base64 sig.signature]
  | .unknown _ data => spaced ["\\#", toString data.length, Bytes.toHex data]

/-- The form in which a report shows an answer, if it shows one. -/
def payload? : Rdata → Option String
  | .cname target | .ns target | .ptr target => some target.fqdn
  | .mx preference exchange => some s!"({preference.toNat}) {exchange.fqdn}"
  | .dnskey _ | .rrsig _ | .unknown _ _ => none
  | rdata => some rdata.presentation

end Rdata

end DnsHealth
