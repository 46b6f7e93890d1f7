/-!
# Record types and classes

A record type and a record class are sixteen-bit codes. Some codes have a mnemonic; a code without
one is written `TYPEn` or `CLASSn`. Since the code is all there is, two types are equal exactly when
their codes are.
-/

namespace DnsHealth

/-- A resource record type, held as its code. -/
structure RecordType where
  code : UInt16
  deriving DecidableEq, Repr, Inhabited

namespace RecordType

def a : RecordType := ⟨1⟩
def ns : RecordType := ⟨2⟩
def cname : RecordType := ⟨5⟩
def soa : RecordType := ⟨6⟩
def ptr : RecordType := ⟨12⟩
def mx : RecordType := ⟨15⟩
def txt : RecordType := ⟨16⟩
def aaaa : RecordType := ⟨28⟩
def srv : RecordType := ⟨33⟩
def opt : RecordType := ⟨41⟩
def ds : RecordType := ⟨43⟩
def rrsig : RecordType := ⟨46⟩
def dnskey : RecordType := ⟨48⟩
def spf : RecordType := ⟨99⟩

/-- The codes that have a mnemonic. -/
def mnemonics : List (UInt16 × String) :=
  [(1, "A"), (2, "NS"), (5, "CNAME"), (6, "SOA"), (12, "PTR"), (13, "HINFO"), (15, "MX"),
    (16, "TXT"), (28, "AAAA"), (33, "SRV"), (35, "NAPTR"), (39, "DNAME"), (41, "OPT"), (43, "DS"),
    (44, "SSHFP"), (46, "RRSIG"), (47, "NSEC"), (48, "DNSKEY"), (50, "NSEC3"), (52, "TLSA"),
    (65, "HTTPS"), (99, "SPF"), (257, "CAA")]

/-- The mnemonic of a type, if its code has one. -/
def mnemonic? (type : RecordType) : Option String :=
  mnemonics.lookup type.code

/-- The presentation form: the mnemonic, or `TYPEn`. -/
def name (type : RecordType) : String :=
  type.mnemonic?.getD s!"TYPE{type.code.toNat}"

end RecordType

/-- A resource record class, held as its code. An OPT record carries a payload size here. -/
structure RecordClass where
  code : UInt16
  deriving DecidableEq, Repr, Inhabited

namespace RecordClass

/-- The Internet class. -/
def internet : RecordClass := ⟨1⟩

/-- The codes that have a mnemonic. -/
def mnemonics : List (UInt16 × String) :=
  [(1, "IN"), (2, "CS"), (3, "CH"), (4, "HS")]

/-- The mnemonic of a class, if its code has one. -/
def mnemonic? (cls : RecordClass) : Option String :=
  mnemonics.lookup cls.code

/-- The presentation form: the mnemonic, or `CLASSn`. -/
def name (cls : RecordClass) : String :=
  cls.mnemonic?.getD s!"CLASS{cls.code.toNat}"

end RecordClass

/-- The mnemonic of a response code, extended codes included; `RCODEn` for one without. -/
def responseCodeName (code : UInt16) : String :=
  let mnemonics : List (UInt16 × String) :=
    [(0, "NOERROR"), (1, "FORMERR"), (2, "SERVFAIL"), (3, "NXDOMAIN"), (4, "NOTIMP"),
      (5, "REFUSED"), (6, "YXDOMAIN"), (7, "YXRRSET"), (8, "NXRRSET"), (9, "NOTAUTH"),
      (10, "NOTZONE"), (16, "BADVERS"), (23, "BADCOOKIE")]
  (mnemonics.lookup code).getD s!"RCODE{code.toNat}"

end DnsHealth
