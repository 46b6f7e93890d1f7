import DnsHealth.Message
import DnsHealth.Proofs.Wire.PartialDecoder

/-!
# Reading messages by partial accesses

The reader of messages over partial accesses, part by part, and its agreement with the decoders.
Whatever the octets are, no access is undefined, and a byte string comes to a message or to an error
(`PartialDecoder.ofWire_eq`).
-/

namespace DnsHealth

namespace PartialDecoder

open Access

/-! ### Record data -/

/-- Octets as a vector, unless their number is another one. -/
def vector? (count : Nat) (data : Array UInt8) : Option (Vector UInt8 count) :=
  if h : data.size = count then some ⟨data, h⟩ else none

/-- An address of `count` octets. -/
def address (count : Nat) : PartialDecoder (Vector UInt8 count) := do
  let data ← octets count
  ofOption (vector? count data)

/-- Character strings up to the offset `stop`, behind those already read. A string that did not move
the cursor would be read for ever; that, too, comes to nothing. -/
def stringsOnto (message : Array UInt8) (offset stop : Nat) (done : List Bytes) :
    Option (Except FormatError (List Bytes) × Nat) :=
  if offset < stop then
    match u8 message offset with
    | none => none
    | some (.error e, next) => some (.error e, next)
    | some (.ok length, start) =>
      match bytes length.toNat message start with
      | none => none
      | some (.error e, next) => some (.error e, next)
      | some (.ok data, next) =>
        if offset < next then stringsOnto message next stop (data :: done) else none
  else some (.ok done.reverse, offset)
termination_by stop - offset

def strings (stop : Nat) : PartialDecoder (List Bytes) :=
  fun message offset => stringsOnto message offset stop []

def soa : PartialDecoder Rdata := do
  let mname ← name
  let rname ← name
  let serial ← u32
  let refresh ← u32
  let retry ← u32
  let expire ← u32
  let minimum ← u32
  pure (.soa { mname, rname, serial, refresh, retry, expire, minimum })

def srv : PartialDecoder Rdata := do
  let priority ← u16
  let weight ← u16
  let port ← u16
  let target ← name
  pure (.srv { priority, weight, port, target })

def ds (stop : Nat) : PartialDecoder Rdata := do
  let keyTag ← u16
  let algorithm ← u8
  let digestType ← u8
  let digest ← bytesUpTo stop (.invalidRdata .ds)
  pure (.ds { keyTag, algorithm, digestType, digest })

def dnskey (stop : Nat) : PartialDecoder Rdata := do
  let flags ← u16
  let protocol ← u8
  let algorithm ← u8
  let publicKey ← bytesUpTo stop (.invalidRdata .dnskey)
  pure (.dnskey { flags, protocol, algorithm, publicKey })

def rrsig (stop : Nat) : PartialDecoder Rdata := do
  let typeCovered ← u16
  let algorithm ← u8
  let labels ← u8
  let originalTtl ← u32
  let expiration ← u32
  let inception ← u32
  let keyTag ← u16
  let signerName ← name
  let signature ← bytesUpTo stop (.invalidRdata .rrsig)
  pure (.rrsig
    { typeCovered := ⟨typeCovered⟩, algorithm, labels, originalTtl, expiration, inception, keyTag,
      signerName, signature })

/-- The fields of record data that ends at the offset `stop`, `length` octets away. -/
def fields (type : RecordType) (length stop : Nat) : PartialDecoder Rdata :=
  if type = .a then Rdata.a <$> address 4
  else if type = .aaaa then Rdata.aaaa <$> address 16
  else if type = .cname then Rdata.cname <$> name
  else if type = .ns then Rdata.ns <$> name
  else if type = .ptr then Rdata.ptr <$> name
  else if type = .mx then do
    let preference ← u16
    let exchange ← name
    pure (.mx preference exchange)
  else if type = .soa then soa
  else if type = .txt then Rdata.txt <$> strings stop
  else if type = .spf then Rdata.spf <$> strings stop
  else if type = .srv then srv
  else if type = .ds then ds stop
  else if type = .dnskey then dnskey stop
  else if type = .rrsig then rrsig stop
  else Rdata.unknown type <$> bytes length

/-- Record data of a type in exactly `length` octets. -/
def rdata (type : RecordType) (length : Nat) : PartialDecoder Rdata := do
  let start ← position
  let left ← remaining
  if left < length then fail (.truncated start length)
  else
    let rdata ← fields type length (start + length)
    let stop ← position
    if stop = start + length then pure rdata else fail (.invalidRdata type)

/-! ### Messages -/

/-- The header of twelve octets. -/
def header : PartialDecoder Header :=
  fun message offset =>
    match octets Header.size message offset with
    | none => none
    | some (.error _, stop) => some (.error .invalidHeader, stop)
    | some (.ok data, stop) =>
      match word? data 0, word? data 2, word? data 4, word? data 6, word? data 8, word? data 10 with
      | some id, some flags, some questions, some answers, some authorities, some additionals =>
        some (.ok (Header.ofWords id flags questions answers authorities additionals), stop)
      | _, _, _, _, _, _ => none

def question : PartialDecoder Question := do
  let name ← name
  let type ← u16
  let cls ← u16
  pure { name, type := ⟨type⟩, cls := ⟨cls⟩ }

def record : PartialDecoder Record := do
  let name ← name
  let type ← u16
  let cls ← u16
  let ttl ← u32
  let length ← u16
  let rdata ← rdata ⟨type⟩ length.toNat
  pure { name, type := ⟨type⟩, cls := ⟨cls⟩, ttl, rdata }

/-- The options from an index to the end of the data, behind those already read. The range of the
data of an option is tested, its code and length are read as they stand. -/
def optionsOnto (data : Array UInt8) (i : Nat) (done : List EdnsOption) :
    Option (Except FormatError (List EdnsOption)) :=
  if i < data.size then
    if data.size < i + 4 then some (.error .invalidEdns)
    else
      match word? data i, word? data (i + 2) with
      | some code, some length =>
        if i + 4 + length.toNat ≤ data.size then
          optionsOnto data (i + 4 + length.toNat)
            (⟨code, (data.extract (i + 4) (i + 4 + length.toNat)).toList⟩ :: done)
        else some (.error .invalidEdns)
      | _, _ => none
  else some (.ok done.reverse)
termination_by data.size - i

/-- The content of an OPT record. -/
def edns (cls : UInt16) (ttl : UInt32) (data : Bytes) : PartialDecoder Edns :=
  fun _ offset =>
    (optionsOnto data.toArray 0 []).map fun result =>
      (result.map fun options =>
        { payloadSize := cls
          extendedRcode := UInt8.ofNat (ttl.toNat / 16777216)
          version := UInt8.ofNat (ttl.toNat / 65536)
          flags := UInt16.ofNat ttl.toNat
          options }, offset)

def additional : PartialDecoder (Edns ⊕ Record) := do
  let record ← record
  match Message.ednsData? record with
  | some data => Sum.inl <$> edns record.cls.code record.ttl data
  | none => pure (.inr record)

/-- A message. Of several OPT records the last one counts. -/
def message : PartialDecoder Message := do
  let header ← header
  let questions ← replicate question header.questionCount.toNat
  let answers ← replicate record header.answerCount.toNat
  let authorities ← replicate record header.authorityCount.toNat
  let entries ← replicate additional header.additionalCount.toNat
  pure
    { header, questions, answers, authorities
      additionals := entries.filterMap Sum.getRight?
      edns := (entries.filterMap Sum.getLeft?).getLast? }

/-! ### Agreement -/

namespace Agrees

protected theorem address (count : Nat) : Agrees (address count) (Decoder.octets count) := by
  have hread : Decoder.octets count = Decoder.octets count >>= pure := by
    funext message offset
    rw [Decoder.bind_apply]
    split
    case _ heq => rw [heq]; rfl
    case _ heq => rw [heq]
  rw [hread]
  exact octets_bind fun v => .ofOption (dif_pos v.size_toArray)

/-- Each string ends inside the message, the last one perhaps behind `stop`. -/
protected theorem stringsOnto {message : Array UInt8} {offset : Nat} (stop : Nat)
    (done : List Bytes) (h : offset ≤ message.size) :
    stringsOnto message offset stop done = some (Decoder.stringsOnto message offset stop done) ∧
      offset ≤ (Decoder.stringsOnto message offset stop done).2 ∧
      (Decoder.stringsOnto message offset stop done).2 ≤ message.size := by
  fun_induction Decoder.stringsOnto message offset stop done
  case case1 offset done hlt hoctet =>
      refine ⟨?_, Nat.le_refl offset, h⟩
      rw [stringsOnto, if_pos hlt, u8_of_getElem?_eq_none h hoctet]
  case case2 offset done hlt length hoctet start next hnext ih =>
      obtain ⟨hread, hforward, hinside⟩ := ih hnext
      refine ⟨?_, by omega, hinside⟩
      rw [stringsOnto, if_pos hlt, u8_of_getElem?_eq_some hoctet]
      dsimp only
      rw [bytes_of_le hnext]
      dsimp only
      rw [if_pos (by omega)]
      exact hread
  case case3 offset done hlt length hoctet start next hnext =>
      obtain ⟨hstart, -⟩ := Array.getElem?_eq_some_iff.mp hoctet
      refine ⟨?_, Nat.le_succ offset, hstart⟩
      rw [stringsOnto, if_pos hlt, u8_of_getElem?_eq_some hoctet]
      dsimp only
      rw [bytes_of_lt hstart (Nat.lt_of_not_le hnext)]
  case case4 offset done hge =>
      refine ⟨?_, Nat.le_refl offset, h⟩
      rw [stringsOnto, if_neg hge]

protected theorem strings (stop : Nat) : Agrees (strings stop) (Decoder.strings stop) :=
  fun _ _ h => Agrees.stringsOnto stop [] h

protected theorem soa : Agrees soa Rdata.soaDecoder :=
  Agrees.name.bind fun _ => Agrees.name.bind fun _ => Agrees.u32.bind fun _ =>
    Agrees.u32.bind fun _ => Agrees.u32.bind fun _ => Agrees.u32.bind fun _ =>
    Agrees.u32.bind fun _ => .pure _

protected theorem srv : Agrees srv Rdata.srvDecoder :=
  Agrees.u16.bind fun _ => Agrees.u16.bind fun _ => Agrees.u16.bind fun _ =>
    Agrees.name.bind fun _ => .pure _

protected theorem ds (stop : Nat) : Agrees (ds stop) (Rdata.dsDecoder stop) :=
  Agrees.u16.bind fun _ => Agrees.u8.bind fun _ => Agrees.u8.bind fun _ =>
    (Agrees.bytesUpTo stop _).bind fun _ => .pure _

protected theorem dnskey (stop : Nat) : Agrees (dnskey stop) (Rdata.dnskeyDecoder stop) :=
  Agrees.u16.bind fun _ => Agrees.u8.bind fun _ => Agrees.u8.bind fun _ =>
    (Agrees.bytesUpTo stop _).bind fun _ => .pure _

protected theorem rrsig (stop : Nat) : Agrees (rrsig stop) (Rdata.rrsigDecoder stop) :=
  Agrees.u16.bind fun _ => Agrees.u8.bind fun _ => Agrees.u8.bind fun _ => Agrees.u32.bind fun _ =>
    Agrees.u32.bind fun _ => Agrees.u32.bind fun _ => Agrees.u16.bind fun _ =>
    Agrees.name.bind fun _ => (Agrees.bytesUpTo stop _).bind fun _ => .pure _

protected theorem fields (type : RecordType) (length stop : Nat) :
    Agrees (fields type length stop) (Rdata.fieldsDecoder type length stop) :=
  .ite (.map (.address 4) _) <| .ite (.map (.address 16) _) <| .ite (.map .name _) <|
    .ite (.map .name _) <| .ite (.map .name _) <|
    .ite (Agrees.u16.bind fun _ => Agrees.name.bind fun _ => .pure _) <|
    .ite .soa <| .ite (.map (.strings stop) _) <| .ite (.map (.strings stop) _) <| .ite .srv <|
    .ite (.ds stop) <| .ite (.dnskey stop) <| .ite (.rrsig stop) <| .map (.bytes length) _

/-- The end of the data is computed once it is known that the data follows. -/
protected theorem rdata (type : RecordType) (length : Nat) :
    Agrees (rdata type length) (Rdata.decoder type length) :=
  Agrees.position.bind fun start => Agrees.remaining.bind fun _ =>
    .ite (.fail _) <| (Agrees.fields type length (start + length)).bind fun _ =>
      Agrees.position.bind fun _ => .ite (.pure _) (.fail _)

/-! ### Messages -/

/-- The six words of a header are read inside its twelve octets. -/
protected theorem header : Agrees header Header.decoder := by
  intro message offset hoffset
  rw [PartialDecoder.header, Header.decoder]
  by_cases hend : offset + Header.size ≤ message.size
  · have hsize : (message.extract offset (offset + Header.size)).size = 12 := by
      rw [Array.size_extract, Nat.min_eq_left hend, Nat.add_sub_cancel_left]
      rfl
    rw [octets_of_le hend, Decoder.octets, dif_pos hend]
    dsimp only
    rw [word?_of_lt (by omega), word?_of_lt (by omega), word?_of_lt (by omega),
      word?_of_lt (by omega), word?_of_lt (by omega), word?_of_lt (by omega)]
    exact ⟨rfl, Nat.le_add_right _ _, hend⟩
  · rw [octets_of_lt hoffset (Nat.lt_of_not_le hend), Decoder.octets, dif_neg hend]
    exact ⟨rfl, Nat.le_refl offset, hoffset⟩

protected theorem question : Agrees question Question.decoder :=
  Agrees.name.bind fun _ => Agrees.u16.bind fun _ => Agrees.u16.bind fun _ => .pure _

protected theorem record : Agrees record Record.decoder :=
  Agrees.name.bind fun _ => Agrees.u16.bind fun _ => Agrees.u16.bind fun _ =>
    Agrees.u32.bind fun _ => Agrees.u16.bind fun _ => (Agrees.rdata _ _).bind fun _ => .pure _

/-- Fewer than four octets are no option. -/
theorem listOnto_of_length_lt {done : List EdnsOption} {data : Bytes} (hne : data ≠ [])
    (hlt : data.length < 4) : EdnsOption.listOnto done data = none := by
  unfold EdnsOption.listOnto
  split
  case _ => exact absurd rfl hne
  case _ =>
      simp only [List.length_cons] at hlt
      omega
  case _ => rfl

/-- The option at an index is read off the four octets there, and its data has to follow them. -/
theorem listOnto_drop {done : List EdnsOption} {data : Array UInt8} {i : Nat} {code length : UInt16}
    (hi : i + 4 ≤ data.size) (hcode : word? data i = some code)
    (hlength : word? data (i + 2) = some length) : EdnsOption.listOnto done (data.toList.drop i) =
      if i + 4 + length.toNat ≤ data.size then
        EdnsOption.listOnto (⟨code, (data.extract (i + 4) (i + 4 + length.toNat)).toList⟩ :: done)
          (data.toList.drop (i + 4 + length.toNat))
      else none := by
  rw [word?_of_lt (by omega)] at hcode hlength
  obtain rfl := Option.some.inj hcode
  have hdrop : data.toList.drop i =
      data[i] :: data[i + 1] :: data[i + 2] :: data[i + 3] :: data.toList.drop (i + 4) := by
    rw [List.drop_eq_getElem_cons (by rw [Array.length_toList]; omega),
      List.drop_eq_getElem_cons (by rw [Array.length_toList]; omega),
      List.drop_eq_getElem_cons (by rw [Array.length_toList]; omega),
      List.drop_eq_getElem_cons (by rw [Array.length_toList]; omega)]
    rfl
  have hword : Bytes.toUInt16 data[i + 2] data[i + 3] = length := Option.some.inj hlength
  rw [hdrop, EdnsOption.listOnto]
  simp only [hword, List.length_take, List.length_drop, Array.length_toList, List.drop_drop,
    Array.toList_extract, List.extract_eq_take_drop, Nat.add_sub_cancel_left]
  by_cases hend : i + 4 + length.toNat ≤ data.size
  · rw [if_pos hend, if_pos (by omega)]
  · rw [if_neg hend, if_neg (by omega)]

/-- The options behind an index are those of the octets behind it. -/
theorem optionsOnto_eq (data : Array UInt8) (i : Nat) (done : List EdnsOption) :
    optionsOnto data i done =
      some ((EdnsOption.listOnto done (data.toList.drop i)).elim (.error .invalidEdns) .ok) := by
  fun_induction optionsOnto data i done
  case case1 i done hi hshort =>
      have hlength : (data.toList.drop i).length = data.size - i := by
        rw [List.length_drop, Array.length_toList]
      rw [listOnto_of_length_lt (List.ne_nil_of_length_pos (by omega)) (by omega)]
      rfl
  case case2 i done hi hlong code length hlength hcode hend ih =>
      rw [ih, listOnto_drop (by omega) hcode hlength, if_pos hend]
  case case3 i done hi hlong code length hlength hcode hend =>
      rw [listOnto_drop (by omega) hcode hlength, if_neg hend]
      rfl
  case case4 i done hi hlong hwords =>
      exact (hwords _ _ (word?_of_lt (by omega)) (word?_of_lt (by omega))).elim
  case case5 i done hi =>
      rw [List.drop_of_length_le (by rw [Array.length_toList]; omega), EdnsOption.listOnto]
      rfl

theorem edns_eq (cls : UInt16) (ttl : UInt32) (data : Bytes) (message : Array UInt8)
    (offset : Nat) :
    edns cls ttl data message offset = some (Edns.ofFields cls ttl data, offset) := by
  rw [edns, optionsOnto_eq, Edns.ofFields, EdnsOption.list?, List.drop_zero]
  cases EdnsOption.listOnto [] data with
  | none => rfl
  | some options => rfl

protected theorem additional : Agrees additional Message.additionalDecoder := by
  refine Agrees.record.bind fun record => ?_
  cases Message.ednsData? record with
  | none => exact .pure _
  | some data =>
      intro message offset hoffset
      have hedns := edns_eq record.cls.code record.ttl data message offset
      dsimp only
      cases hfields : Edns.ofFields record.cls.code record.ttl data with
      | error e =>
          rw [hfields] at hedns
          exact ⟨bind_of_error hedns _, Nat.le_refl offset, hoffset⟩
      | ok content =>
          rw [hfields] at hedns
          exact ⟨bind_of_ok hedns _, Nat.le_refl offset, hoffset⟩

protected theorem message : Agrees message Message.decoder :=
  Agrees.header.bind fun _ => (Agrees.question.replicate _).bind fun _ =>
    (Agrees.record.replicate _).bind fun _ => (Agrees.record.replicate _).bind fun _ =>
      (Agrees.additional.replicate _).bind fun _ => .pure _

end Agrees

/-- The message at the start of a byte string. -/
def ofWire (bytes : Bytes) : Option (Except FormatError Message) :=
  (message bytes.toArray 0).map Prod.fst

/-- No byte string leads the reader of messages out of it. -/
theorem ofWire_eq (bytes : Bytes) : ofWire bytes = some (Message.ofWire bytes) := by
  obtain ⟨hread, -, -⟩ := Agrees.message bytes.toArray 0 (Nat.zero_le _)
  rw [ofWire, hread]
  rfl

end PartialDecoder

end DnsHealth
