import DnsHealth.Proofs.Message.PartialDecoder
import DnsHealth.Proofs.Message.RoundTrip
import DnsHealth.Proofs.Wire.Tail

/-!
# Octets behind a message, and octets missing

Reading a message ignores what follows it (`Decoder.IgnoresTail.message`). Turned around, this says
what may come of a message that was cut: a front part is read as the very same message, cursor
included, or not at all (`Message.decoder_prefix`). When the message takes up all octets there is no
room for that, and every shorter front part is an error (`Message.Fills.ofWire_prefix`).
-/

namespace DnsHealth

namespace Decoder

variable {message : Array UInt8} {offset stop : Nat}

/-! ### Record data -/

/-- Character strings may reach past the offset where they should end, but not past the message. -/
theorem stringsOnto_append {next : Nat} {found done : List Bytes}
    (h : stringsOnto message offset stop done = (.ok found, next)) (tail : Array UInt8) :
    stringsOnto (message ++ tail) offset stop done = (.ok found, next) := by
  fun_induction stringsOnto message offset stop done with
  | case1 => simp at h
  | case2 offset done hlt length hoctet start past hpast ih =>
      rw [stringsOnto, if_pos hlt, getElem?_append_of_eq_some hoctet tail]
      dsimp only
      rw [if_pos (le_size_append hpast tail), extract_append_of_le hpast tail]
      exact ih h
  | case3 => simp at h
  | case4 offset done hge =>
      rw [stringsOnto, if_neg hge]
      exact h

namespace IgnoresTail

protected theorem strings (stop : Nat) : IgnoresTail (strings stop) :=
  fun _ _ _ _ h tail => stringsOnto_append h tail

protected theorem soa : IgnoresTail Rdata.soaDecoder :=
  IgnoresTail.name.bind fun _ => IgnoresTail.name.bind fun _ => IgnoresTail.u32.bind fun _ =>
    IgnoresTail.u32.bind fun _ => IgnoresTail.u32.bind fun _ => IgnoresTail.u32.bind fun _ =>
      IgnoresTail.u32.bind fun _ => .pure _

protected theorem srv : IgnoresTail Rdata.srvDecoder :=
  IgnoresTail.u16.bind fun _ => IgnoresTail.u16.bind fun _ => IgnoresTail.u16.bind fun _ =>
    IgnoresTail.name.bind fun _ => .pure _

protected theorem ds (stop : Nat) : IgnoresTail (Rdata.dsDecoder stop) :=
  IgnoresTail.u16.bind fun _ => IgnoresTail.u8.bind fun _ => IgnoresTail.u8.bind fun _ =>
    (IgnoresTail.bytesUpTo stop _).bind fun _ => .pure _

protected theorem dnskey (stop : Nat) : IgnoresTail (Rdata.dnskeyDecoder stop) :=
  IgnoresTail.u16.bind fun _ => IgnoresTail.u8.bind fun _ => IgnoresTail.u8.bind fun _ =>
    (IgnoresTail.bytesUpTo stop _).bind fun _ => .pure _

protected theorem rrsig (stop : Nat) : IgnoresTail (Rdata.rrsigDecoder stop) :=
  IgnoresTail.u16.bind fun _ => IgnoresTail.u8.bind fun _ => IgnoresTail.u8.bind fun _ =>
    IgnoresTail.u32.bind fun _ => IgnoresTail.u32.bind fun _ => IgnoresTail.u32.bind fun _ =>
      IgnoresTail.u16.bind fun _ => IgnoresTail.name.bind fun _ =>
        (IgnoresTail.bytesUpTo stop _).bind fun _ => .pure _

protected theorem fields (type : RecordType) (length stop : Nat) :
    IgnoresTail (Rdata.fieldsDecoder type length stop) :=
  .ite (.map (.octets 4) _) <| .ite (.map (.octets 16) _) <| .ite (.map .name _) <|
    .ite (.map .name _) <| .ite (.map .name _) <|
    .ite (IgnoresTail.u16.bind fun _ => IgnoresTail.name.bind fun _ => .pure _) <|
    .ite .soa <| .ite (.map (.strings stop) _) <| .ite (.map (.strings stop) _) <| .ite .srv <|
    .ite (.ds stop) <| .ite (.dnskey stop) <| .ite (.rrsig stop) <| .map (.bytes length) _

/-- The octets that are left are counted only to see that there are enough, and more of them still
are. -/
protected theorem rdata (type : RecordType) (length : Nat) :
    IgnoresTail (Rdata.decoder type length) := by
  intro message offset value stop h tail
  have hrest : IgnoresTail (Rdata.fieldsDecoder type length (offset + length) >>= fun rdata =>
      position >>= fun next =>
        if next = offset + length then pure rdata else fail (.invalidRdata type)) :=
    (IgnoresTail.fields type length (offset + length)).bind fun _ =>
      IgnoresTail.position.bind fun _ => .ite (.pure _) (.fail _)
  rw [Rdata.decoder, position_bind, remaining_bind] at h ⊢
  split at h
  case _ => simp [Decoder.fail] at h
  case _ henough =>
      rw [if_neg (by rw [Array.size_append]; omega)]
      exact hrest message offset value stop h tail

/-! ### Messages -/

protected theorem header : IgnoresTail Header.decoder := by
  intro message offset header stop h tail
  rw [Header.decoder] at h ⊢
  split at h
  case _ v next hread =>
      rw [IgnoresTail.octets Header.size message offset v next hread tail]
      exact h
  case _ => simp at h

protected theorem question : IgnoresTail Question.decoder :=
  IgnoresTail.name.bind fun _ => IgnoresTail.u16.bind fun _ => IgnoresTail.u16.bind fun _ => .pure _

protected theorem record : IgnoresTail Record.decoder :=
  IgnoresTail.name.bind fun _ => IgnoresTail.u16.bind fun _ => IgnoresTail.u16.bind fun _ =>
    IgnoresTail.u32.bind fun _ => IgnoresTail.u16.bind fun _ =>
      (IgnoresTail.rdata _ _).bind fun _ => .pure _

/-- The content of an OPT record is read off the record, not off the message. -/
protected theorem additional : IgnoresTail Message.additionalDecoder := by
  refine IgnoresTail.record.bind fun record => ?_
  cases Message.ednsData? record with
  | none => exact .pure _
  | some data =>
      dsimp only
      cases Edns.ofFields record.cls.code record.ttl data with
      | error e => exact .fail e
      | ok edns => exact .pure _

protected theorem message : IgnoresTail Message.decoder :=
  IgnoresTail.header.bind fun _ => (IgnoresTail.question.replicate _).bind fun _ =>
    (IgnoresTail.record.replicate _).bind fun _ => (IgnoresTail.record.replicate _).bind fun _ =>
      (IgnoresTail.additional.replicate _).bind fun _ => .pure _

end IgnoresTail

end Decoder

/-! ### Parts of a message -/

namespace Message

/-- The octets are the message and nothing more: reading it takes them all. -/
def Fills (message : Message) (bytes : Bytes) : Prop :=
  decoder bytes.toArray 0 = (.ok message, bytes.length)

variable {bytes front : Bytes} {message : Message} {stop : Nat}

/-- Octets behind a message change nothing about it. -/
theorem decoder_append (h : decoder bytes.toArray 0 = (.ok message, stop)) (tail : Bytes) :
    decoder (bytes ++ tail).toArray 0 = (.ok message, stop) := by
  rw [← List.append_toArray]
  exact Decoder.IgnoresTail.message bytes.toArray 0 message stop h tail.toArray

/-- The cursor behind a message has not left the octets. -/
theorem decoder_stop_le (h : decoder bytes.toArray 0 = (.ok message, stop)) :
    stop ≤ bytes.length := by
  obtain ⟨-, -, hinside⟩ := PartialDecoder.Agrees.message bytes.toArray 0 (Nat.zero_le _)
  rw [h] at hinside
  exact hinside

/-- A front part is read as the same message, with the cursor where it was, or not at all. -/
theorem decoder_prefix (h : decoder bytes.toArray 0 = (.ok message, stop))
    (hfront : front <+: bytes) :
    decoder front.toArray 0 = (.ok message, stop) ∨ ∃ e, ofWire front = .error e := by
  rcases hread : decoder front.toArray 0 with ⟨e | other, next⟩
  · exact .inr ⟨e, congrArg Prod.fst hread⟩
  · -- Whatever the front part is read as, the whole is read as too.
    obtain ⟨tail, rfl⟩ := hfront
    have hlonger := decoder_append hread tail
    rw [h] at hlonger
    exact .inl hlonger.symm

/-- No front part is read of octets that are one message. -/
theorem Fills.ofWire_prefix (h : message.Fills bytes) (hfront : front <+: bytes)
    (hne : front ≠ bytes) : ∃ e, ofWire front = .error e := by
  rcases decoder_prefix h hfront with hread | herror
  · have hlength : front.length = bytes.length :=
      Nat.le_antisymm hfront.length_le (decoder_stop_le hread)
    exact absurd (hfront.eq_of_length hlength) hne
  · exact herror

/-- The form of a well-formed message is one message. -/
theorem WellFormed.fills (h : message.WellFormed) (hwire : message.wire = .ok bytes) :
    Fills { message with header := message.countedHeader } bytes := by
  rw [wire_of_fits h.fits] at hwire
  obtain rfl := Except.ok.inj hwire
  rw [Fills, Decoder.Reads.message h (HoldsAt.whole _), Nat.zero_add]

end Message

end DnsHealth
