import DnsHealth.Proofs.Message.Tail
import DnsHealth.Proofs.Transport.Framing
import DnsHealth.Proofs.Transport.Selection
import Mathlib.Data.List.TakeDrop

/-!
# Messages that were cut

Two things cut a message on its way: a datagram is seen only up to its limit, and a frame on a
stream may announce or hold too few octets. What is left is a front part of the message, so the
exchange fails rather than answer with fewer records (`Message.ofWire_truncated`).
-/

namespace DnsHealth

variable {id : UInt16} {bytes : Bytes}

/-! ### Datagrams -/

namespace Datagram

theorem message_of_error {e : FormatError} (h : Message.ofWire bytes = .error e) :
    message bytes = .error (.malformed e) := by
  rw [message, h]

/-- A datagram whose visible part is no message decides, and ends the exchange. -/
theorem select_of_malformed {e : FormatError} {strays : List Bytes}
    (hstrays : ∀ d ∈ strays, decision? id d = none)
    (h : Message.ofWire (bytes.take limit) = .error e)
    (later : List Bytes) : select id (strays ++ bytes :: later) = .error (.malformed e) := by
  rw [select_append_of_undecided hstrays, select_cons_of_settles (.malformed h)]
  rfl

end Datagram

/-! ### Streams -/

namespace Stream

variable {chunks : List Bytes}

/-- A frame without a message in it, or one that was not all received, gives no response. -/
theorem response_of_error {short : TransportError} {length : UInt16} {received : Bytes}
    {e : FormatError} (h : chunks.flatten = Bytes.ofUInt16 length ++ received)
    (herror : Message.ofWire (received.take length.toNat) = .error e) :
    response id short chunks = .error short ∨ response id short chunks = .error (.malformed e) := by
  rw [response, frame?_of_flatten h]
  by_cases hle : length.toNat ≤ received.length
  · rw [if_pos hle]
    dsimp only
    rw [Datagram.message_of_error herror]
    exact .inr rfl
  · rw [if_neg hle]
    exact .inl rfl

end Stream

/-! ### Messages -/

namespace Message

/-- **A cut message is never taken for a shorter one.** Octets behind a message change nothing about
it, and a front part of it is read as the same message or not at all. Of octets that are one
message, as those of every well-formed message are, no front part is read: seen as a datagram beyond
the limit, or as a frame that announces or holds fewer octets, they end the exchange with an error,
whatever came before or comes later. -/
theorem ofWire_truncated (bytes : Bytes) :
    (∀ message stop, decoder bytes.toArray 0 = (.ok message, stop) →
      (∀ tail, decoder (bytes ++ tail).toArray 0 = (.ok message, stop)) ∧
      ∀ front, front <+: bytes →
        decoder front.toArray 0 = (.ok message, stop) ∨ ∃ e, ofWire front = .error e) ∧
    (∀ message : Message, message.Fills bytes →
      (∀ front, front <+: bytes → front ≠ bytes → ∃ e, ofWire front = .error e) ∧
      (∀ id strays later, Datagram.limit < bytes.length →
        (∀ d ∈ strays, Datagram.decision? id d = none) →
        ∃ e, Datagram.select id (strays ++ bytes :: later) = .error (.malformed e)) ∧
      ∀ id short chunks length received, chunks.flatten = Bytes.ofUInt16 length ++ received →
        received.take length.toNat <+: bytes → received.take length.toNat ≠ bytes →
          Stream.response id short chunks = .error short ∨
            ∃ e, Stream.response id short chunks = .error (.malformed e)) ∧
    ∀ message : Message, message.WellFormed → message.wire = .ok bytes →
      Fills { message with header := message.countedHeader } bytes := by
  refine ⟨fun message stop h => ⟨decoder_append h, fun front => decoder_prefix h⟩, ?_,
    fun message h hwire => h.fills hwire⟩
  intro message h
  refine ⟨fun front => h.ofWire_prefix, ?_, ?_⟩
  · intro id strays later hlong hstrays
    have hne : bytes.take Datagram.limit ≠ bytes :=
      mt (List.take_eq_self_iff bytes).mp (Nat.not_le_of_lt hlong)
    obtain ⟨e, herror⟩ := h.ofWire_prefix (List.take_prefix _ _) hne
    exact ⟨e, Datagram.select_of_malformed hstrays herror later⟩
  · intro id short chunks length received hflatten hfront hne
    obtain ⟨e, herror⟩ := h.ofWire_prefix hfront hne
    exact (Stream.response_of_error hflatten herror).imp_right fun hmalformed => ⟨e, hmalformed⟩

/-- Two addresses on a stream that ends too early: however many octets of the response arrive in two
chunks behind its length, it is not taken for a response with one address. -/
theorem ofWire_truncated_twoAddresses :
    let message : Message :=
      { query ⟨["example", "com"]⟩ .a 7 with
        answers :=
          [.ofRdata ⟨["example", "com"]⟩ 60 (.a #v[192, 0, 2, 1]),
            .ofRdata ⟨["example", "com"]⟩ 60 (.a #v[192, 0, 2, 2])] }
    ∃ form, message.wire = .ok form ∧ ∀ count < form.length,
      (∃ e, ofWire (form.take count) = .error e) ∧
        ∃ e, Stream.response 7 .earlyEnd
          [Bytes.ofUInt16 (UInt16.ofNat form.length), form.take count] = .error e := by
  intro message
  have hwell : message.WellFormed :=
    ⟨by decide, by decide, by decide, by decide, by decide, by decide, by decide, by decide,
      by decide, by decide⟩
  have hwire := wire_of_fits hwell.fits
  obtain ⟨-, hcut, hfills⟩ :=
    ofWire_truncated (message.countedHeader.octets ++ message.sectionsWire)
  obtain ⟨hfront, -, hstream⟩ := hcut _ (hfills message hwell hwire)
  refine ⟨_, hwire, fun count hcount => ?_⟩
  generalize message.countedHeader.octets ++ message.sectionsWire = form at *
  have hne : ∀ n ≤ count, form.take n ≠ form :=
    fun n hn => mt (List.take_eq_self_iff form).mp (Nat.not_le_of_lt (Nat.lt_of_le_of_lt hn hcount))
  refine ⟨hfront _ (List.take_prefix count form) (hne count (Nat.le_refl count)), ?_⟩
  have hresponse := hstream 7 .earlyEnd [Bytes.ofUInt16 (UInt16.ofNat form.length), form.take count]
    (UInt16.ofNat form.length) (form.take count) (by simp)
  rw [List.take_take] at hresponse
  rcases hresponse (List.take_prefix _ form)
    (hne _ (Nat.min_le_right _ count)) with hshort | ⟨e, hmalformed⟩
  · exact ⟨.earlyEnd, hshort⟩
  · exact ⟨.malformed e, hmalformed⟩

end Message

end DnsHealth
