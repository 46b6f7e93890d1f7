import DnsHealth.Message.Header
import DnsHealth.Proofs.Wire.Reading

/-!
# Reading headers

Packing the flags and the narrow numbers into one word loses nothing when the numbers fit their
bits, and unpacking any word yields numbers that fit and that are packed into the word again. The
flags enter the sums as numbers below two.
-/

namespace DnsHealth

namespace Header

variable {header : Header}

/-- The six words of a header, which are its form whenever it has one. -/
def octets (header : Header) : Bytes :=
  Bytes.ofUInt16 header.id ++ Bytes.ofUInt16 header.flagsWord ++
    Bytes.ofUInt16 header.questionCount ++ Bytes.ofUInt16 header.answerCount ++
    Bytes.ofUInt16 header.authorityCount ++ Bytes.ofUInt16 header.additionalCount

theorem wire_of_fits (h : header.Fits) : header.wire = .ok header.octets :=
  if_pos h

/-- A flag is the bit that it was packed as. -/
theorem toNat_beq_one (flag : Bool) : (flag.toNat == 1) = flag := by
  cases flag <;> rfl

/-- Unpacking the words of a header whose numbers fit gives the header. -/
theorem ofWords_flagsWord (h : header.Fits) :
    ofWords header.id header.flagsWord header.questionCount header.answerCount header.authorityCount
      header.additionalCount = header := by
  obtain ⟨id, qr, opcode, aa, tc, rd, ra, z, rcode, qd, an, ns, ar⟩ := header
  obtain ⟨hopcode, hz, hrcode⟩ := h
  replace hopcode : opcode.toNat < 16 := hopcode
  replace hz : z.toNat < 8 := hz
  replace hrcode : rcode.toNat < 16 := hrcode
  have hqr := Bool.toNat_lt qr
  have haa := Bool.toNat_lt aa
  have htc := Bool.toNat_lt tc
  have hrd := Bool.toNat_lt rd
  have hra := Bool.toNat_lt ra
  -- Every number is a run of digits of the word, so what each quotient gives is arithmetic.
  dsimp only [ofWords, flagsWord]
  rw [UInt16.toNat_ofNat']
  generalize hbits : qr.toNat * 32768 + opcode.toNat * 2048 + aa.toNat * 1024 + tc.toNat * 512 +
    rd.toNat * 256 + ra.toNat * 128 + z.toNat * 16 + rcode.toNat = bits
  rw [Nat.mod_eq_of_lt (show bits < 2 ^ 16 by omega),
    show bits / 32768 % 2 = qr.toNat by omega, show bits / 2048 % 16 = opcode.toNat by omega,
    show bits / 1024 % 2 = aa.toNat by omega, show bits / 512 % 2 = tc.toNat by omega,
    show bits / 256 % 2 = rd.toNat by omega, show bits / 128 % 2 = ra.toNat by omega,
    show bits / 16 % 8 = z.toNat by omega, show bits % 16 = rcode.toNat by omega]
  simp only [toNat_beq_one, UInt8.ofNat_toNat]

/-- Packing what was unpacked from a word gives the word. -/
theorem flagsWord_ofWords (id flags questions answers authorities additionals : UInt16) :
    (ofWords id flags questions answers authorities additionals).flagsWord = flags := by
  have hflags := flags.toNat_lt
  have hbit : ∀ n, (n % 2 == 1).toNat = n % 2 := by
    intro n
    rcases Nat.mod_two_eq_zero_or_one n with h | h <;> rw [h] <;> rfl
  apply UInt16.toNat_inj.mp
  dsimp only [ofWords, flagsWord]
  simp only [hbit, UInt8.toNat_ofNat', UInt16.toNat_ofNat']
  generalize flags.toNat = bits at hflags ⊢
  -- The quotients are taken of each other, so that every digit comes off the last of them.
  have hquotients : bits / 128 = bits / 16 / 8 ∧ bits / 256 = bits / 128 / 2 ∧
      bits / 512 = bits / 256 / 2 ∧ bits / 1024 = bits / 512 / 2 ∧
      bits / 2048 = bits / 1024 / 2 ∧ bits / 32768 = bits / 2048 / 16 := by
    simp only [Nat.div_div_eq_div_mul, Nat.reduceMul, and_self]
  omega

/-- Twelve octets are six words. -/
theorem exists_words (octets : Vector UInt8 size) :
    ∃ id flags questions answers authorities additionals,
    octets.toList = Bytes.ofUInt16 id ++ Bytes.ofUInt16 flags ++ Bytes.ofUInt16 questions ++
      Bytes.ofUInt16 answers ++ Bytes.ofUInt16 authorities ++ Bytes.ofUInt16 additionals := by
  obtain ⟨⟨bytes⟩, hlength⟩ := octets
  match bytes, hlength with
  | [b₀, b₁, b₂, b₃, b₄, b₅, b₆, b₇, b₈, b₉, b₁₀, b₁₁], _ =>
    refine ⟨Bytes.toUInt16 b₀ b₁, Bytes.toUInt16 b₂ b₃, Bytes.toUInt16 b₄ b₅, Bytes.toUInt16 b₆ b₇,
      Bytes.toUInt16 b₈ b₉, Bytes.toUInt16 b₁₀ b₁₁, ?_⟩
    simp only [Bytes.ofUInt16_toUInt16]
    rfl

/-- The numbers unpacked from any word fit their bits. -/
theorem fits_ofWords (id flags questions answers authorities additionals : UInt16) :
    (ofWords id flags questions answers authorities additionals).Fits := by
  refine ⟨?_, ?_, ?_⟩ <;>
    · rw [UInt8.lt_iff_toNat_lt]
      simp only [ofWords, UInt8.toNat_ofNat', UInt8.reduceToNat]
      omega

end Header

namespace Decoder

variable {message : Array UInt8} {offset : Nat} {h : Header}

/-- Six words are read as the header that they make. -/
theorem Reads.words (id flags questions answers authorities additionals : UInt16) :
    Reads Header.decoder message offset
      (Bytes.ofUInt16 id ++ Bytes.ofUInt16 flags ++ Bytes.ofUInt16 questions ++
        Bytes.ofUInt16 answers ++ Bytes.ofUInt16 authorities ++ Bytes.ofUInt16 additionals)
      (Header.ofWords id flags questions answers authorities additionals) := by
  intro hholds
  have hread := Reads.octets (⟨_, rfl⟩ : Vector UInt8 Header.size) hholds
  rw [Header.decoder, hread]
  simp only [Bytes.ofUInt16, List.cons_append, List.nil_append, Vector.getElem_mk,
    List.getElem_toArray, List.getElem_cons_zero, List.getElem_cons_succ, Bytes.toUInt16_ofUInt16,
    Vector.toList_mk]

/-- A header whose numbers fit is read back from its octets. -/
theorem Reads.header (hfits : h.Fits) : Reads Header.decoder message offset h.octets h := by
  have hwords :=
    @Reads.words message offset h.id h.flagsWord h.questionCount h.answerCount h.authorityCount
    h.additionalCount
  rwa [Header.ofWords_flagsWord hfits] at hwords

/-- The numbers of every header that is read fit. -/
theorem Yields.header : Yields Header.decoder Header.Fits := by
  intro message offset h stop hread
  rw [Header.decoder] at hread
  split at hread
  case _ v next _ =>
      obtain ⟨hheader, -⟩ := Prod.mk.inj hread
      obtain rfl := Except.ok.inj hheader
      exact Header.fits_ofWords ..
  case _ => simp at hread

end Decoder

end DnsHealth
