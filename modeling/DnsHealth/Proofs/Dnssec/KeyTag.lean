import DnsHealth.Dnssec.KeyTag
import DnsHealth.Proofs.Message.Counts
import Mathlib.Algebra.Group.Action.Defs
import Mathlib.Algebra.Order.BigOperators.Group.List
import Mathlib.Algebra.Order.Group.Nat
import Mathlib.Algebra.Ring.Nat

/-!
# Key tags as sums of words

A key tag is summed octet by octet in 32 bits, and a sum in 32 bits says nothing about what was lost
of it. Here the additions are partial: one whose result does not fit is undefined (`KeyTag.add?`),
and a tag that meets one comes to nothing (`KeyTag.ofRdata?`). Up to 131072 octets none is met, and
65536 words are as many as can be folded, since their sum and its upper half may come to the largest
number of 32 bits. So the sum is that of the big-endian words of the octets as natural numbers
(`KeyTag.total`), in whatever order they stand.
-/

namespace DnsHealth

/-! ### Keys in messages -/

namespace Decoder

variable {message : Array UInt8} {offset length stop next : Nat}

theorem bytesUpTo_eq_ok {past : FormatError} {data : Bytes}
    (h : bytesUpTo stop past message offset = (.ok data, next)) : offset + data.length = stop := by
  rw [bytesUpTo, position_bind] at h
  split at h
  case _ hle =>
      have := Yields.bytes _ _ _ _ h
      omega
  case _ => cases (Prod.mk.inj h).1

theorem length_le_of_dnskeyDecoder {value : Rdata}
    (h : Rdata.dnskeyDecoder stop message offset = (.ok value, next)) :
    offset + value.wire.length ≤ stop := by
  obtain ⟨flags, _, hflags, h⟩ := bind_eq_ok.mp h
  obtain ⟨protocol, _, hprotocol, h⟩ := bind_eq_ok.mp h
  obtain ⟨algorithm, _, halgorithm, h⟩ := bind_eq_ok.mp h
  obtain ⟨publicKey, _, hkey, h⟩ := bind_eq_ok.mp h
  obtain ⟨rfl, rfl⟩ := pure_eq_ok.mp h
  have := Takes.u16 _ _ _ _ hflags
  have := Takes.u8 _ _ _ _ hprotocol
  have := Takes.u8 _ _ _ _ halgorithm
  have := bytesUpTo_eq_ok hkey
  simp only [Rdata.wire, Rdata.write, Dnskey.wire, List.length_append, Bytes.length_ofUInt16,
    List.length_cons, List.length_nil]
  omega

/-- Key data that was read is no longer than it was declared to be. -/
theorem Yields.dnskey {type : RecordType} : Yields (Rdata.decoder type length)
    (fun value => ∀ key, value = .dnskey key → key.wire.length ≤ length) := by
  rintro message offset _ stop h key rfl
  obtain rfl : RecordType.dnskey = type := (Yields.rdata _ _ _ _ h).1
  exact Nat.le_of_add_le_add_left (length_le_of_dnskeyDecoder (fields_of_rdata_eq_ok h).1)

theorem Yields.record_dnskey :
    Yields Record.decoder (fun r => ∀ key, r.rdata = .dnskey key → key.wire.length ≤ 65535) := by
  refine skip fun name => skip fun type => skip fun cls => skip fun ttl => skip fun length =>
    Yields.dnskey.bind fun rdata hrdata => .pure ?_
  intro key hkey
  exact Nat.le_trans (hrdata key hkey) (Nat.le_of_lt_succ length.toNat_lt)

end Decoder

namespace KeyTag

variable {octets : Bytes} {accumulator a b : UInt32}

/-! ### Words -/

/-- The big-endian words of octets. A last octet by itself is the high one of its word. -/
def words : Bytes → List UInt16
  | [] => []
  | [high] => [Bytes.toUInt16 high 0]
  | high :: low :: rest => Bytes.toUInt16 high low :: words rest

/-- The sum of the words as natural numbers. -/
def total (octets : Bytes) : Nat :=
  ((words octets).map UInt16.toNat).sum

theorem total_cons_cons (high low : UInt8) (rest : Bytes) :
    total (high :: low :: rest) = high.toNat * 256 + low.toNat + total rest := by
  rw [total, words, List.map_cons, List.sum_cons, Bytes.toNat_toUInt16, total]

theorem total_singleton (high : UInt8) : total [high] = high.toNat * 256 := by
  rw [total, words, List.map_singleton, List.sum_singleton, Bytes.toNat_toUInt16, UInt8.toNat_zero,
    Nat.add_zero]

theorem length_words (octets : Bytes) : (words octets).length = (octets.length + 1) / 2 := by
  induction octets using words.induct with
  | case1 => rfl
  | case2 high => simp only [words, List.length_cons, List.length_nil]
  | case3 high low rest ih =>
      simp only [words, List.length_cons, ih]
      omega

theorem words_flatMap_ofUInt16 (ws : List UInt16) : words (ws.flatMap Bytes.ofUInt16) = ws := by
  induction ws with
  | nil => rfl
  | cons w rest ih =>
      rw [List.flatMap_cons, Bytes.ofUInt16, List.cons_append, List.cons_append, List.nil_append,
        words, ih, Bytes.toUInt16_ofUInt16]

/-- An even number of octets is made of words. -/
theorem flatMap_ofUInt16_words (heven : octets.length % 2 = 0) :
    (words octets).flatMap Bytes.ofUInt16 = octets := by
  induction octets using words.induct with
  | case1 => rfl
  | case2 high => exact absurd heven Nat.one_ne_zero
  | case3 high low rest ih =>
      have hrest : rest.length % 2 = 0 := by
        simp only [List.length_cons] at heven
        omega
      rw [words, List.flatMap_cons, ih hrest, Bytes.ofUInt16_toUInt16]
      rfl

/-- Every word is below 65536. -/
theorem total_le (octets : Bytes) : total octets ≤ (octets.length + 1) / 2 * 65535 := by
  have hword : ∀ n ∈ (words octets).map UInt16.toNat, n ≤ 65535 := by
    intro n hn
    obtain ⟨w, -, rfl⟩ := List.mem_map.mp hn
    exact Nat.le_of_lt_succ w.toNat_lt
  have hsum := List.sum_le_card_nsmul _ _ hword
  rwa [List.length_map, length_words, smul_eq_mul] at hsum

/-! ### Additions that must not overflow -/

/-- The sum of two words of 32 bits, unless it does not fit. -/
def add? (a b : UInt32) : Option UInt32 :=
  if a.toNat + b.toNat < 2 ^ 32 then some (a + b) else none

theorem add?_of_lt (h : a.toNat + b.toNat < 2 ^ 32) : add? a b = some (a + b) :=
  if_pos h

theorem toNat_add_of_lt (h : a.toNat + b.toNat < 2 ^ 32) : (a + b).toNat = a.toNat + b.toNat := by
  rw [UInt32.toNat_add, Nat.mod_eq_of_lt h]

/-- Add octets to the accumulator, unless a sum does not fit. -/
def sum? : (high : Bool) → Bytes → (accumulator : UInt32) → Option UInt32
  | _, [], accumulator => some accumulator
  | true, b :: rest, accumulator => (add? accumulator (b.toUInt32 <<< 8)).bind (sum? false rest)
  | false, b :: rest, accumulator => (add? accumulator b.toUInt32).bind (sum? true rest)

/-- Add the upper half of the accumulator to the lower half, unless the sum does not fit. -/
def fold? (accumulator : UInt32) : Option UInt16 :=
  (add? accumulator (accumulator >>> 16)).map UInt32.toUInt16

/-- The key tag of key record data, unless a sum does not fit. -/
def ofRdata? (algorithm : UInt8) (rdata : Bytes) : Option UInt16 :=
  if algorithm = 1 then some (tail rdata) else (sum? true rdata 0).bind fold?

theorem toNat_highOctet (b : UInt8) : (b.toUInt32 <<< 8).toNat = b.toNat * 256 := by
  have := b.toNat_lt
  rw [UInt32.toNat_shiftLeft, UInt8.toNat_toUInt32]
  simp only [UInt32.reduceToNat, Nat.reduceMod, Nat.shiftLeft_eq]
  omega

/-- As long as the total fits, so does every sum on the way, and the accumulator is exact. -/
theorem sum?_eq (h : accumulator.toNat + total octets < 2 ^ 32) :
    sum? true octets accumulator = some (sum true octets accumulator) ∧
      (sum true octets accumulator).toNat = accumulator.toNat + total octets := by
  induction octets using words.induct generalizing accumulator with
  | case1 => exact ⟨rfl, rfl⟩
  | case2 high =>
      rw [total_singleton] at h ⊢
      rw [← toNat_highOctet] at h ⊢
      rw [sum?, sum, add?_of_lt h]
      exact ⟨rfl, toNat_add_of_lt h⟩
  | case3 high low rest ih =>
      rw [total_cons_cons, ← toNat_highOctet] at h ⊢
      have hhigh : accumulator.toNat + (high.toUInt32 <<< 8).toNat < 2 ^ 32 := by omega
      have hhigh' := toNat_add_of_lt hhigh
      have hlow : (accumulator + high.toUInt32 <<< 8).toNat + low.toUInt32.toNat < 2 ^ 32 := by
        rw [hhigh', UInt8.toNat_toUInt32]
        omega
      have hlow' := toNat_add_of_lt hlow
      rw [hhigh', UInt8.toNat_toUInt32] at hlow'
      have hrest : (accumulator + high.toUInt32 <<< 8 + low.toUInt32).toNat + total rest <
          2 ^ 32 := by
        rw [hlow']
        omega
      obtain ⟨hdefined, hexact⟩ := ih hrest
      simp only [sum?, sum, add?_of_lt hhigh, add?_of_lt hlow, Option.bind_some]
      refine ⟨hdefined, hexact.trans ?_⟩
      rw [hlow']
      omega

/-- The fold is exact as long as the accumulator and its upper half fit together. -/
theorem fold?_eq (h : accumulator.toNat + accumulator.toNat / 65536 < 2 ^ 32) :
    fold? accumulator = some (fold accumulator) ∧
      (fold accumulator).toNat = (accumulator.toNat + accumulator.toNat / 65536) % 65536 := by
  have hupper : (accumulator >>> 16).toNat = accumulator.toNat / 65536 := by
    rw [UInt32.toNat_shiftRight]
    simp only [UInt32.reduceToNat, Nat.reduceMod, Nat.shiftRight_eq_div_pow, Nat.reducePow]
  rw [← hupper] at h ⊢
  rw [fold?, fold, add?_of_lt h, UInt32.toNat_toUInt16, toNat_add_of_lt h]
  exact ⟨rfl, rfl⟩

/-- Up to 131072 octets no sum overflows, and the tag is that of the exact total. -/
theorem ofRdata?_eq {algorithm : UInt8} (halgorithm : algorithm ≠ 1)
    (hlength : octets.length ≤ 131072) :
    ofRdata? algorithm octets = some (ofRdata algorithm octets) ∧
      (ofRdata algorithm octets).toNat = (total octets + total octets / 65536) % 65536 := by
  have htotal := total_le octets
  have hfits : (0 : UInt32).toNat + total octets < 2 ^ 32 := by
    rw [UInt32.toNat_zero]
    omega
  obtain ⟨hsum, hexact⟩ := sum?_eq hfits
  rw [UInt32.toNat_zero, Nat.zero_add] at hexact
  have hfoldable : (sum true octets 0).toNat + (sum true octets 0).toNat / 65536 < 2 ^ 32 := by
    rw [hexact]
    omega
  obtain ⟨hfold, htag⟩ := fold?_eq hfoldable
  rw [hexact] at htag
  rw [ofRdata?, ofRdata, if_neg halgorithm, if_neg halgorithm, hsum, Option.bind_some]
  exact ⟨hfold, htag⟩

/-- Octets with the same words, in any order, have the same tag. -/
theorem ofRdata_congr_words {algorithm : UInt8} {others : Bytes} (halgorithm : algorithm ≠ 1)
    (hlength : octets.length ≤ 131072) (hwords : (words others).Perm (words octets)) :
    ofRdata algorithm others = ofRdata algorithm octets := by
  have htotal : total others = total octets := (hwords.map UInt16.toNat).sum_eq
  have hothers : others.length ≤ 131072 := by
    have := hwords.length_eq
    rw [length_words, length_words] at this
    omega
  apply UInt16.toNat_inj.mp
  rw [(ofRdata?_eq halgorithm hothers).2, (ofRdata?_eq halgorithm hlength).2, htotal]

/-- **A key tag is a sum of words.** Over at most 131072 octets of key data no sum overflows, not
while octets are added and not in the fold, and the tag is the sum of the words as natural numbers
with what it has above 16 bits added to it once, modulo 65536. So the words of an even number of
octets may change places. Algorithm 1 is left out, whose tag is no sum. The key data in a message is
never as long: its length is a word. -/
theorem ofRdata_eq_total (algorithm : UInt8) (rdata : Bytes) (halgorithm : algorithm ≠ 1)
    (hlength : rdata.length ≤ 131072) :
    ofRdata? algorithm rdata = some (ofRdata algorithm rdata) ∧
    (ofRdata algorithm rdata).toNat = (total rdata + total rdata / 65536) % 65536 ∧
    (rdata.length % 2 = 0 →
      (words rdata).flatMap Bytes.ofUInt16 = rdata ∧
        ∀ ws : List UInt16, ws.Perm (words rdata) →
          ofRdata algorithm (ws.flatMap Bytes.ofUInt16) = ofRdata algorithm rdata) ∧
    ∀ bytes message, Message.ofWire bytes = .ok message → ∀ record ∈ message.records, ∀ key,
      record.rdata = .dnskey key →
        key.wire.length ≤ 65535 ∧
          (key.algorithm ≠ 1 →
            ofRdata? key.algorithm key.wire = some key.keyTag ∧
              key.keyTag.toNat = (total key.wire + total key.wire / 65536) % 65536) := by
  obtain ⟨hdefined, htag⟩ := ofRdata?_eq halgorithm hlength
  refine ⟨hdefined, htag, ?_, ?_⟩
  · intro heven
    refine ⟨flatMap_ofUInt16_words heven, fun ws hws => ofRdata_congr_words halgorithm hlength ?_⟩
    rwa [words_flatMap_ofUInt16]
  · intro bytes message hread record hrecord key hkey
    have hfits :=
      Message.forall_records_of_ofWire Decoder.Yields.record_dnskey hread record hrecord key hkey
    exact ⟨hfits, fun halgorithm => ofRdata?_eq halgorithm (Nat.le_trans hfits (by decide))⟩

/-- A key whose words come to more than 16 bits can hold, by itself and in a response, and its words
in another order. -/
theorem ofRdata_eq_total_carried :
    let key : Dnskey := { flags := 256, protocol := 3, algorithm := 15, publicKey := [255, 255] }
    total key.wire = 66574 ∧ ofRdata? 15 key.wire = some key.keyTag ∧ key.keyTag.toNat = 1039 ∧
      ofRdata 15 [255, 255, 3, 15, 1, 0] = key.keyTag ∧
      ∃ message, Message.ofWire [0, 1, 129, 128, 0, 0, 0, 1, 0, 0, 0, 0,
          0, 0, 48, 0, 1, 0, 0, 0, 60, 0, 6, 1, 0, 3, 15, 255, 255] = .ok message ∧
        ∀ record ∈ message.records, record.rdata = .dnskey key ∧ key.wire.length ≤ 65535 := by
  intro key
  have htotal : total key.wire = 66574 := by decide
  obtain ⟨hdefined, htag, hordered, hmessage⟩ :=
    ofRdata_eq_total 15 key.wire (by decide) (by decide)
  obtain ⟨-, hwords⟩ := hordered (by decide)
  refine ⟨htotal, hdefined, htag.trans (by rw [htotal]), hwords [65535, 783, 256] (by decide), ?_⟩
  have hread : Message.ofWire [0, 1, 129, 128, 0, 0, 0, 1, 0, 0, 0, 0,
      0, 0, 48, 0, 1, 0, 0, 0, 60, 0, 6, 1, 0, 3, 15, 255, 255] = .ok
        { header :=
            { id := 1, response := true, recursionDesired := true, recursionAvailable := true
              answerCount := 1 }
          answers := [.ofRdata .root 60 (.dnskey key)] } := by decide +kernel
  refine ⟨_, hread, fun record hrecord => ?_⟩
  have hkey : record.rdata = .dnskey key := congrArg Record.rdata (List.mem_singleton.mp hrecord)
  exact ⟨hkey, (hmessage _ _ hread record hrecord key hkey).1⟩

end KeyTag

end DnsHealth
