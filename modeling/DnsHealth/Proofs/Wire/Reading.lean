import DnsHealth.Wire.Decoder

/-!
# Reading what stands in a message

A decoder is given a whole message and an offset. `HoldsAt message offset bytes` says that `bytes`
stand in the message at the offset, whatever stands before and behind them, and `Decoder.Reads` that
a decoder takes exactly these octets for a value. Reading back a written form is then proved part by
part: `Reads.bind` puts the parts of a form together, so no proof about a form does arithmetic on
offsets.

The other direction is `Decoder.Yields`: what holds of every value that a decoder can read at all.
It, too, goes part by part.
-/

namespace DnsHealth

/-! ### Octets at an offset -/

/-- The octets `bytes` stand in `message` at `offset`. -/
def HoldsAt (message : Array UInt8) (offset : Nat) (bytes : Bytes) : Prop :=
  ∃ before after : Bytes, message.toList = before ++ bytes ++ after ∧ before.length = offset

namespace HoldsAt

variable {message : Array UInt8} {offset : Nat} {bytes front back : Bytes} {b : UInt8}

/-- The whole message stands at its start. -/
theorem whole (bytes : Bytes) : HoldsAt bytes.toArray 0 bytes :=
  ⟨[], [], by simp, rfl⟩

/-- Octets stand where others that were put in front of them end. -/
theorem between (before bytes after : Bytes) :
    HoldsAt (before ++ bytes ++ after).toArray before.length bytes :=
  ⟨before, after, rfl, rfl⟩

theorem append_left (h : HoldsAt message offset (front ++ back)) :
    HoldsAt message offset front := by
  obtain ⟨before, after, hlist, hlength⟩ := h
  exact ⟨before, back ++ after, by simpa using hlist, hlength⟩

theorem append_right (h : HoldsAt message offset (front ++ back)) :
    HoldsAt message (offset + front.length) back := by
  obtain ⟨before, after, hlist, hlength⟩ := h
  exact ⟨before ++ front, after, by simpa using hlist, by simp [hlength]⟩

theorem head (h : HoldsAt message offset (b :: bytes)) : message[offset]? = some b := by
  obtain ⟨before, after, hlist, rfl⟩ := h
  rw [← Array.getElem?_toList, hlist, List.append_assoc, List.getElem?_append_right (Nat.le_refl _)]
  simp

theorem tail (h : HoldsAt message offset (b :: bytes)) : HoldsAt message (offset + 1) bytes :=
  append_right (show HoldsAt message offset ([b] ++ bytes) from h)

/-- Octets that stand in a message end inside it. -/
theorem end_le (h : HoldsAt message offset bytes) : offset + bytes.length ≤ message.size := by
  obtain ⟨before, after, hlist, rfl⟩ := h
  rw [← Array.length_toList, hlist]
  simp only [List.length_append]
  omega

/-- Cutting them out gives the octets. -/
theorem toList_extract (h : HoldsAt message offset bytes) :
    (message.extract offset (offset + bytes.length)).toList = bytes := by
  obtain ⟨before, after, hlist, rfl⟩ := h
  rw [Array.toList_extract, hlist, List.extract_eq_take_drop, List.append_assoc, List.drop_left,
    Nat.add_sub_cancel_left, List.take_left]

end HoldsAt

namespace Decoder

variable {α β : Type} {message : Array UInt8} {offset stop : Nat} {a : α} {c : β}
  {data front back : Bytes} {d : Decoder α} {f : α → Decoder β}

/-! ### Asking for the cursor -/

theorem position_bind (f : Nat → Decoder β) :
    (position >>= f) message offset = f offset message offset :=
  rfl

theorem remaining_bind (f : Nat → Decoder β) :
    (remaining >>= f) message offset = f (message.size - offset) message offset := rfl

/-! ### Reading a form back -/

/-- The decoder takes the octets `data` at `offset` for the value `a` and stops right behind
them. -/
def Reads (d : Decoder α) (message : Array UInt8) (offset : Nat) (data : Bytes) (a : α) : Prop :=
  HoldsAt message offset data → d message offset = (.ok a, offset + data.length)

namespace Reads

protected theorem pure (a : α) : Reads (pure a) message offset [] a :=
  fun _ => rfl

/-- Two forms in a row are read by two decoders in a row. -/
protected theorem bind (hd : Reads d message offset front a)
    (hf : Reads (f a) message (offset + front.length) back c) :
    Reads (d >>= f) message offset (front ++ back) c := by
  intro h
  rw [bind_ok (hd h.append_left), hf h.append_right, List.length_append, Nat.add_assoc]

/-- The last part of a form: only the value is put together afterwards. -/
theorem last {g : α → β} (hd : Reads d message offset data a) :
    Reads (d >>= fun x => pure (g x)) message offset data (g a) := by
  intro h
  rw [bind_ok (hd h), pure_apply]

protected theorem map {g : α → β} (hd : Reads d message offset data a) :
    Reads (g <$> d) message offset data (g a) :=
  hd.last

theorem octets {count : Nat} (v : Vector UInt8 count) :
    Reads (octets count) message offset v.toList v := by
  intro h
  have hend := h.end_le
  have hcut := h.toList_extract
  rw [Vector.length_toList] at hend hcut ⊢
  rw [Decoder.octets, dif_pos hend]
  congr 2
  apply Vector.toList_inj.1
  exact hcut

theorem bytes {count : Nat} (hcount : count = data.length) :
    Reads (bytes count) message offset data data := by
  subst hcount
  exact (octets ⟨data.toArray, List.size_toArray⟩).last

theorem u8 (b : UInt8) : Reads u8 message offset [b] b :=
  (octets #v[b]).last

theorem u16 (w : UInt16) : Reads u16 message offset (Bytes.ofUInt16 w) w := by
  intro h
  rw [Decoder.u16, bind_ok (octets #v[UInt8.ofNat (w.toNat / 256), UInt8.ofNat w.toNat] h),
    pure_apply]
  exact congrArg (fun x => (Except.ok x, offset + 2)) (Bytes.toUInt16_ofUInt16 w)

theorem u32 (w : UInt32) : Reads u32 message offset (Bytes.ofUInt32 w) w := by
  intro h
  rw [Decoder.u32,
    bind_ok (octets #v[UInt8.ofNat (w.toNat / 16777216), UInt8.ofNat (w.toNat / 65536),
    UInt8.ofNat (w.toNat / 256), UInt8.ofNat w.toNat] h), pure_apply]
  exact congrArg (fun x => (Except.ok x, offset + 4)) (Bytes.toUInt32_ofUInt32 w)

/-- The rest of a field that ends at `stop`. -/
theorem bytesUpTo {past : FormatError} (hstop : stop = offset + data.length) :
    Reads (bytesUpTo stop past) message offset data data := by
  intro h
  rw [Decoder.bytesUpTo, position_bind, if_pos (by omega)]
  exact Reads.bytes (by omega) h

/-- Values in a row, when the count is right. -/
theorem replicate {write : α → Bytes} {values : List α} {count : Nat}
    (hcount : count = values.length)
    (hd : ∀ x ∈ values, ∀ offset, Reads d message offset (write x) x) :
    Reads (replicate count d) message offset (values.flatMap write) values := by
  subst hcount
  induction values generalizing offset with
  | nil => exact Reads.pure []
  | cons x rest ih =>
      rw [List.length_cons, replicate_succ, List.flatMap_cons]
      have htail : Reads (replicate rest.length d) message (offset + (write x).length)
          (rest.flatMap write) rest :=
        ih fun y hy => hd y (List.mem_cons_of_mem x hy)
      exact (hd x List.mem_cons_self offset).bind htail.last

end Reads

/-! ### What a decoder yields -/

/-- Every value that the decoder reads, from whatever message, has the property. -/
def Yields (d : Decoder α) (P : α → Prop) : Prop :=
  ∀ message offset a stop, d message offset = (.ok a, stop) → P a

/-- What a read of two parts in a row says about each of them. -/
theorem bind_eq_ok : (d >>= f) message offset = (.ok c, stop) ↔
    ∃ a next, d message offset = (.ok a, next) ∧ f a message next = (.ok c, stop) := by
  rw [bind_apply]
  constructor
  · intro h
    split at h
    case _ a next hd => exact ⟨a, next, hd, h⟩
    case _ => simp at h
  · rintro ⟨a, next, hd, hf⟩
    rw [hd]
    exact hf

theorem pure_eq_ok {x y : α} : (pure x : Decoder α) message offset = (.ok y, stop) ↔
    x = y ∧ offset = stop := by
  rw [pure_apply, Prod.mk.injEq, Except.ok.injEq]

namespace Yields

variable {P : β → Prop} {Q : α → Prop}

protected theorem pure {x : α} (h : Q x) : Yields (pure x) Q := by
  intro _ _ _ _ hpure
  obtain ⟨rfl, -⟩ := pure_eq_ok.mp hpure
  exact h

protected theorem fail {e : FormatError} : Yields (fail e) Q := by
  intro _ _ _ _ h
  simp [Decoder.fail] at h

/-- What is known of the first value helps to tell about the second. -/
protected theorem bind (hd : Yields d Q) (hf : ∀ a, Q a → Yields (f a) P) :
    Yields (d >>= f) P := by
  intro _ _ c _ h
  obtain ⟨a, _, ha, hc⟩ := bind_eq_ok.mp h
  exact hf a (hd _ _ a _ ha) _ _ c _ hc

/-- Any first value will do. -/
theorem skip (hf : ∀ a, Yields (f a) P) : Yields (d >>= f) P :=
  Yields.bind (Q := fun _ => True) (fun _ _ _ _ _ => trivial) fun a _ => hf a

protected theorem map {g : α → β} (hd : Yields d Q) (h : ∀ a, Q a → P (g a)) : Yields (g <$> d) P :=
  hd.bind fun a ha => Yields.pure (h a ha)

/-- Octets come in the number asked for. -/
theorem bytes {count : Nat} : Yields (bytes count) (fun data => data.length = count) :=
  skip fun v => Yields.pure v.length_toList

/-- As many values as asked for, each of them one that the decoder yields. -/
theorem replicate (hd : Yields d Q) (count : Nat) :
    Yields (replicate count d) (fun values => values.length = count ∧ ∀ x ∈ values, Q x) := by
  induction count with
  | zero => exact Yields.pure ⟨rfl, fun x hx => absurd hx List.not_mem_nil⟩
  | succ count ih =>
      rw [replicate_succ]
      refine hd.bind fun x hx => ih.bind fun rest hrest => Yields.pure ⟨?_, ?_⟩
      · rw [List.length_cons, hrest.1]
      · exact List.forall_mem_cons.mpr ⟨hx, hrest.2⟩

end Yields

end Decoder

end DnsHealth
