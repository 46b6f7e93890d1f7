import DnsHealth.Proofs.Wire.Names

/-!
# Octets behind a message

A decoder may ask how many octets there are, but what it reads it must not read because the message
ends there. `Decoder.IgnoresTail` says that: with more octets behind the message, every successful
read is the same read, with the same value and the same cursor. A failed one may become another,
since the octets that were missing may be there now.

Parts in a row ignore what follows when each of them does. Octets and labels are the only parts here
that look at the message themselves.
-/

namespace DnsHealth

namespace Decoder

variable {α β : Type} {message : Array UInt8} {offset stop : Nat}

/-- What the decoder reads it also reads when more octets follow the message. -/
def IgnoresTail (d : Decoder α) : Prop :=
  ∀ message offset a stop, d message offset = (.ok a, stop) →
    ∀ tail : Array UInt8, d (message ++ tail) offset = (.ok a, stop)

/-! ### Octets that are there -/

theorem le_size_append (h : stop ≤ message.size) (tail : Array UInt8) :
    stop ≤ (message ++ tail).size :=
  Nat.le_trans h (by rw [Array.size_append]; exact Nat.le_add_right _ _)

theorem getElem?_append_of_eq_some {b : UInt8} (h : message[offset]? = some b)
    (tail : Array UInt8) : (message ++ tail)[offset]? = some b := by
  obtain ⟨hlt, -⟩ := Array.getElem?_eq_some_iff.mp h
  rw [Array.getElem?_append_left hlt, h]

theorem extract_append_of_le (h : stop ≤ message.size) (tail : Array UInt8) :
    (message ++ tail).extract offset stop = message.extract offset stop := by
  rw [Array.extract_append, Nat.sub_eq_zero_of_le h]
  simp

/-! ### Steps of a walk over labels -/

section Walks

variable {limit length next : Nat} {first low : UInt8} {label : String} {found rest : List String}

theorem labels_of_root (hfirst : message[offset]? = some first) (hzero : first.toNat = 0) :
    labels message offset limit length = .ok ([], offset + 1) := by
  rw [labels]
  split
  case _ hnone => exact absurd (hfirst.symm.trans hnone) (Option.some_ne_none first)
  case _ other hother =>
      obtain rfl := Option.some.inj (hfirst.symm.trans hother)
      exact if_pos hzero

theorem labels_of_label (hfirst : message[offset]? = some first) (hne : first.toNat ≠ 0)
    (hlt : first.toNat < 64) (hend : offset + 1 + first.toNat ≤ message.size)
    (hfit : length + first.toNat + 1 ≤ Name.maxLength)
    (hlabel : String.fromUTF8? ⟨message.extract (offset + 1) (offset + 1 + first.toNat)⟩ =
      some label)
    (hwalk : labels message (offset + 1 + first.toNat) limit (length + first.toNat + 1) =
      .ok (rest, next)) :
    labels message offset limit length = .ok (label :: rest, next) := by
  rw [labels]
  split
  case _ hnone => exact absurd (hfirst.symm.trans hnone) (Option.some_ne_none first)
  case _ other hother =>
      obtain rfl := Option.some.inj (hfirst.symm.trans hother)
      dsimp only
      rw [if_neg hne, if_pos hlt, dif_pos hend, if_pos hfit]
      simp only [hlabel, hwalk]

theorem labels_of_pointer (hfirst : message[offset]? = some first) (hpointer : 192 ≤ first.toNat)
    (hlow : message[offset + 1]? = some low)
    (htarget : (first.toNat - 192) * 256 + low.toNat < limit)
    (hwalk : labels message ((first.toNat - 192) * 256 + low.toNat)
      ((first.toNat - 192) * 256 + low.toNat) length = .ok (rest, next)) :
    labels message offset limit length = .ok (rest, offset + 2) := by
  rw [labels]
  split
  case _ hnone => exact absurd (hfirst.symm.trans hnone) (Option.some_ne_none first)
  case _ other hother =>
      obtain rfl := Option.some.inj (hfirst.symm.trans hother)
      dsimp only
      rw [if_neg (by omega), if_neg (by omega), if_neg (by omega)]
      simp only [hlow, if_pos htarget, hwalk]

/-- A walk that ends well has met only octets of the message, wherever pointers led it. -/
theorem labels_append (h : labels message offset limit length = .ok (found, stop))
    (tail : Array UInt8) : labels (message ++ tail) offset limit length = .ok (found, stop) := by
  fun_induction labels message offset limit length generalizing found stop
  case case2 hfirst _ hzero =>
      rw [← h, labels_of_root (getElem?_append_of_eq_some hfirst tail) hzero]
  case case4 hfirst _ hne hlt hend hfit label hlabel rest next hwalk ih =>
      -- The label is cut out of the same octets, and the walk behind it is the same walk.
      rw [← h]
      rw [← extract_append_of_le hend tail] at hlabel
      exact labels_of_label (getElem?_append_of_eq_some hfirst tail) hne hlt
        (le_size_append hend tail) hfit hlabel (ih hwalk)
  case case10 hfirst _ hne hlt hpointer low hlow target htarget rest next hwalk ih =>
      -- The pointer leads to the same offset as before, which does not depend on the end of the
      -- message.
      rw [← h]
      exact labels_of_pointer (getElem?_append_of_eq_some hfirst tail) (Nat.le_of_not_lt hpointer)
        (getElem?_append_of_eq_some hlow tail) htarget (ih hwalk)
  case case1 | case3 | case5 | case6 | case7 | case8 | case9 | case11 | case12 => simp at h

end Walks

/-! ### Decoders -/

namespace IgnoresTail

variable {d d' : Decoder α} {f : α → Decoder β}

protected theorem pure (a : α) : IgnoresTail (pure a) :=
  fun _ _ _ _ h _ => h

/-- A decoder that only fails reads nothing. -/
protected theorem fail (e : FormatError) : IgnoresTail (fail (α := α) e) := by
  intro _ _ _ _ h
  simp [Decoder.fail] at h

protected theorem position : IgnoresTail position :=
  fun _ _ _ _ h _ => h

/-- The second part begins in the longer message where it began in the shorter one. -/
protected theorem bind (hd : IgnoresTail d) (hf : ∀ a, IgnoresTail (f a)) :
    IgnoresTail (d >>= f) := by
  intro message offset c stop h tail
  obtain ⟨a, next, ha, hc⟩ := bind_eq_ok.mp h
  exact bind_eq_ok.mpr ⟨a, next, hd _ _ _ _ ha tail, hf a _ _ _ _ hc tail⟩

protected theorem map (hd : IgnoresTail d) (g : α → β) : IgnoresTail (g <$> d) :=
  hd.bind fun a => .pure (g a)

protected theorem ite {c : Prop} [Decidable c] (hd : IgnoresTail d) (hd' : IgnoresTail d') :
    IgnoresTail (if c then d else d') := by
  split
  case _ => exact hd
  case _ => exact hd'

protected theorem octets (count : Nat) : IgnoresTail (octets count) := by
  intro message offset v stop h tail
  rw [Decoder.octets] at h ⊢
  split at h
  case _ hend =>
      obtain ⟨hv, rfl⟩ := Prod.mk.inj h
      obtain rfl := Except.ok.inj hv
      rw [dif_pos (le_size_append hend tail)]
      congr 2
      exact Vector.toArray_inj.mp (extract_append_of_le hend tail)
  case _ => simp at h

protected theorem bytes (count : Nat) : IgnoresTail (bytes count) :=
  (IgnoresTail.octets count).map _

protected theorem u8 : IgnoresTail u8 :=
  (IgnoresTail.octets 1).map _

protected theorem u16 : IgnoresTail u16 :=
  (IgnoresTail.octets 2).map _

protected theorem u32 : IgnoresTail u32 :=
  (IgnoresTail.octets 4).map _

/-- How far there is to go depends on the cursor, not on the end of the message. -/
protected theorem bytesUpTo (stop : Nat) (past : FormatError) : IgnoresTail (bytesUpTo stop past) :=
  IgnoresTail.position.bind fun _ => .ite (.bytes _) (.fail past)

protected theorem name : IgnoresTail name := by
  intro message offset n stop h tail
  rw [Decoder.name] at h ⊢
  split at h
  case _ found next hwalk =>
      rw [labels_append hwalk tail]
      exact h
  case _ => simp at h

protected theorem replicate (hd : IgnoresTail d) (count : Nat) :
    IgnoresTail (replicate count d) := by
  induction count with
  | zero => exact .pure []
  | succ count ih =>
      rw [replicate_succ]
      exact hd.bind fun a => ih.bind fun more => .pure (a :: more)

end IgnoresTail

end Decoder

end DnsHealth
