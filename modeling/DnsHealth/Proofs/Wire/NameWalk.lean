import DnsHealth.Proofs.Wire.NameGrammar

/-!
# Walks over names, turn by turn

`Decoder.labels` says what a walk over the labels of a name comes to. Here the walk is a machine: a
`NameWalk` is the state of its loop, and a turn accepts a label, follows a pointer or ends the walk.

The offset measures no progress, since labels lead forward and pointers lead back, and a walk may
come to the same pointer again. What carries the bounds are the other two numbers of the state: an
accepted label takes at least two of the octets that are left of the longest name, and a followed
pointer lowers the limit for the next one. In lexicographic order the two also show that every walk
comes to an end (`NameWalk.exists_ended`), and what it ends with is what `Decoder.labels` says.
-/

namespace DnsHealth

/-- The state of a walk over a name, between two turns. -/
structure NameWalk where
  /-- Where the next octet is looked at. -/
  offset : Nat
  /-- The next pointer must lead before this offset. -/
  limit : Nat
  /-- The wire octets of the root label and of the labels found. -/
  length : Nat
  /-- The labels found, in their order. -/
  found : List String
  /-- The offset behind the first pointer, once one was followed. -/
  resume? : Option Nat
  deriving DecidableEq

namespace NameWalk

/-- What a walk ends with: the labels and the offset where reading resumes, or an error. -/
abbrev Outcome : Type :=
  Except FormatError (List String × Nat)

/-- What a turn of a walk comes to. -/
inductive Turn where
  /-- A label was accepted. -/
  | label (next : NameWalk)
  /-- A pointer was followed. -/
  | pointer (next : NameWalk)
  /-- The walk is over. -/
  | ended (outcome : Outcome)
  deriving DecidableEq

/-- The walk over the name at `offset`, before its first turn. -/
def start (offset : Nat) : NameWalk :=
  { offset, limit := offset, length := 1, found := [], resume? := none }

/-- The walk with one more label, of as many octets as its length octet says. -/
def withLabel (walk : NameWalk) (size : Nat) (label : String) : NameWalk :=
  { walk with
    offset := walk.offset + 1 + size
    length := walk.length + size + 1
    found := walk.found ++ [label] }

/-- The walk where a pointer leads to. Only the first pointer says where reading resumes. -/
def leadTo (walk : NameWalk) (target : Nat) : NameWalk :=
  { walk with
    offset := target
    limit := target
    resume? := walk.resume?.or (some (walk.offset + 2)) }

/-- One turn of the walk: it looks at the octet at the offset, and at what this octet announces. -/
def turn (message : Array UInt8) (walk : NameWalk) : Turn :=
  match message[walk.offset]? with
  | none => .ended (.error (.truncated walk.offset 1))
  | some first =>
    let size := first.toNat
    if size = 0 then .ended (.ok (walk.found, walk.resume?.getD (walk.offset + 1)))
    else if size < 64 then
      if walk.offset + 1 + size ≤ message.size then
        if walk.length + size + 1 ≤ Name.maxLength then
          match String.fromUTF8? ⟨message.extract (walk.offset + 1) (walk.offset + 1 + size)⟩ with
          | none => .ended (.error .invalidLabel)
          | some label => .label (walk.withLabel size label)
        else .ended (.error .nameTooLong)
      else .ended (.error (.truncated (walk.offset + 1) size))
    else if size < 192 then .ended (.error .invalidLabel)
    else
      match message[walk.offset + 1]? with
      | none => .ended (.error (.truncated walk.offset 2))
      | some low =>
        let target := (size - 192) * 256 + low.toNat
        if target < walk.limit then .pointer (walk.leadTo target)
        else .ended (.error (.badPointer walk.offset))

/-- What the walk over the name at the offset comes to, behind what was found before. -/
def outcome (message : Array UInt8) (walk : NameWalk) : Outcome :=
  match Decoder.labels message walk.offset walk.limit walk.length with
  | .ok (rest, stop) => .ok (walk.found ++ rest, walk.resume?.getD stop)
  | .error e => .error e

/-- What a turn of a walk that comes to `result` can be. -/
inductive TurnsTo (message : Array UInt8) (walk : NameWalk) (result : Outcome) : Turn → Prop
  /-- It ends the walk. -/
  | ended : TurnsTo message walk result (.ended result)
  /-- It accepts a label of at least one octet that fits in what is left of the longest name. -/
  | label {size : Nat} {label : String} (hsize : 1 ≤ size)
      (hfit : walk.length + size + 1 ≤ Name.maxLength)
      (hrest : outcome message (walk.withLabel size label) = result) :
      TurnsTo message walk result (.label (walk.withLabel size label))
  /-- It follows a pointer to before the limit. A pointer has fourteen bits. -/
  | pointer {target : Nat} (hlimit : target < walk.limit) (hbound : target < Name.pointerBound)
      (hrest : outcome message (walk.leadTo target) = result) :
      TurnsTo message walk result (.pointer (walk.leadTo target))

variable {message : Array UInt8} {walk next last : NameWalk} {labels pointers : Nat}

theorem outcome_of_labels {rest : List String} {stop : Nat}
    (h : Decoder.labels message walk.offset walk.limit walk.length = .ok (rest, stop)) :
    outcome message walk = .ok (walk.found ++ rest, walk.resume?.getD stop) := by
  rw [outcome, h]

theorem outcome_of_labels_error {e : FormatError}
    (h : Decoder.labels message walk.offset walk.limit walk.length = .error e) :
    outcome message walk = .error e := by
  rw [outcome, h]

/-- Whatever a turn does, the walk comes to what it would have come to before. -/
theorem turnsTo_turn (message : Array UInt8) (walk : NameWalk) :
    TurnsTo message walk (outcome message walk) (turn message walk) := by
  rw [outcome]
  fun_cases Decoder.labels message walk.offset walk.limit walk.length
  case case1 hfirst =>
      rw [turn, hfirst]
      exact .ended
  case case2 first hfirst _ hzero =>
      simp only [turn, hfirst]
      rw [if_pos hzero, List.append_nil]
      exact .ended
  case case3 first hfirst _ hne hlt hend hfit hlabel =>
      simp only [turn, hfirst]
      rw [if_neg hne, if_pos hlt, if_pos hend, if_pos hfit, hlabel]
      exact .ended
  case case4 first hfirst _ hne hlt hend hfit label hlabel rest stop hrest =>
      simp only [turn, hfirst]
      rw [if_neg hne, if_pos hlt, if_pos hend, if_pos hfit, hlabel]
      refine .label (Nat.pos_of_ne_zero hne) hfit ((outcome_of_labels hrest).trans ?_)
      rw [withLabel, List.append_assoc, List.singleton_append]
  case case5 first hfirst _ hne hlt hend hfit label hlabel e hrest =>
      simp only [turn, hfirst]
      rw [if_neg hne, if_pos hlt, if_pos hend, if_pos hfit, hlabel]
      exact .label (Nat.pos_of_ne_zero hne) hfit (outcome_of_labels_error hrest)
  case case6 first hfirst _ hne hlt hend hlong =>
      simp only [turn, hfirst]
      rw [if_neg hne, if_pos hlt, if_pos hend, if_neg hlong]
      exact .ended
  case case7 first hfirst _ hne hlt hend =>
      simp only [turn, hfirst]
      rw [if_neg hne, if_pos hlt, if_neg hend]
      exact .ended
  case case8 first hfirst _ hne hlt hreserved =>
      simp only [turn, hfirst]
      rw [if_neg hne, if_neg hlt, if_pos hreserved]
      exact .ended
  case case9 first hfirst _ hne hlt hpointer hlow =>
      simp only [turn, hfirst]
      rw [if_neg hne, if_neg hlt, if_neg hpointer, hlow]
      exact .ended
  case case10 first hfirst _ hne hlt hpointer low hlow target htarget rest stop hrest =>
      simp only [turn, hfirst, hlow]
      rw [if_neg hne, if_neg hlt, if_neg hpointer, if_pos htarget]
      refine .pointer htarget (Decoder.pointerTarget_lt first low)
        ((outcome_of_labels hrest).trans ?_)
      rw [leadTo]
      cases walk.resume? <;> rfl
  case case11 first hfirst _ hne hlt hpointer low hlow target htarget e hrest =>
      simp only [turn, hfirst, hlow]
      rw [if_neg hne, if_neg hlt, if_neg hpointer, if_pos htarget]
      exact .pointer htarget (Decoder.pointerTarget_lt first low) (outcome_of_labels_error hrest)
  case case12 first hfirst _ hne hlt hpointer low hlow target htarget =>
      simp only [turn, hfirst, hlow]
      rw [if_neg hne, if_neg hlt, if_neg hpointer, if_neg htarget]
      exact .ended

/-! ### Runs -/

/-- Turns lead from one state of a walk to another, of which `labels` accept a label and `pointers`
follow a pointer. -/
inductive Leads (message : Array UInt8) : NameWalk → (labels pointers : Nat) → NameWalk → Prop
  | refl (walk : NameWalk) : Leads message walk 0 0 walk
  | label {walk next last : NameWalk} {labels pointers : Nat}
      (hturn : turn message walk = .label next)
      (hnext : Leads message next labels pointers last) :
      Leads message walk (labels + 1) pointers last
  | pointer {walk next last : NameWalk} {labels pointers : Nat}
      (hturn : turn message walk = .pointer next)
      (hnext : Leads message next labels pointers last) :
      Leads message walk labels (pointers + 1) last

/-- The labels accepted use up the longest name, and the pointers followed use up the offsets before
the limit. -/
theorem Leads.bounds (h : Leads message walk labels pointers last)
    (hlength : walk.length ≤ Name.maxLength) :
    last.found.length = walk.found.length + labels ∧ walk.length + 2 * labels ≤ Name.maxLength ∧
      pointers ≤ walk.limit ∧ pointers ≤ Name.pointerBound := by
  induction h with
  | refl walk => exact ⟨rfl, hlength, Nat.zero_le _, Nat.zero_le _⟩
  | @label walk next last labels pointers hturn hnext ih =>
      have hturns := turnsTo_turn message walk
      rw [hturn] at hturns
      cases hturns with
      | label hsize hfit _ =>
          obtain ⟨hfound, hlabels, hlimit, hbound⟩ := ih hfit
          simp only [withLabel, List.length_append, List.length_singleton] at hfound hlabels hlimit
          exact ⟨by omega, by omega, hlimit, hbound⟩
  | @pointer walk next last labels pointers hturn hnext ih =>
      have hturns := turnsTo_turn message walk
      rw [hturn] at hturns
      cases hturns with
      | pointer htarget hbits _ =>
          -- The target is the new limit, and it lies below both the old one and the reach of a
          -- pointer.
          obtain ⟨hfound, hlabels, hlimit, -⟩ := ih hlength
          simp only [leadTo] at hfound hlabels hlimit
          exact ⟨hfound, hlabels, by omega, by omega⟩

/-- Every walk comes to an end, and to what the rest of the labels says. -/
theorem exists_ended (message : Array UInt8) (walk : NameWalk) :
    ∃ labels pointers last, Leads message walk labels pointers last ∧
      turn message last = .ended (outcome message walk) := by
  have hturns := turnsTo_turn message walk
  generalize hturn : turn message walk = t at hturns
  cases hturns with
  | ended => exact ⟨0, 0, walk, .refl walk, hturn⟩
  | @label size label hsize hfit hrest =>
      obtain ⟨labels, pointers, last, hleads, hended⟩ :=
        exists_ended message (walk.withLabel size label)
      exact ⟨labels + 1, pointers, last, .label hturn hleads, hrest ▸ hended⟩
  | @pointer target htarget hbits hrest =>
      obtain ⟨labels, pointers, last, hleads, hended⟩ := exists_ended message (walk.leadTo target)
      exact ⟨labels, pointers + 1, last, .pointer hturn hleads, hrest ▸ hended⟩
-- Labels leave the limit alone and use up the longest name; pointers lower the limit.
termination_by (walk.limit, Name.maxLength - walk.length)
decreasing_by
  · apply Prod.Lex.right
    simp only [withLabel]
    omega
  · exact Prod.Lex.left _ _ htarget

/-- **Every walk over a name ends within small bounds.** Whatever octets the message holds and
wherever the name begins, no run of turns accepts more than 127 labels, nor does it follow more
pointers than there are offsets before the name, or than fourteen bits can tell apart. One of the
runs ends the walk, and what it ends with is what the name is read as. -/
theorem leads_start_bounded (message : Array UInt8) (offset : Nat) :
    (∀ labels pointers walk, Leads message (start offset) labels pointers walk →
      walk.found.length = labels ∧ labels ≤ 127 ∧ pointers ≤ min offset 16384) ∧
    ∃ labels pointers last outcome, Leads message (start offset) labels pointers last ∧
      turn message last = .ended outcome ∧
      (∀ found stop, outcome = .ok (found, stop) →
        Decoder.name message offset = (.ok ⟨found⟩, stop)) ∧
      ∀ e, outcome = .error e → Decoder.name message offset = (.error e, offset) := by
  constructor
  · intro labels pointers walk hleads
    obtain ⟨hfound, hlabels, hlimit, hbound⟩ := hleads.bounds (show 1 ≤ Name.maxLength by decide)
    simp only [start, List.length_nil, Name.maxLength] at hfound hlabels hlimit
    exact ⟨by omega, by omega, Nat.le_min.mpr ⟨hlimit, hbound⟩⟩
  · obtain ⟨labels, pointers, last, hleads, hended⟩ := exists_ended message (start offset)
    refine ⟨labels, pointers, last, _, hleads, hended, ?_⟩
    rcases hwalk : Decoder.labels message offset offset 1 with e | ⟨rest, next⟩
    · have houtcome : outcome message (start offset) = .error e := outcome_of_labels_error hwalk
      rw [houtcome, Decoder.name_of_labels_error hwalk]
      exact ⟨by simp, fun other h => by rw [Except.error.inj h]⟩
    · have houtcome : outcome message (start offset) = .ok (rest, next) := outcome_of_labels hwalk
      rw [houtcome, Decoder.name_of_labels hwalk]
      refine ⟨fun found stop h => ?_, by simp⟩
      obtain ⟨rfl, rfl⟩ := Prod.mk.inj (Except.ok.inj h)
      rfl

/-- A pointer back to a label leads to the same pointer again, which then leads nowhere. -/
theorem leads_start_bounded_samePointer :
    let message : Array UInt8 := #[1, 97, 192, 0]
    let last : NameWalk :=
      { offset := 2, limit := 0, length := 3, found := ["a"], resume? := some 4 }
    Leads message (start 2) 1 1 last ∧ turn message last = .ended (.error (.badPointer 2)) ∧
      last.found.length = 1 ∧ 1 ≤ 127 ∧ 1 ≤ min 2 16384 := by
  intro message last
  have hpointer : turn message (start 2) = .pointer ((start 2).leadTo 0) := by decide +kernel
  have hlabel : turn message ((start 2).leadTo 0) = .label last := by decide +kernel
  have hleads : Leads message (start 2) 1 1 last := .pointer hpointer (.label hlabel (.refl _))
  exact ⟨hleads, by decide +kernel, (leads_start_bounded message 2).1 1 1 last hleads⟩

end NameWalk

end DnsHealth
