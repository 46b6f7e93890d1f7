import DnsHealth.Proofs.Message.RoundTrip
import DnsHealth.Transport.Stream

/-!
# Frames on a stream

Over a stream a query is sent behind its length, and the response is taken from behind its own. What
the peer sent is `Framed` when it begins with a whole frame; this looks at the octets alone and not
at the chunks in which they arrived, nor at those behind the frame. Reading finds the frame exactly
when there is one (`Stream.frame?_eq_some_iff`). What then comes of it is said once, by
`Stream.Settles` about the same octets, and is what is read (`Stream.response_eq_iff`).
-/

namespace DnsHealth

namespace Stream

variable {chunks others : List Bytes} {count : Nat} {front behind behind' body stream : Bytes}

/-! ### Taking octets off chunks -/

/-- Octets that the chunks hold are taken off them, wherever the chunks were divided. -/
theorem exists_take?_of_flatten (h : chunks.flatten = front ++ behind)
    (hcount : front.length = count) :
    ∃ left, take? count chunks = some (front, left) ∧ left.flatten = behind := by
  have htake := take?_eq count chunks
  rw [h, if_pos (by rw [List.length_append]; omega), List.take_left' hcount,
    List.drop_left' hcount] at htake
  obtain ⟨⟨taken, left⟩, hread, hpair⟩ := Option.map_eq_some_iff.mp htake
  obtain ⟨rfl, hleft⟩ := Prod.mk.inj hpair
  exact ⟨left, hread, hleft⟩

theorem take?_eq_none (h : chunks.flatten.length < count) : take? count chunks = none := by
  have htake := take?_eq count chunks
  rwa [if_neg (Nat.not_le_of_lt h), Option.map_eq_none_iff] at htake

/-- The frame behind a length in front of what was received: as many octets, if there are as
many. -/
theorem frame?_of_flatten {length : UInt16} {received : Bytes}
    (h : chunks.flatten = Bytes.ofUInt16 length ++ received) :
    frame? chunks =
      if length.toNat ≤ received.length then some (received.take length.toNat) else none := by
  obtain ⟨left, hlength, hleft⟩ := exists_take?_of_flatten h (Bytes.length_ofUInt16 length)
  -- The length is read back from its two octets; it says how much to read of the chunks that are
  -- left.
  rw [frame?, hlength, Bytes.ofUInt16]
  dsimp only
  rw [Bytes.toUInt16_ofUInt16]
  by_cases hle : length.toNat ≤ received.length
  · have hsplit : left.flatten = received.take length.toNat ++ received.drop length.toNat := by
      rw [hleft, List.take_append_drop]
    obtain ⟨rest, hbody, -⟩ := exists_take?_of_flatten hsplit (List.length_take_of_le hle)
    rw [hbody, if_pos hle]
    rfl
  · rw [take?_eq_none (hleft ▸ Nat.lt_of_not_le hle), if_neg hle]
    rfl

theorem frame?_eq_none_of_lt (h : chunks.flatten.length < 2) : frame? chunks = none := by
  rw [frame?, take?_eq_none h]

/-! ### Frames -/

/-- The stream is a body behind its length, which takes two octets with the high one first, and
whatever follows. -/
def Framed (stream body behind : Bytes) : Prop :=
  ∃ high low : UInt8, stream = [high, low] ++ body ++ behind ∧
    body.length = high.toNat * 256 + low.toNat

/-- A message that fits a frame is written as one. -/
theorem framed_frame {message : Bytes} (h : message.length ≤ 65535) (behind : Bytes) :
    Framed (frame message ++ behind) message behind := by
  refine ⟨_, _, rfl, ?_⟩
  rw [← Bytes.toNat_toUInt16, Bytes.toUInt16_ofUInt16]
  exact (UInt16.toNat_ofNat_of_lt' (Nat.lt_succ_of_le h)).symm

/-- The frame that is read is the one that the stream begins with, if there is one. -/
theorem frame?_eq_some_iff : frame? chunks = some body ↔
    ∃ behind, Framed chunks.flatten body behind := by
  match hstream : chunks.flatten with
  | [] =>
      rw [frame?_eq_none_of_lt (by rw [hstream]; decide)]
      simp [Framed]
  | [high] =>
      rw [frame?_eq_none_of_lt (by rw [hstream]; exact Nat.one_lt_two)]
      simp [Framed]
  | high :: low :: received =>
      have hflatten : chunks.flatten = Bytes.ofUInt16 (Bytes.toUInt16 high low) ++ received := by
        rw [hstream, Bytes.ofUInt16_toUInt16]
        rfl
      rw [frame?_of_flatten hflatten, Bytes.toNat_toUInt16]
      constructor
      · intro h
        split at h
        case _ hle =>
            obtain rfl := Option.some.inj h
            refine ⟨received.drop (high.toNat * 256 + low.toNat), high, low, ?_,
              List.length_take_of_le hle⟩
            rw [List.append_assoc, List.take_append_drop]
            rfl
        case _ => simp at h
      · rintro ⟨behind, high', low', hsplit, hlength⟩
        simp only [List.cons_append, List.nil_append, List.cons.injEq] at hsplit
        obtain ⟨rfl, rfl, rfl⟩ := hsplit
        rw [← hlength, List.take_left, if_pos (by rw [List.length_append]; omega)]

/-! ### Responses -/

variable {id : UInt16} {short : TransportError} {outcome : Outcome Message}

/-- What the peer sent gives the outcome. -/
inductive Settles (id : UInt16) (short : TransportError) (stream : Bytes) : Outcome Message → Prop
  /-- The frame holds a message with the id, which is the response. -/
  | response {body behind : Bytes} {message : Message} (hframed : Framed stream body behind)
      (hread : Message.ofWire body = .ok message) (hid : message.header.id = id) :
      Settles id short stream (.ok message)
  /-- The frame holds a message with another id. -/
  | foreign {body behind : Bytes} {message : Message} (hframed : Framed stream body behind)
      (hread : Message.ofWire body = .ok message) (hid : message.header.id ≠ id) :
      Settles id short stream (.error (.foreignId message.header.id id))
  /-- The frame holds no message. -/
  | malformed {body behind : Bytes} {e : FormatError} (hframed : Framed stream body behind)
      (hread : Message.ofWire body = .error e) : Settles id short stream (.error (.malformed e))
  /-- There is no whole frame, so reading comes to the end of the stream. -/
  | short (hnone : ∀ body behind, ¬ Framed stream body behind) :
      Settles id short stream (.error short)

/-- The body of the frame decides the response. -/
theorem response_of_framed (h : Framed chunks.flatten body behind) :
    response id short chunks =
      match Message.ofWire body with
      | .error e => .error (.malformed e)
      | .ok message =>
          if message.header.id = id then .ok message
            else .error (.foreignId message.header.id id) := by
  rw [response, frame?_eq_some_iff.mpr ⟨behind, h⟩]
  dsimp only
  rw [Datagram.message]
  cases Message.ofWire body with
  | error e => rfl
  | ok message => rfl

/-- Without a frame there is nothing but the end of the stream. -/
theorem response_of_not_framed (hnone : ∀ body behind, ¬ Framed chunks.flatten body behind) :
    response id short chunks = .error short := by
  have hframe : frame? chunks = none := by
    refine Option.eq_none_iff_forall_ne_some.mpr fun body hbody => ?_
    obtain ⟨behind, hframed⟩ := frame?_eq_some_iff.mp hbody
    exact hnone body behind hframed
  rw [response, hframe]

/-- Neither the chunks nor what stands behind the frame matters. -/
theorem response_congr (h : Framed chunks.flatten body behind)
    (h' : Framed others.flatten body behind') :
    response id short chunks = response id short others := by
  rw [response_of_framed h, response_of_framed h']

theorem settles_response (id : UInt16) (short : TransportError) (chunks : List Bytes) :
    Settles id short chunks.flatten (response id short chunks) := by
  by_cases hsome : ∃ body behind, Framed chunks.flatten body behind
  · obtain ⟨body, behind, hframed⟩ := hsome
    rw [response_of_framed hframed]
    cases hread : Message.ofWire body with
    | error e => exact .malformed hframed hread
    | ok message =>
        dsimp only
        split
        case _ hid => exact .response hframed hread hid
        case _ hid => exact .foreign hframed hread hid
  · have hnone : ∀ body behind, ¬ Framed chunks.flatten body behind :=
      fun body behind hframed => hsome ⟨body, behind, hframed⟩
    rw [response_of_not_framed hnone]
    exact .short hnone

/-- What the peer sent gives one outcome, and this is what comes of reading it. -/
theorem response_eq_iff : response id short chunks = outcome ↔
    Settles id short chunks.flatten outcome := by
  constructor
  · rintro rfl
    exact settles_response id short chunks
  · intro h
    cases h with
    | response hframed hread hid =>
        rw [response_of_framed hframed, hread]
        exact if_pos hid
    | foreign hframed hread hid =>
        rw [response_of_framed hframed, hread]
        exact if_neg hid
    | malformed hframed hread => rw [response_of_framed hframed, hread]
    | short hnone => exact response_of_not_framed hnone

/-- How the stream was divided into chunks does not matter. -/
theorem response_eq_of_flatten (h : others.flatten = chunks.flatten) :
    response id short others = response id short chunks := by
  rw [response_eq_iff, h]
  exact settles_response id short chunks

/-- A response is a message with the id in a whole frame. -/
theorem response_eq_ok_iff {r : Message} :
    response id short chunks = .ok r ↔
      ∃ body behind, Framed chunks.flatten body behind ∧ Message.ofWire body = .ok r ∧
        r.header.id = id := by
  rw [response_eq_iff]
  constructor
  · intro h
    cases h with
    | response hframed hread hid => exact ⟨_, _, hframed, hread, hid⟩
  · rintro ⟨body, behind, hframed, hread, hid⟩
    exact .response hframed hread hid

/-- Whatever goes wrong with a frame, the connection failed if that is what its early end amounts
to. -/
theorem exists_of_response_eq_error {text : String} {e : TransportError}
    (h : response id (.connectionFailed text) chunks = .error e) :
    ∃ why, e = .connectionFailed why := by
  cases response_eq_iff.mp h with
  | foreign => exact ⟨_, rfl⟩
  | malformed => exact ⟨_, rfl⟩
  | short => exact ⟨text, rfl⟩

/-! ### Exchanges -/

/-- **Framing is exact.** A query that no frame can hold fails without anything being written. Any
other query is written as its frame. The response is the message with the id that fills the frame
with which the peer's octets begin; without such a frame, or with other octets in it, the connection
failed, the end of the stream included. Neither the division of these octets into chunks matters nor
what stands behind the frame. So a well-formed message with the id that fits a frame comes through
with its sections counted, whatever follows. -/
theorem exchange_framed (query : Bytes) (id : UInt16) (text : String) (chunks : List Bytes) :
    let outcome := fun chunks => exchange query id (.ofSystem false text) chunks
    (65535 < query.length →
      outcome chunks = ⟨[], .error (.connectionFailed "query exceeds 65535 bytes")⟩) ∧
    ((∀ r, (outcome chunks).result ≠ .ok r) → ∃ why,
      (outcome chunks).result = .error (.connectionFailed why)) ∧
    (query.length ≤ 65535 →
      Framed (outcome chunks).sent query [] ∧
      (∀ r, (outcome chunks).result = .ok r ↔
        ∃ body behind, Framed chunks.flatten body behind ∧ Message.ofWire body = .ok r ∧
          r.header.id = id) ∧
      (∀ others, others.flatten = chunks.flatten → outcome others = outcome chunks) ∧
      (∀ others body behind behind', Framed chunks.flatten body behind →
        Framed others.flatten body behind' → outcome others = outcome chunks) ∧
      ∀ (r : Message) (form behind : Bytes), r.WellFormed → r.header.id = id → r.wire = .ok form →
        form.length ≤ 65535 → chunks.flatten = frame form ++ behind →
          (outcome chunks).result = .ok { r with header := r.countedHeader }) := by
  intro outcome
  have hframed : query.length ≤ 65535 → ∀ chunks,
      outcome chunks = ⟨frame query, response id (.ofSystem false text) chunks⟩ :=
    fun hquery chunks => if_pos hquery
  refine ⟨fun hlong => if_neg (Nat.not_le_of_lt hlong), ?_, fun hquery => ⟨?_, ?_, ?_, ?_, ?_⟩⟩
  · intro hnone
    by_cases hquery : query.length ≤ 65535
    · rw [hframed hquery] at hnone ⊢
      cases hresponse : response id (.ofSystem false text) chunks with
      | error e =>
          obtain ⟨why, rfl⟩ := exists_of_response_eq_error hresponse
          exact ⟨why, rfl⟩
      | ok r => exact absurd hresponse (hnone r)
    · exact ⟨_, congrArg Exchange.result (if_neg hquery)⟩
  · rw [hframed hquery]
    have hsent := framed_frame hquery []
    rwa [List.append_nil] at hsent
  · intro r
    rw [hframed hquery]
    exact response_eq_ok_iff
  · intro others hsame
    rw [hframed hquery, hframed hquery, response_eq_of_flatten hsame]
  · intro others body behind behind' hchunks hothers
    rw [hframed hquery, hframed hquery, response_congr hothers hchunks]
  · intro r form behind hwell hid hwire hform hflatten
    rw [hframed hquery]
    obtain rfl := Except.ok.inj ((Message.wire_of_fits hwell.fits).symm.trans hwire)
    refine response_eq_ok_iff.mpr ⟨_, behind, ?_, Message.ofWire_countedHeader hwell, hid⟩
    rw [hflatten]
    exact framed_frame hform behind

/-- A response whose header counts nine questions, with an octet too many behind its frame: divided
into two chunks anywhere, also inside the length, it is received with one question and one answer. A
frame without octets is no response. -/
theorem exchange_framed_miscounted :
    let message : Message :=
      { header := { id := 7, response := true, questionCount := 9 }
        questions := [{ name := ⟨["example", "com"]⟩, type := .a, cls := .internet }]
        answers := [.ofRdata ⟨["example", "com"]⟩ 60 (.a #v[192, 0, 2, 1])] }
    let outcome := fun chunks => exchange [1, 2] 7 (.ofSystem false "early eof") chunks
    (∃ form, message.wire = .ok form ∧ ∀ left right, left ++ right = frame form ++ [255] →
      (outcome [left, right]).result = .ok { message with header := message.countedHeader }) ∧
      ∃ why, (outcome [[0, 0]]).result = .error (.connectionFailed why) := by
  intro message outcome
  have hwell : message.WellFormed :=
    ⟨by decide, by decide, by decide, by decide, by decide, by decide, by decide, by decide,
      by decide, by decide⟩
  have hwire := Message.wire_of_fits hwell.fits
  have hquery : ([1, 2] : Bytes).length ≤ 65535 := by decide
  refine ⟨⟨_, hwire, fun left right hsplit => ?_⟩, ?_⟩
  · obtain ⟨-, -, hfits⟩ := exchange_framed [1, 2] 7 "early eof" [left, right]
    obtain ⟨-, -, -, -, hreceived⟩ := hfits hquery
    exact hreceived message _ [255] hwell rfl hwire (by decide) (by simpa using hsplit)
  · obtain ⟨-, hfailed, hfits⟩ := exchange_framed [1, 2] 7 "early eof" [[0, 0]]
    obtain ⟨-, hok, -⟩ := hfits hquery
    refine hfailed fun r hr => ?_
    obtain ⟨body, behind, ⟨high, low, hsplit, -⟩, hread, -⟩ := (hok r).mp hr
    cases body with
    | nil => cases hread
    | cons b rest => simp at hsplit

end Stream

end DnsHealth
