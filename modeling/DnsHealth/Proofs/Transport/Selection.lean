import DnsHealth.Transport.Client

/-!
# Which datagram answers

A query that left as a datagram is followed by a loop: datagrams are received into one buffer, one
after another, and each of them is passed over or ends the loop. What a datagram can do is said
once, by `Datagram.Stray` and `Datagram.Settles`, about what is seen of it and nothing else; no
third thing can happen (`Datagram.stray_or_settles`).

From this follows what the loop comes to. The buffer keeps octets of earlier, longer datagrams
behind those of the last one, but only as many octets are read as were received, so nothing of a
stray datagram is left (`Datagram.await_eq_select`). What counts is the first datagram that is no
stray, and no stray can change anything, wherever it arrives (`Datagram.select_eq_iff`).
-/

namespace DnsHealth

namespace Datagram

variable {id : UInt16} {datagram : Bytes} {datagrams strays later : List Bytes}
  {outcome : Outcome Message}

/-! ### What one datagram does -/

/-- What is seen of the datagram is a message with another id. -/
def Stray (id : UInt16) (datagram : Bytes) : Prop :=
  ∃ message, Message.ofWire (datagram.take limit) = .ok message ∧ message.header.id ≠ id

/-- The datagram ends the exchange with an outcome. -/
inductive Settles (id : UInt16) (datagram : Bytes) : Outcome Message → Prop
  /-- What is seen of it is a message with the id, which is the response. -/
  | response {message : Message} (h : Message.ofWire (datagram.take limit) = .ok message)
      (hid : message.header.id = id) : Settles id datagram (.ok message)
  /-- What is seen of it is no message, and the error says why. -/
  | malformed {e : FormatError} (h : Message.ofWire (datagram.take limit) = .error e) :
      Settles id datagram (.error (.connectionFailed ("malformed response: " ++ e.message)))

theorem decision?_eq_none_iff : decision? id datagram = none ↔ Stray id datagram := by
  rw [decision?, message, Stray]
  cases hread : Message.ofWire (datagram.take limit) with
  | error e => simp
  | ok response => by_cases hid : response.header.id = id <;> simp [hid]

theorem decision?_eq_some_iff : decision? id datagram = some outcome ↔
    Settles id datagram outcome := by
  rw [decision?, message]
  constructor
  · intro h
    cases hread : Message.ofWire (datagram.take limit) with
    | error e =>
        rw [hread] at h
        obtain rfl := Option.some.inj h
        exact .malformed hread
    | ok response =>
        rw [hread] at h
        by_cases hid : response.header.id = id
        · obtain rfl := Option.some.inj ((if_pos hid).symm.trans h)
          exact .response hread hid
        · exact absurd ((if_neg hid).symm.trans h) (by simp)
  · intro h
    cases h with
    | response hread hid =>
        rw [hread]
        exact if_pos hid
    | malformed hread =>
        rw [hread]
        rfl

/-- Every datagram is passed over or ends the exchange. -/
theorem stray_or_settles (id : UInt16) (datagram : Bytes) :
    Stray id datagram ∨ ∃ outcome, Settles id datagram outcome := by
  cases hdecision : decision? id datagram with
  | none => exact .inl (decision?_eq_none_iff.mp hdecision)
  | some outcome => exact .inr ⟨outcome, decision?_eq_some_iff.mp hdecision⟩

/-! ### The receive buffer -/

/-- The buffer that all datagrams are received into. -/
abbrev Buffer := Vector UInt8 limit

/-- A datagram overwrites the buffer from the front. Octets of the buffer behind its end stay, and
octets of its own beyond the buffer are lost. -/
def Buffer.receive (buffer : Buffer) (datagram : Bytes) : Buffer :=
  Vector.ofFn fun i => datagram[i.val]?.getD (buffer.get i)

/-- How many octets of a datagram are received. -/
def received (datagram : Bytes) : Nat :=
  min datagram.length limit

/-- The octets that were received are those of the datagram, whatever stood in the buffer. -/
theorem take_receive (buffer : Buffer) (datagram : Bytes) :
    (buffer.receive datagram).toList.take (received datagram) = datagram.take limit := by
  apply List.ext_getElem
  · simp [received, Nat.min_comm]
  · intro i hleft hright
    have hi : i < datagram.length := by
      rw [List.length_take] at hright
      omega
    simp [Buffer.receive, List.getElem?_eq_getElem hi]

/-- Wait for a response: receive datagrams, one after another, until one of them ends the wait. What
can be read is the part of the buffer that was just received. -/
def await (id : UInt16) (buffer : Buffer) : List Bytes → Outcome Message
  | [] => .error .timeout
  | datagram :: later =>
    let buffer := buffer.receive datagram
    match message (buffer.toList.take (received datagram)) with
    | .error e => .error e
    | .ok response => if response.header.id = id then .ok response else await id buffer later

/-! ### What the loop comes to -/

theorem select_nil : select id [] = .error .timeout := rfl

theorem select_cons_of_stray (h : Stray id datagram) :
    select id (datagram :: later) = select id later := by
  rw [select, List.findSome?_cons, decision?_eq_none_iff.mpr h]
  rfl

theorem select_cons_of_settles (h : Settles id datagram outcome) :
    select id (datagram :: later) = outcome := by
  rw [select, List.findSome?_cons, decision?_eq_some_iff.mpr h]
  rfl

/-- Whatever the buffer holds, waiting comes to the outcome of the datagrams alone. -/
theorem await_eq_select (buffer : Buffer) (datagrams : List Bytes) :
    await id buffer datagrams = select id datagrams := by
  induction datagrams generalizing buffer with
  | nil => rfl
  | cons datagram later ih =>
      rw [await, take_receive]
      rcases stray_or_settles id datagram with hstray | ⟨outcome, hsettles⟩
      · rw [select_cons_of_stray hstray]
        obtain ⟨response, hread, hid⟩ := hstray
        rw [message, hread]
        dsimp only
        rw [if_neg hid, ih]
      · rw [select_cons_of_settles hsettles, message]
        cases hsettles with
        | response hread hid =>
            rw [hread]
            exact if_pos hid
        | malformed hread =>
            rw [hread]
            rfl

/-- Datagrams are all strays, or divided by the first that is none. -/
theorem strays_or_first (id : UInt16) (datagrams : List Bytes) :
    (∀ d ∈ datagrams, Stray id d) ∨
      ∃ strays d later outcome, datagrams = strays ++ d :: later ∧ (∀ s ∈ strays, Stray id s) ∧
        Settles id d outcome := by
  induction datagrams with
  | nil => exact .inl fun d hd => absurd hd List.not_mem_nil
  | cons datagram later ih =>
      rcases stray_or_settles id datagram with hstray | ⟨outcome, hsettles⟩
      · rcases ih with hall | ⟨strays, d, rest, outcome, rfl, hstrays, hsettles⟩
        · exact .inl (List.forall_mem_cons.mpr ⟨hstray, hall⟩)
        · exact .inr ⟨datagram :: strays, d, rest, outcome, rfl,
            List.forall_mem_cons.mpr ⟨hstray, hstrays⟩, hsettles⟩
      · exact .inr ⟨[], datagram, later, outcome, rfl, fun s hs => absurd hs List.not_mem_nil,
          hsettles⟩

/-- Strays in front have no effect. -/
theorem select_append_of_strays (h : ∀ s ∈ strays, Stray id s) (later : List Bytes) :
    select id (strays ++ later) = select id later :=
  select_append_of_undecided (fun s hs => decision?_eq_none_iff.mpr (h s hs)) later

theorem select_of_strays (h : ∀ s ∈ strays, Stray id s) : select id strays = .error .timeout := by
  rw [← List.append_nil strays, select_append_of_strays h, select_nil]

/-- A stray has no effect wherever it stands. -/
theorem select_without_stray {before : List Bytes} (h : Stray id datagram) :
    select id (before ++ datagram :: later) = select id (before ++ later) := by
  induction before with
  | nil => exact select_cons_of_stray h
  | cons first rest ih =>
      rw [List.cons_append, List.cons_append]
      rcases stray_or_settles id first with hstray | ⟨outcome, hsettles⟩
      · rw [select_cons_of_stray hstray, select_cons_of_stray hstray, ih]
      · rw [select_cons_of_settles hsettles, select_cons_of_settles hsettles]

/-- **The first datagram that is no stray is the outcome.** Of the datagrams that arrive in time,
the first that is no message or is a message with the id decides, behind any messages with other
ids: the latter is the response as it was read, the former a failure of the connection that says
what is wrong with it. When only strays arrive the exchange times out. So a stray can be left out
wherever it arrives, and what is returned is a message with the id that is read from one of the
datagrams. All this is what the loop over the one buffer comes to, and what comes of a query over
datagrams that has a form to be sent in. -/
theorem select_eq_iff (id : UInt16) (datagrams : List Bytes) :
    (∀ outcome, select id datagrams = outcome ↔
      (∃ strays d later, datagrams = strays ++ d :: later ∧ (∀ s ∈ strays, Stray id s) ∧
        Settles id d outcome) ∨ (∀ d ∈ datagrams, Stray id d) ∧ outcome = .error .timeout) ∧
    (∀ before s after, datagrams = before ++ s :: after → Stray id s →
      select id (before ++ after) = select id datagrams) ∧
    (∀ response, select id datagrams = .ok response →
      response.header.id = id ∧ ∃ d ∈ datagrams, Message.ofWire (d.take limit) = .ok response) ∧
    (∀ buffer, await id buffer datagrams = select id datagrams) ∧
    ∀ (query : Message) (wire : Bytes) (closes : Bool), query.wire = .ok wire →
      query.header.id = id →
      Client.exchange .udp query (.answering datagrams closes) = select id datagrams := by
  have hfirst : ∀ {strays d later outcome}, datagrams = strays ++ d :: later →
      (∀ s ∈ strays, Stray id s) → Settles id d outcome → select id datagrams = outcome := by
    intro strays d later outcome hsplit hstrays hsettles
    rw [hsplit, select_append_of_strays hstrays, select_cons_of_settles hsettles]
  refine ⟨?_, ?_, ?_, fun buffer => await_eq_select buffer datagrams, ?_⟩
  · intro outcome
    constructor
    · rintro rfl
      rcases strays_or_first id datagrams with hall | ⟨strays, d, later, outcome, hsplit, hstrays,
        hsettles⟩
      · exact .inr ⟨hall, select_of_strays hall⟩
      · refine .inl ⟨strays, d, later, hsplit, hstrays, ?_⟩
        rw [hfirst hsplit hstrays hsettles]
        exact hsettles
    · rintro (⟨strays, d, later, hsplit, hstrays, hsettles⟩ | ⟨hall, rfl⟩)
      · exact hfirst hsplit hstrays hsettles
      · exact select_of_strays hall
  · rintro before s after rfl hstray
    exact (select_without_stray hstray).symm
  · intro response hok
    rcases strays_or_first id datagrams with hall | ⟨strays, d, later, outcome, hsplit, hstrays,
      hsettles⟩
    · rw [select_of_strays hall] at hok
      cases hok
    · rw [hfirst hsplit hstrays hsettles] at hok
      subst hok hsplit
      cases hsettles with
      | response hread hid => exact ⟨hid, d, List.mem_append_right _ List.mem_cons_self, hread⟩
  · rintro query wire closes hwire rfl
    rw [Client.exchange, hwire]

/-- A response behind one that differs in nothing but the id, and in front of a datagram without
octets, which would have ended the exchange. -/
theorem select_eq_iff_strayInFront :
    let response : Message := { header := { id := 7, response := true } }
    let query : Message := Message.query ⟨["example", "com"]⟩ .a 7
    let stray : Bytes := [0, 8, 128, 0, 0, 0, 0, 0, 0, 0, 0, 0]
    let genuine : Bytes := [0, 7, 128, 0, 0, 0, 0, 0, 0, 0, 0, 0]
    select 7 [stray, genuine, []] = .ok response ∧ select 7 [stray] = .error .timeout ∧
      Client.exchange .udp query (.answering [stray, genuine, []] true) = .ok response := by
  intro response query stray genuine
  have hother : Message.ofWire [0, 8, 128, 0, 0, 0, 0, 0, 0, 0, 0, 0] =
      .ok { header := { id := 8, response := true } } := rfl
  have hread : Message.ofWire [0, 7, 128, 0, 0, 0, 0, 0, 0, 0, 0, 0] =
      .ok { header := { id := 7, response := true } } := rfl
  have hseen : ∀ {octets : Bytes}, octets.length = 12 → octets.take limit = octets := by
    intro octets hlength
    exact List.take_of_length_le (by rw [hlength, limit]; decide)
  have hstray : Stray 7 stray := by
    rw [Stray, hseen rfl]
    exact ⟨_, hother, by decide⟩
  have hstrays : ∀ s ∈ [stray], Stray 7 s := List.forall_mem_singleton.mpr hstray
  have hsettles : Settles 7 genuine (.ok response) := by
    refine .response ?_ rfl
    rw [hseen rfl]
    exact hread
  obtain ⟨hiff, -, -, -, hexchange⟩ := select_eq_iff 7 [stray, genuine, []]
  have hselect : select 7 [stray, genuine, []] = .ok response :=
    (hiff (.ok response)).mpr (.inl ⟨[stray], genuine, [[]], rfl, hstrays, hsettles⟩)
  have hquery : ∃ wire, query.wire = .ok wire := ⟨_, rfl⟩
  obtain ⟨wire, hwire⟩ := hquery
  refine ⟨hselect, ((select_eq_iff 7 [stray]).1 _).mpr (.inr ⟨hstrays, rfl⟩), ?_⟩
  rw [hexchange query wire true hwire rfl, hselect]

end Datagram

end DnsHealth
