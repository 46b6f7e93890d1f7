import DnsHealth.Probe.Session

/-!
# Sweeps in a session

A sweep in a session is a chain of turns: each begins in the session that the one before it left
behind. `Session.Sweeps` is that chain, and a run whose first exchange succeeds is one of them
(`Session.exists_sweeps_of_keys`). The chain determines the transcript
(`Session.transcript_of_sweeps`), and what holds of every turn is shown by induction on it.
-/

namespace DnsHealth

variable {σ : Type}

namespace Session

/-- A turn of a sweep: the type that was asked for, what came back, and the session right behind
it. -/
structure Turn (σ : Type) where
  type : RecordType
  outcome : Outcome Reply
  behind : Session σ

section

variable (resolver : Resolver σ) (ids : Nat → UInt16) (target : Name) (keys : KeyMaterial)

/-- The outcome of the key query for the registrable domain in a turn, if there was one. -/
def Turn.delegation (turn : Turn σ) : Option (Outcome Reply) :=
  (Transcript.delegationQuery? target keys turn.outcome).map fun owner =>
    (ask resolver ids owner .dnskey turn.behind).1

/-- The slot that a turn leaves in the transcript. -/
def Turn.slot (turn : Turn σ) : Slot :=
  { type := turn.type, outcome := turn.outcome,
    delegation := turn.delegation resolver ids target keys }

/-- The turns of a sweep, one after another, from a session to a session. In some of them the keys
of the registrable domain are asked for as well. -/
inductive Sweeps : Session σ → List (Turn σ) → Session σ → Prop
  | done {session : Session σ} : Sweeps session [] session
  | plain {start behind finish : Session σ} {type : RecordType} {outcome : Outcome Reply}
      {turns : List (Turn σ)} (hask : ask resolver ids target type start = (outcome, behind))
      (hplain : Transcript.delegationQuery? target keys outcome = none)
      (hrest : Sweeps behind turns finish) :
      Sweeps start ({ type, outcome, behind } :: turns) finish
  | delegated {start behind finish : Session σ} {type : RecordType} {outcome : Outcome Reply}
      {owner : Name} {turns : List (Turn σ)}
      (hask : ask resolver ids target type start = (outcome, behind))
      (howner : Transcript.delegationQuery? target keys outcome = some owner)
      (hrest : Sweeps (ask resolver ids owner .dnskey behind).2 turns finish) :
      Sweeps start ({ type, outcome, behind } :: turns) finish

end

variable {resolver : Resolver σ} {ids : Nat → UInt16} {target : Name} {keys : KeyMaterial}

section

variable {start behind finish : Session σ} {type : RecordType} {types : List RecordType}
  {outcome : Outcome Reply} {slots : List Slot}

theorem pure_apply {α : Type} (a : α) (session : Session σ) :
    (pure a : StateM (Session σ) α) session = (a, session) := rfl

theorem bind_apply {α β : Type} (x : StateM (Session σ) α) (f : α → StateM (Session σ) β)
    (session : Session σ) : (x >>= f) session = f (x session).1 (x session).2 := rfl

theorem map_apply {α β : Type} (f : α → β) (x : StateM (Session σ) α) (session : Session σ) :
    (f <$> x) session = (f (x session).1, (x session).2) := rfl

/-- A plain turn, and the rest of the sweep. -/
theorem sweep_cons_plain (hask : ask resolver ids target type start = (outcome, behind))
    (hplain : Transcript.delegationQuery? target keys outcome = none)
    (hrest : Transcript.sweep (ask resolver ids) target keys types behind = (slots, finish)) :
    Transcript.sweep (ask resolver ids) target keys (type :: types) start =
      ({ type, outcome, delegation := none } :: slots, finish) := by
  simp only [Transcript.sweep, bind_apply, hask, hplain, pure_apply, hrest]

/-- A turn in which the keys of the registrable domain are asked for, and the rest of the sweep. -/
theorem sweep_cons_delegated {owner : Name}
    (hask : ask resolver ids target type start = (outcome, behind))
    (howner : Transcript.delegationQuery? target keys outcome = some owner)
    (hrest : Transcript.sweep (ask resolver ids) target keys types
      (ask resolver ids owner .dnskey behind).2 = (slots, finish)) :
    Transcript.sweep (ask resolver ids) target keys (type :: types) start =
      ({ type, outcome, delegation := some (ask resolver ids owner .dnskey behind).1 } :: slots,
        finish) := by
  simp only [Transcript.sweep, bind_apply, hask, howner, map_apply, pure_apply, hrest]

end

variable (resolver ids target keys) in
/-- From any session there is a sweep with one turn for each of some types. -/
theorem exists_sweeps (types : List RecordType) (start : Session σ) :
    ∃ turns finish, Sweeps resolver ids target keys start turns finish ∧
      turns.map Turn.type = types := by
  -- The induction is for any session to start from, since each turn leaves another one behind.
  induction types generalizing start with
  | nil => exact ⟨[], start, .done, rfl⟩
  | cons type types ih =>
      obtain ⟨⟨outcome, behind⟩, hask⟩ : ∃ result, ask resolver ids target type start = result :=
        ⟨_, rfl⟩
      cases hquery : Transcript.delegationQuery? target keys outcome with
      | none =>
          obtain ⟨turns, finish, hsweeps, htypes⟩ := ih behind
          exact ⟨{ type, outcome, behind } :: turns, finish, .plain hask hquery hsweeps,
            by rw [List.map_cons, htypes]⟩
      | some owner =>
          obtain ⟨turns, finish, hsweeps, htypes⟩ := ih (ask resolver ids owner .dnskey behind).2
          exact ⟨{ type, outcome, behind } :: turns, finish, .delegated hask hquery hsweeps,
            by rw [List.map_cons, htypes]⟩

/-- There is one turn for each of the swept types. -/
theorem length_of_sweptTypes {turns : List (Turn σ)}
    (h : turns.map Turn.type = Transcript.sweptTypes) : turns.length = 11 := by
  rw [← List.length_map Turn.type, h]
  rfl

/-- The turns of a sweep are what the probe does when it sweeps their types. -/
theorem Sweeps.sweep_eq {start finish : Session σ} {turns : List (Turn σ)}
    (h : Sweeps resolver ids target keys start turns finish) :
    Transcript.sweep (ask resolver ids) target keys (turns.map Turn.type) start =
      (turns.map (Turn.slot resolver ids target keys), finish) := by
  induction h with
  | done => rfl
  | plain hask hplain _ ih =>
      rw [List.map_cons, sweep_cons_plain hask hplain ih, List.map_cons, Turn.slot, Turn.delegation,
        hplain, Option.map_none]
  | delegated hask howner _ ih =>
      rw [List.map_cons, sweep_cons_delegated hask howner ih, List.map_cons, Turn.slot,
        Turn.delegation, howner, Option.map_some]

/-- The transcript of a run whose first exchange succeeds: a sweep, and then the look-up of the
resolver. -/
theorem transcript_of_sweeps {config : Config} {state : σ} {reply : Reply}
    {first finish : Session σ} {turns : List (Turn σ)}
    (hkeys : ask resolver ids config.domainName .dnskey { state } = (.ok reply, first))
    (hsweeps : Sweeps resolver ids config.domainName (Transcript.material reply) first turns finish)
    (htypes : turns.map Turn.type = Transcript.sweptTypes) :
    transcript resolver ids config state =
      (.swept reply
          (turns.map (Turn.slot resolver ids config.domainName (Transcript.material reply)))
          (ask resolver ids (Name.reversePointer config.resolverIp) .ptr finish).1,
        (ask resolver ids (Name.reversePointer config.resolverIp) .ptr finish).2) := by
  have hrest := hsweeps.sweep_eq
  rw [htypes] at hrest
  simp only [transcript, StateT.run, Transcript.collect, bind_apply, hkeys, hrest, pure_apply]

/-- A run whose first exchange succeeds has such a transcript. -/
theorem exists_sweeps_of_keys {config : Config} {state : σ} {reply : Reply} {first : Session σ}
    (hkeys : ask resolver ids config.domainName .dnskey { state } = (.ok reply, first)) :
    ∃ turns finish,
      Sweeps resolver ids config.domainName (Transcript.material reply) first turns finish ∧
        turns.map Turn.type = Transcript.sweptTypes ∧
        transcript resolver ids config state =
          (.swept reply
              (turns.map (Turn.slot resolver ids config.domainName (Transcript.material reply)))
              (ask resolver ids (Name.reversePointer config.resolverIp) .ptr finish).1,
            (ask resolver ids (Name.reversePointer config.resolverIp) .ptr finish).2) := by
  obtain ⟨turns, finish, hsweeps, htypes⟩ :=
    exists_sweeps resolver ids config.domainName
      (Transcript.material reply) Transcript.sweptTypes first
  exact ⟨turns, finish, hsweeps, htypes, transcript_of_sweeps hkeys hsweeps htypes⟩

/-- The transcript of a run whose first exchange fails. -/
theorem transcript_of_error {config : Config} {state : σ} {e : TransportError} {first : Session σ}
    (hkeys : ask resolver ids config.domainName .dnskey { state } = (.error e, first)) :
    transcript resolver ids config state = (.keyless e, first) := by
  simp only [transcript, StateT.run, Transcript.collect, bind_apply, hkeys, pure_apply]

/-- A run whose key exchange fails has nothing else to report. -/
theorem run_of_error {config : Config} {state : σ} {e : TransportError} {first : Session σ}
    (check : SignatureCheck) (digest : DigestType → Bytes → Bytes)
    (hkeys : ask resolver ids config.domainName .dnskey { state } = (.error e, first)) :
    run check digest resolver ids config state =
      ({ domain := config.domain, verdict := .connectionFailed }, first.sent) := by
  simp only [run, transcript_of_error hkeys, Report.ofTranscript]

/-- Every turn of a sweep comes of asking for its type in some session. -/
theorem Sweeps.exists_ask {start finish : Session σ} {turns : List (Turn σ)} {turn : Turn σ}
    (h : Sweeps resolver ids target keys start turns finish) (hturn : turn ∈ turns) :
    ∃ session, ask resolver ids target turn.type session = (turn.outcome, turn.behind) := by
  induction h with
  | done => exact absurd hturn List.not_mem_nil
  | plain hask _ _ ih =>
      rcases List.mem_cons.mp hturn with rfl | hturn
      · exact ⟨_, hask⟩
      · exact ih hturn
  | delegated hask _ _ ih =>
      rcases List.mem_cons.mp hturn with rfl | hturn
      · exact ⟨_, hask⟩
      · exact ih hturn

end Session

end DnsHealth
