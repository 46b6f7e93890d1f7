import DnsHealth.Proofs.Probe.Sweep

/-!
# The verdict of a run

A run whose key exchange fails says so and nothing else. Otherwise the verdict and the response time
come of the outcomes of the eleven swept types (`Report.Judges`), and of nothing else: two runs
whose sweeps had the same outcomes agree on both, whatever their resolvers said when asked for keys
or for a host name (`Session.run_verdict`).

Outcomes are sorted once, in `Verdict.outcomes_cases`; each verdict belongs to one of the three
cases.
-/

namespace DnsHealth

/-! ### Verdicts on outcomes -/

namespace Verdict

variable {α : Type} {outcomes : List (Outcome α)} {a : α} {e : TransportError}

/-- Outcomes are all good, or some of them are, or none is and then the last is an error. -/
theorem outcomes_cases (h : outcomes ≠ []) :
    ((∃ a, .ok a ∈ outcomes) ∧ ∀ e, .error e ∉ outcomes) ∨
      ((∃ a, .ok a ∈ outcomes) ∧ ∃ e, .error e ∈ outcomes) ∨
      ((∀ a, .ok a ∉ outcomes) ∧ ∃ e, outcomes.getLast? = some (.error e)) := by
  by_cases hok : ∃ a, Except.ok a ∈ outcomes
  · by_cases herror : ∃ e, Except.error e ∈ outcomes
    · exact .inr (.inl ⟨hok, herror⟩)
    · exact .inl ⟨hok, not_exists.mp herror⟩
  · refine .inr (.inr ⟨not_exists.mp hok, ?_⟩)
    obtain ⟨last, hlast⟩ := Option.ne_none_iff_exists'.mp (mt List.getLast?_eq_none_iff.mp h)
    cases last with
    | error e => exact ⟨e, hlast⟩
    | ok a => exact absurd ⟨a, List.mem_of_getLast? hlast⟩ hok

/-- All outcomes are good when none is an error. -/
theorem forall_ok_iff : (∀ outcome ∈ outcomes, ∃ a, outcome = .ok a) ↔
    ∀ e, .error e ∉ outcomes := by
  constructor
  · intro hall e herror
    obtain ⟨a, ha⟩ := hall _ herror
    exact nomatch ha
  · intro hnone outcome houtcome
    cases outcome with
    | error e => exact absurd houtcome (hnone e)
    | ok a => exact ⟨a, rfl⟩

/-- All outcomes are errors when none is good. -/
theorem forall_error_iff : (∀ outcome ∈ outcomes, ∃ e, outcome = .error e) ↔
    ∀ a, .ok a ∉ outcomes := by
  constructor
  · intro hall a hok
    obtain ⟨e, he⟩ := hall _ hok
    exact nomatch he
  · intro hnone outcome houtcome
    cases outcome with
    | error e => exact ⟨e, rfl⟩
    | ok a => exact absurd houtcome (hnone a)

theorem any_isOk_iff : outcomes.any Except.isOk = true ↔ ∃ a, .ok a ∈ outcomes := by
  rw [List.any_eq_true]
  constructor
  · rintro ⟨outcome, hmem, hok⟩
    cases outcome with
    | error e => exact absurd hok Bool.false_ne_true
    | ok a => exact ⟨a, hmem⟩
  · rintro ⟨a, hmem⟩
    exact ⟨.ok a, hmem, rfl⟩

theorem mem_filterMap_error? : e ∈ outcomes.filterMap error? ↔ .error e ∈ outcomes := by
  rw [List.mem_filterMap]
  constructor
  · rintro ⟨outcome, hmem, herror⟩
    cases outcome with
    | error e' => exact Option.some.inj herror ▸ hmem
    | ok a => exact absurd herror (Option.some_ne_none e).symm
  · intro hmem
    exact ⟨.error e, hmem, rfl⟩

theorem ofOutcomes_of_succeeded (hok : .ok a ∈ outcomes) (herror : ∀ e, .error e ∉ outcomes) :
    ofOutcomes outcomes = .success := by
  have hnone : outcomes.filterMap error? = [] :=
    List.eq_nil_iff_forall_not_mem.mpr fun e => mt mem_filterMap_error?.mp (herror e)
  rw [ofOutcomes, hnone]
  exact if_pos (any_isOk_iff.mpr ⟨a, hok⟩)

theorem ofOutcomes_of_mixed (hok : .ok a ∈ outcomes) (herror : .error e ∈ outcomes) :
    ofOutcomes outcomes = .partialFailure := by
  obtain ⟨last, hlast⟩ := Option.ne_none_iff_exists'.mp
    (mt List.getLast?_eq_none_iff.mp (List.ne_nil_of_mem (mem_filterMap_error?.mpr herror)))
  rw [ofOutcomes, hlast]
  exact if_pos (any_isOk_iff.mpr ⟨a, hok⟩)

theorem ofOutcomes_of_failed (hok : ∀ a, .ok a ∉ outcomes)
    (hlast : outcomes.getLast? = some (.error e)) : ofOutcomes outcomes = ofError e := by
  obtain ⟨front, rfl⟩ := List.getLast?_eq_some_iff.mp hlast
  have herrors : (front ++ [Except.error e]).filterMap error? = front.filterMap error? ++ [e] :=
    List.filterMap_append
  rw [ofOutcomes, herrors, List.getLast?_concat]
  exact if_neg (mt any_isOk_iff.mp (not_exists.mpr hok))

/-- The verdict on a failure is none of those on several outcomes. -/
theorem ofError_ne (e : TransportError) :
    ofError e ≠ .success ∧ ofError e ≠ .partialFailure ∧ ofError e ≠ .unset := by
  cases e with
  | timeout => decide
  | connectionFailed text => exact ⟨nofun, nofun, nofun⟩

/-- Success is when all succeeded. -/
theorem ofOutcomes_eq_success_iff (h : outcomes ≠ []) :
    ofOutcomes outcomes = .success ↔ ∀ e, .error e ∉ outcomes := by
  rcases outcomes_cases h with ⟨⟨a, hok⟩, herror⟩ | ⟨⟨a, hok⟩, e, herror⟩ | ⟨hok, e, hlast⟩
  · simp only [ofOutcomes_of_succeeded hok herror, true_iff]
    exact herror
  · simp only [ofOutcomes_of_mixed hok herror, reduceCtorEq, false_iff]
    exact fun hall => hall e herror
  · simp only [ofOutcomes_of_failed hok hlast, (ofError_ne e).1, false_iff]
    exact fun hall => hall e (List.mem_of_getLast? hlast)

/-- Partial failure is when some succeeded and some failed. -/
theorem ofOutcomes_eq_partialFailure_iff (h : outcomes ≠ []) :
    ofOutcomes outcomes = .partialFailure ↔ (∃ a, .ok a ∈ outcomes) ∧ ∃ e, .error e ∈ outcomes := by
  rcases outcomes_cases h with ⟨⟨a, hok⟩, herror⟩ | ⟨⟨a, hok⟩, e, herror⟩ | ⟨hok, e, hlast⟩
  · simp only [ofOutcomes_of_succeeded hok herror, reduceCtorEq, false_iff]
    exact fun hmixed => hmixed.2.elim herror
  · simp only [ofOutcomes_of_mixed hok herror, true_iff]
    exact ⟨⟨a, hok⟩, e, herror⟩
  · simp only [ofOutcomes_of_failed hok hlast, (ofError_ne e).2.1, false_iff]
    exact fun hmixed => hmixed.1.elim hok

/-- No verdict is missing once there are outcomes. -/
theorem ofOutcomes_ne_unset (h : outcomes ≠ []) : ofOutcomes outcomes ≠ .unset := by
  rcases outcomes_cases h with ⟨⟨a, hok⟩, herror⟩ | ⟨⟨a, hok⟩, e, herror⟩ | ⟨hok, e, hlast⟩
  · rw [ofOutcomes_of_succeeded hok herror]
    decide
  · rw [ofOutcomes_of_mixed hok herror]
    decide
  · rw [ofOutcomes_of_failed hok hlast]
    exact (ofError_ne e).2.2

/-- A verdict that names a failure leaves no success among the outcomes. -/
theorem not_mem_of_failed
    (hverdict : ofOutcomes outcomes = .timeout ∨ ofOutcomes outcomes = .connectionFailed) :
    ∀ a, .ok a ∉ outcomes := by
  intro a hok
  by_cases herror : ∃ e, Except.error e ∈ outcomes
  · obtain ⟨e, herror⟩ := herror
    rw [ofOutcomes_of_mixed hok herror] at hverdict
    exact absurd hverdict (by decide)
  · rw [ofOutcomes_of_succeeded hok (not_exists.mp herror)] at hverdict
    exact absurd hverdict (by decide)

end Verdict

/-! ### Reports on outcomes -/

/-- A report judges the outcomes of a sweep: its verdict sorts them, and names the last failure when
all of them failed; its response time is their whole milliseconds in sum, and there is nothing in it
when all of them failed. -/
structure Report.Judges (report : Report) (outcomes : List (Outcome Reply)) : Prop where
  success_iff : report.verdict = .success ↔ ∀ outcome ∈ outcomes, ∃ reply, outcome = .ok reply
  partialFailure_iff : report.verdict = .partialFailure ↔
    (∃ reply, .ok reply ∈ outcomes) ∧ ∃ e, .error e ∈ outcomes
  timeout : (∀ outcome ∈ outcomes, ∃ e, outcome = .error e) →
    outcomes.getLast? = some (.error .timeout) → report.verdict = .timeout
  connectionFailed : (∀ outcome ∈ outcomes, ∃ e, outcome = .error e) →
    ∀ text, outcomes.getLast? = some (.error (.connectionFailed text)) →
      report.verdict = .connectionFailed
  settled : report.verdict ≠ .unset
  responseTime : report.responseTime = toString (((outcomes.filterMap Except.toOption).map
    fun reply => reply.rtt.nanos / 1000000).foldr (· + ·) 0)
  empty : report.verdict = .timeout ∨ report.verdict = .connectionFailed →
    report.answers = [] ∧ report.kskVerified = false

section

variable {check : SignatureCheck} {digest : DigestType → Bytes → Bytes} {config : Config}
  {keys : KeyMaterial} {keyReply : Reply} {slots : List Slot} {reverse : Outcome Reply}

/-- Slots whose exchanges failed contribute no answers. -/
theorem Assessment.flatMap_slotAnswers_eq_nil (h : ∀ reply, .ok reply ∉ slots.map Slot.outcome) :
    slots.flatMap (slotAnswers check keys) = [] := by
  refine List.flatMap_eq_nil_iff.mpr fun slot hslot => ?_
  obtain ⟨e, he⟩ := Verdict.forall_error_iff.mpr h _ (List.mem_map_of_mem hslot)
  rw [slotAnswers, he]

/-- Slots whose exchanges failed say nothing about the delegation. -/
theorem Assessment.filterMap_slotAgreement?_eq_nil
    (h : ∀ reply, .ok reply ∉ slots.map Slot.outcome) :
    slots.filterMap (slotAgreement? digest keys) = [] := by
  refine List.filterMap_eq_nil_iff.mpr fun slot hslot => ?_
  obtain ⟨e, he⟩ := Verdict.forall_error_iff.mpr h _ (List.mem_map_of_mem hslot)
  rw [slotAgreement?, he]

/-- The report on a sweep judges the outcomes in its slots. -/
theorem Report.judges_ofTranscript (hne : slots.map Slot.outcome ≠ []) :
    (Report.ofTranscript check digest config (.swept keyReply slots reverse)).Judges
      (slots.map Slot.outcome) := by
  refine ⟨?_, Verdict.ofOutcomes_eq_partialFailure_iff hne, ?_, ?_, Verdict.ofOutcomes_ne_unset hne,
    ?_, ?_⟩
  · exact (Verdict.ofOutcomes_eq_success_iff hne).trans Verdict.forall_ok_iff.symm
  · intro hall hlast
    exact Verdict.ofOutcomes_of_failed (Verdict.forall_error_iff.mp hall) hlast
  · intro hall text hlast
    exact Verdict.ofOutcomes_of_failed (Verdict.forall_error_iff.mp hall) hlast
  · dsimp only [ofTranscript, Assessment.sweepMillis]
    rw [List.filterMap_map]
    rfl
  · intro hverdict
    have hfailed := Verdict.not_mem_of_failed hverdict
    refine ⟨Assessment.flatMap_slotAnswers_eq_nil hfailed, ?_⟩
    dsimp only [ofTranscript]
    rw [Assessment.filterMap_slotAgreement?_eq_nil hfailed]
    rfl

end

/-- What a report must say to judge outcomes leaves only one verdict. -/
theorem Report.Judges.verdict_eq {report other : Report} {outcomes : List (Outcome Reply)}
    (h : report.Judges outcomes) (hother : other.Judges outcomes) (hne : outcomes ≠ []) :
    report.verdict = other.verdict := by
  rcases Verdict.outcomes_cases hne with ⟨-, herror⟩ | hmixed | ⟨hok, e, hlast⟩
  · have hall := Verdict.forall_ok_iff.mpr herror
    rw [h.success_iff.mpr hall, hother.success_iff.mpr hall]
  · rw [h.partialFailure_iff.mpr hmixed, hother.partialFailure_iff.mpr hmixed]
  · have hall := Verdict.forall_error_iff.mpr hok
    cases e with
    | timeout => rw [h.timeout hall hlast, hother.timeout hall hlast]
    | connectionFailed text =>
        rw [h.connectionFailed hall text hlast, hother.connectionFailed hall text hlast]

/-! ### Runs -/

namespace Session

variable {σ : Type}

/-- The outcomes of the swept types in a run, in their order. The run has swept when its key
exchange succeeded. -/
def Swept (resolver : Resolver σ) (ids : Nat → UInt16) (config : Config) (state : σ)
    (outcomes : List (Outcome Reply)) : Prop :=
  ∃ keyReply first turns finish,
    ask resolver ids config.domainName .dnskey { state } = (.ok keyReply, first) ∧
      Sweeps resolver ids config.domainName (Transcript.material keyReply) first turns finish ∧
      turns.map Turn.type = Transcript.sweptTypes ∧ turns.map Turn.outcome = outcomes

variable {resolver : Resolver σ} {ids : Nat → UInt16} {config : Config} {state : σ}
  {outcomes : List (Outcome Reply)}

/-- A run whose key exchange succeeds sweeps. -/
theorem exists_swept {keyReply : Reply} {first : Session σ}
    (hkeys : ask resolver ids config.domainName .dnskey { state } = (.ok keyReply, first)) :
    ∃ outcomes, Swept resolver ids config state outcomes := by
  obtain ⟨turns, finish, hsweeps, htypes⟩ :=
    exists_sweeps resolver ids config.domainName
      (Transcript.material keyReply) Transcript.sweptTypes first
  exact ⟨_, keyReply, first, turns, finish, hkeys, hsweeps, htypes, rfl⟩

/-- There is one outcome for each swept type. -/
theorem Swept.length_eq (h : Swept resolver ids config state outcomes) : outcomes.length = 11 := by
  obtain ⟨_, _, turns, _, _, _, htypes, rfl⟩ := h
  rw [List.length_map, length_of_sweptTypes htypes]

theorem Swept.ne_nil (h : Swept resolver ids config state outcomes) : outcomes ≠ [] :=
  List.ne_nil_of_length_pos (h.length_eq ▸ by decide)

/-- Where what comes back depends on the type alone, the outcomes are what comes back for each. -/
theorem Swept.eq_map {answer : RecordType → Outcome Reply}
    (h : Swept resolver ids config state outcomes)
    (hanswer : ∀ type ∈ Transcript.sweptTypes, ∀ session,
      (ask resolver ids config.domainName type session).1 = answer type) :
    outcomes = Transcript.sweptTypes.map answer := by
  obtain ⟨_, _, turns, _, _, hsweeps, htypes, rfl⟩ := h
  rw [← htypes, List.map_map]
  refine List.map_congr_left fun turn hturn => ?_
  obtain ⟨session, hask⟩ := hsweeps.exists_ask hturn
  exact (congrArg Prod.fst hask).symm.trans
    (hanswer turn.type (htypes ▸ List.mem_map_of_mem hturn) session)

/-- The report of a run judges the outcomes of its sweep. -/
theorem Swept.judges_run (h : Swept resolver ids config state outcomes) (check : SignatureCheck)
    (digest : DigestType → Bytes → Bytes) :
    (run check digest resolver ids config state).1.Judges outcomes := by
  have hne := h.ne_nil
  obtain ⟨keyReply, first, turns, finish, hkeys, hsweeps, htypes, rfl⟩ := h
  have hslots : turns.map Turn.outcome =
      (turns.map (Turn.slot resolver ids config.domainName (Transcript.material keyReply))).map
        Slot.outcome := by
    rw [List.map_map]
    rfl
  rw [hslots] at hne ⊢
  simp only [run, transcript_of_sweeps hkeys hsweeps htypes]
  exact Report.judges_ofTranscript hne

/-- **What the verdict and the response time of a run say.** A run whose key exchange fails reports
a failed connection and nothing else. Any other run sweeps, and its report judges the eleven
outcomes of the sweep; any run whose sweep has the same outcomes has the same verdict and response
time, whatever else happened in it. -/
theorem run_verdict (check : SignatureCheck) (digest : DigestType → Bytes → Bytes)
    (resolver : Resolver σ) (ids : Nat → UInt16) (config : Config) (state : σ) :
    (∀ e first, ask resolver ids config.domainName .dnskey { state } = (.error e, first) →
      (run check digest resolver ids config state).1 =
        { domain := config.domain, verdict := .connectionFailed, resolverName := ""
          resolverIp := "", resolverPort := "", resolverProtocol := "", responseTime := ""
          answers := [], zskVerified := false, kskVerified := false }) ∧
    (∀ keyReply first,
      ask resolver ids config.domainName .dnskey { state } = (.ok keyReply, first) →
      ∃ outcomes, Swept resolver ids config state outcomes) ∧
    ∀ outcomes, Swept resolver ids config state outcomes →
      outcomes.length = 11 ∧ (run check digest resolver ids config state).1.Judges outcomes ∧
      ∀ (τ : Type) (check' : SignatureCheck) (digest' : DigestType → Bytes → Bytes)
        (resolver' : Resolver τ) (ids' : Nat → UInt16) (config' : Config) (state' : τ),
        Swept resolver' ids' config' state' outcomes →
        (run check' digest' resolver' ids' config' state').1.verdict =
            (run check digest resolver ids config state).1.verdict ∧
          (run check' digest' resolver' ids' config' state').1.responseTime =
            (run check digest resolver ids config state).1.responseTime := by
  refine ⟨fun e first hkeys => ?_, fun keyReply first hkeys => exists_swept hkeys, ?_⟩
  · rw [run_of_error check digest hkeys]
  · intro outcomes hswept
    have hjudges := hswept.judges_run check digest
    refine ⟨hswept.length_eq, hjudges, ?_⟩
    intro τ check' digest' resolver' ids' config' state' hswept'
    have hjudges' := hswept'.judges_run check' digest'
    exact ⟨hjudges'.verdict_eq hjudges hswept.ne_nil,
      hjudges'.responseTime.trans hjudges.responseTime.symm⟩

/-- A resolver that answers for keys only, at most once, and fails in one way for the last of the
other types and in another way for the rest: a run has the verdict of the last failure and no
answer, and the next run has no connection. -/
theorem run_verdict_keysOnce :
    let resolver := fun last other : TransportError => (⟨fun query awake =>
      (if awake ∧ ∀ q ∈ query.questions, q.type = .dnskey then .ok { message := {}, rtt := .zero }
        else .error (if ∀ q ∈ query.questions, q.type = .ds then last else other), false)⟩ :
          Resolver Bool)
    let config : Config :=
      { domain := "example.com", domainName := ⟨["example", "com"]⟩
        resolverIp := .v4 #v[192, 0, 2, 53], resolverPort := 53, protocol := .udp
        timeout := Config.defaultTimeout }
    let report := fun last other awake => (run (fun _ _ _ _ => .ok ()) (fun _ _ => [])
      (resolver last other) (fun _ => 0) config awake).1
    let reset := TransportError.connectionFailed "reset"
    ((report reset .timeout true).verdict = .connectionFailed ∧
        (report reset .timeout true).answers = []) ∧
      ((report .timeout reset true).verdict = .timeout ∧
        (report .timeout reset true).answers = []) ∧
      (report .timeout .timeout false).verdict = .connectionFailed := by
  intro resolver config report reset
  have hrun := fun last other => run_verdict (fun _ _ _ _ => .ok ()) (fun _ _ => [])
    (resolver last other) (fun _ => 0) config
  -- No swept type is that of keys, so every exchange of the sweep fails, and that for DS last.
  have hjudges : ∀ last other, (report last other true).Judges
      (Transcript.sweptTypes.map fun type => .error (if type = .ds then last else other)) := by
    intro last other
    obtain ⟨-, hswept, hjudges⟩ := hrun last other true
    obtain ⟨outcomes, hswept⟩ := hswept _ _ rfl
    have houtcomes : outcomes = Transcript.sweptTypes.map fun type =>
        .error (if type = .ds then last else other) := by
      refine hswept.eq_map fun type htype session => ?_
      have hplain : ∀ type ∈ Transcript.sweptTypes, type ≠ .dnskey := by decide
      simp [ask, resolver, Message.query, Message.withEdns, hplain type htype]
    exact houtcomes ▸ (hjudges outcomes hswept).2.1
  have hfailed : ∀ last other, ∀ outcome ∈ (Transcript.sweptTypes.map fun type =>
      .error (if type = .ds then last else other) : List (Outcome Reply)),
      ∃ e, outcome = .error e := by
    intro last other outcome houtcome
    obtain ⟨type, -, rfl⟩ := List.mem_map.mp houtcome
    exact ⟨_, rfl⟩
  have hreset := (hjudges reset .timeout).connectionFailed (hfailed _ _) "reset" rfl
  have htimeout := (hjudges .timeout reset).timeout (hfailed _ _) rfl
  refine ⟨⟨hreset, ((hjudges reset .timeout).empty (.inr hreset)).1⟩,
    ⟨htimeout, ((hjudges .timeout reset).empty (.inl htimeout)).1⟩, ?_⟩
  exact congrArg Report.verdict ((hrun .timeout .timeout false).1 .timeout _ rfl)

end Session

end DnsHealth
