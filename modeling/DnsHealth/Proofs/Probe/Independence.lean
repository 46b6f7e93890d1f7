import DnsHealth.Proofs.Probe.KeyFlags
import Mathlib.Algebra.BigOperators.Group.List.Basic
import Mathlib.Algebra.Ring.Nat

/-!
# Swept types on their own

A resolver that keeps nothing in mind answers from a table of names and types (`Resolver.Tells`). A
sweep against it is the table read at the target (`Session.run_of_tells`): the slot of a type takes
nothing from the slots of others. So when two tables differ in one place of a sweep, two runs
against them differ in what that place contributes (`Session.run_slots`). The key query for the
registrable domain is no exception, since no swept type is that of keys; the look-up of the resolver
is one if its reverse name is the target.
-/

namespace DnsHealth

variable {σ τ : Type}

/-- What there is to answer for each name and type. -/
abbrev AnswerTable := Name → RecordType → Outcome Reply

/-- The resolver answers every query from a table, in whichever state it is. -/
def Resolver.Tells (resolver : Resolver σ) (table : AnswerTable) : Prop :=
  ∀ name type id state, (resolver.answer (Message.query name type id) state).1 = table name type

theorem Resolver.Tells.ask {resolver : Resolver σ} {table : AnswerTable} (h : resolver.Tells table)
    (ids : Nat → UInt16) (name : Name) (type : RecordType) (session : Session σ) :
    (Session.ask resolver ids name type session).1 = table name type :=
  h name type _ _

namespace AnswerTable

/-- The resolver that does nothing but answer from a table. -/
def resolver (table : AnswerTable) : Resolver Unit :=
  ⟨fun query state =>
    (match query.questions with
      | [] => .error .timeout
      | question :: _ => table question.name question.type, state)⟩

theorem tells_resolver (table : AnswerTable) : table.resolver.Tells table :=
  fun _ _ _ _ => rfl

/-- Two tables agree but for what they say of one type at one name. -/
def AgreeBut (name : Name) (type : RecordType) (table other : AnswerTable) : Prop :=
  ∀ name' type', name' ≠ name ∨ type' ≠ type → other name' type' = table name' type'

/-! ### What a swept type contributes -/

section

variable (table : AnswerTable) (check : SignatureCheck) (target : Name) (keys : KeyMaterial)
  (keyReply : Reply)

/-- The slot of a type, read off the table. -/
def slot (type : RecordType) : Slot :=
  { type
    outcome := table target type
    delegation := (Transcript.delegationQuery? target keys (table target type)).map fun owner =>
      table owner .dnskey }

/-- The block of answers that a swept type contributes to the report, given the reply to the key
query. -/
def block (type : RecordType) : List ReportedAnswer :=
  Assessment.slotAnswers check (Transcript.material keyReply)
    (table.slot target (Transcript.material keyReply) type)

/-- The whole milliseconds that a swept type contributes to the response time: those of a reply. -/
def millis (type : RecordType) : Nat :=
  match table target type with
  | .error _ => 0
  | .ok reply => reply.rtt.nanos / 1000000

/-- The response time is what the swept types contribute, in sum. -/
theorem sweepMillis_slots (types : List RecordType) :
    Assessment.sweepMillis (types.map (table.slot target keys)) =
    (types.map (table.millis target)).sum := by
  induction types with
  | nil => rfl
  | cons type types ih =>
      rw [List.map_cons, List.map_cons, List.sum_cons, ← ih, millis, Assessment.sweepMillis]
      cases hreply : table target type with
      | error e =>
          have hnone : (table.slot target keys type).reply? = none := by
            rw [Slot.reply?, slot, hreply]
            rfl
          rw [List.filterMap_cons_none hnone]
          exact (Nat.zero_add _).symm
      | ok reply =>
          have hsome : (table.slot target keys type).reply? = some reply := by
            rw [Slot.reply?, slot, hreply]
            rfl
          rw [List.filterMap_cons_some hsome]
          rfl

end

variable {table other : AnswerTable} {digest : DigestType → Bytes → Bytes} {target : Name}
  {keys : KeyMaterial} {changed type : RecordType}

/-- A slot without delegation records says nothing about the delegation. -/
theorem slotAgreement?_slot_eq_none
    (h : ∀ reply, table target type = .ok reply →
      ∀ r ∈ reply.message.answers, ∀ ds, r.rdata ≠ .ds ds) :
    Assessment.slotAgreement? digest keys (table.slot target keys type) = none := by
  rw [Assessment.slotAgreement?, slot]
  dsimp only
  cases hreply : table target type with
  | error e => rfl
  | ok reply =>
      have hnone : (withoutSignatures reply.message.answers).filterMap Assessment.delegation? =
          [] := by
        refine List.filterMap_eq_nil_iff.mpr fun r hr => ?_
        exact Assessment.delegation?_eq_none_iff.mpr (h reply hreply r (List.mem_of_mem_filter hr))
      dsimp only
      rw [hnone]

/-! ### Tables that differ in one place -/

namespace AgreeBut

/-- Slots of other types are the same: keys are not asked for in the place where the tables
differ. -/
theorem slot_eq (h : AgreeBut target changed table other) (hplain : changed ≠ .dnskey)
    (htype : type ≠ changed) : other.slot target keys type = table.slot target keys type := by
  have houtcome : other target type = table target type := h _ _ (.inr htype)
  have hkeys : ∀ owner, other owner .dnskey = table owner .dnskey :=
    fun owner => h _ _ (.inr hplain.symm)
  simp only [slot, houtcome, hkeys]

theorem millis_eq (h : AgreeBut target changed table other) (htype : type ≠ changed) :
    other.millis target type = table.millis target type := by
  rw [millis, millis, h _ _ (.inr htype)]

/-- The response time is the contribution of one type and what the others contribute. -/
theorem sum_millis (h : AgreeBut target changed table other) {types : List RecordType}
    (hnodup : types.Nodup) (hmem : changed ∈ types) :
    (types.map (other.millis target)).sum =
      other.millis target changed + ((types.erase changed).map (table.millis target)).sum := by
  rw [← List.sum_map_erase (other.millis target) hmem]
  congr 2
  exact List.map_congr_left fun type htype => h.millis_eq (hnodup.mem_erase_iff.mp htype).1

/-- What the slots say about the delegation is the same if the changed one says nothing about it. -/
theorem filterMap_slotAgreement? (h : AgreeBut target changed table other)
    (hplain : changed ≠ .dnskey)
    (hsilent : ∀ reply, table target changed = .ok reply ∨ other target changed = .ok reply →
      ∀ r ∈ reply.message.answers, ∀ ds, r.rdata ≠ .ds ds) (types : List RecordType) :
    (types.map (other.slot target keys)).filterMap (Assessment.slotAgreement? digest keys) =
      (types.map (table.slot target keys)).filterMap (Assessment.slotAgreement? digest keys) := by
  rw [List.filterMap_map, List.filterMap_map]
  refine List.filterMap_congr fun type _ => ?_
  dsimp only [Function.comp_apply]
  by_cases htype : type = changed
  · rw [htype, slotAgreement?_slot_eq_none fun reply hreply => hsilent reply (.inr hreply),
      slotAgreement?_slot_eq_none fun reply hreply => hsilent reply (.inl hreply)]
  · rw [h.slot_eq hplain htype]

end AgreeBut

end AnswerTable

/-! ### Runs -/

namespace Session

variable {resolver : Resolver σ} {table : AnswerTable} {ids : Nat → UInt16} {target : Name}
  {keys : KeyMaterial}

/-- The slots of a sweep are those of the table. -/
theorem Sweeps.map_slot {start finish : Session σ} {turns : List (Turn σ)}
    (htells : resolver.Tells table) (h : Sweeps resolver ids target keys start turns finish) :
    turns.map (Turn.slot resolver ids target keys) =
    (turns.map Turn.type).map (table.slot target keys) := by
  rw [List.map_map]
  refine List.map_congr_left fun turn hturn => ?_
  obtain ⟨session, hask⟩ := h.exists_ask hturn
  have houtcome : turn.outcome = table target turn.type :=
    (congrArg Prod.fst hask).symm.trans (htells.ask ids target turn.type session)
  simp only [Turn.slot, Turn.delegation, htells.ask, houtcome, AnswerTable.slot,
    Function.comp_apply]

/-- The report of a run against a table that has the keys. -/
theorem run_of_tells {config : Config} {state : σ} {keyReply : Reply} (check : SignatureCheck)
    (digest : DigestType → Bytes → Bytes) (htells : resolver.Tells table)
    (hkeys : table config.domainName .dnskey = .ok keyReply) :
    (run check digest resolver ids config state).1 =
      Report.ofTranscript check digest config
        (.swept keyReply
          (Transcript.sweptTypes.map (table.slot config.domainName (Transcript.material keyReply)))
          (table (Name.reversePointer config.resolverIp) .ptr)) := by
  have hfirst : ask resolver ids config.domainName .dnskey { state } = (.ok keyReply, _) :=
    Prod.ext ((htells.ask ..).trans hkeys) rfl
  obtain ⟨turns, finish, hsweeps, htypes, htranscript⟩ := exists_sweeps_of_keys hfirst
  rw [run, htranscript, hsweeps.map_slot htells, htypes, htells.ask]

/-- **Swept types are on their own.** Two runs against tables that agree but for one swept type of
the target, and that have the keys of the target, report block by block the same answers for every
other swept type. The self check of the key set and what is said of the resolver's address are the
same, and the response time differs in what the one type contributes. The flag of the delegation can
differ only if there are delegation records in the place where the tables differ, and the name of
the resolver only if that place is where it is looked up. -/
theorem run_slots {other : AnswerTable} {resolver' : Resolver τ} {keyReply : Reply}
    {changed : RecordType} (check : SignatureCheck) (digest : DigestType → Bytes → Bytes)
    (ids ids' : Nat → UInt16) (config : Config) (state : σ) (state' : τ)
    (htells : resolver.Tells table) (htells' : resolver'.Tells other)
    (hswept : changed ∈ Transcript.sweptTypes)
    (hbut : AnswerTable.AgreeBut config.domainName changed table other)
    (hkeys : table config.domainName .dnskey = .ok keyReply) :
    let report := (run check digest resolver ids config state).1
    let report' := (run check digest resolver' ids' config state').1
    let others := ((Transcript.sweptTypes.erase changed).map (table.millis config.domainName)).sum
    (report.answers = Transcript.sweptTypes.flatMap (table.block check config.domainName keyReply) ∧
      report'.answers =
        Transcript.sweptTypes.flatMap (other.block check config.domainName keyReply) ∧
      ∀ type, type ≠ changed →
        other.block check config.domainName keyReply type =
          table.block check config.domainName keyReply type) ∧
    report'.zskVerified = report.zskVerified ∧
    (report'.resolverIp = report.resolverIp ∧ report'.resolverPort = report.resolverPort ∧
      report'.resolverProtocol = report.resolverProtocol) ∧
    (report.responseTime = toString (table.millis config.domainName changed + others) ∧
      report'.responseTime = toString (other.millis config.domainName changed + others)) ∧
    ((∀ reply,
        table config.domainName changed = .ok reply ∨ other config.domainName changed = .ok reply →
        ∀ r ∈ reply.message.answers, ∀ ds, r.rdata ≠ .ds ds) →
      report'.kskVerified = report.kskVerified) ∧
    (changed ≠ .ptr ∨ config.domainName ≠ Name.reversePointer config.resolverIp →
      report'.resolverName = report.resolverName) := by
  intro report report' others
  -- Keys are never swept for, so both tables have the same ones, of the target and of any other
  -- domain.
  have hplain : changed ≠ .dnskey := by
    have hall : ∀ type ∈ Transcript.sweptTypes, type ≠ .dnskey := by decide
    exact hall changed hswept
  have hnodup : Transcript.sweptTypes.Nodup := by decide
  have hkeys' : other config.domainName .dnskey = .ok keyReply :=
    (hbut _ _ (.inr hplain.symm)).trans hkeys
  have hreport : report = _ := run_of_tells check digest htells hkeys
  have hreport' : report' = _ := run_of_tells check digest htells' hkeys'
  rw [hreport, hreport']
  refine ⟨⟨List.flatMap_map .., List.flatMap_map .., ?_⟩, rfl, ⟨rfl, rfl, rfl⟩, ⟨?_, ?_⟩, ?_, ?_⟩
  · intro type htype
    rw [AnswerTable.block, AnswerTable.block, hbut.slot_eq hplain htype]
  · dsimp only [Report.ofTranscript]
    rw [AnswerTable.sweepMillis_slots, ← List.sum_map_erase (table.millis config.domainName) hswept]
  · dsimp only [Report.ofTranscript]
    rw [AnswerTable.sweepMillis_slots, hbut.sum_millis hnodup hswept]
  · intro hsilent
    dsimp only [Report.ofTranscript]
    rw [hbut.filterMap_slotAgreement? hplain hsilent]
  · intro helsewhere
    dsimp only [Report.ofTranscript]
    rw [hbut _ _ (helsewhere.symm.imp Ne.symm Ne.symm)]

/-- A zone whose mail exchangers are not to be had, and the same zone with all its answers: two runs
differ by the three milliseconds of one exchange, and agree on the delegation and on the name of the
resolver. -/
theorem run_slots_lostExchange :
    let zone : Name := ⟨["example", "com"]⟩
    let key : Dnskey := { flags := 257, protocol := 3, algorithm := 15, publicKey := [1, 2] }
    let keyReply : Reply :=
      { message := { answers := [.ofRdata zone 60 (.dnskey key)] }, rtt := .zero }
    let reply : Reply :=
      { message := { answers := [.ofRdata zone 60 (.a #v[192, 0, 2, 1])] }, rtt := ⟨3500000⟩ }
    let table : AnswerTable := fun _ type => if type = .dnskey then .ok keyReply else .ok reply
    let other : AnswerTable := fun name type =>
      if name = zone ∧ type = .mx then .error .timeout else table name type
    let config : Config :=
      { domain := "example.com", domainName := zone, resolverIp := .v4 #v[192, 0, 2, 53]
        resolverPort := 53, protocol := .udp, timeout := Config.defaultTimeout }
    let report := fun table : AnswerTable =>
      (run (fun _ _ _ _ => .ok ()) (fun _ _ => []) table.resolver (fun _ => 0) config ()).1
    AnswerTable.AgreeBut zone .mx table other ∧ (report table).responseTime = "33" ∧
      (report other).responseTime = "30" ∧ (report other).kskVerified = (report table).kskVerified ∧
      (report other).resolverName = (report table).resolverName := by
  intro zone key keyReply reply table other config report
  have hbut : AnswerTable.AgreeBut zone .mx table other := by
    intro name type helsewhere
    exact if_neg fun h => helsewhere.elim (absurd h.1) (absurd h.2)
  obtain ⟨-, -, -, ⟨htime, htime'⟩, hksk, hname⟩ :=
    run_slots (fun _ _ _ _ => .ok ()) (fun _ _ => []) (fun _ => 0) (fun _ => 0) config () ()
      table.tells_resolver other.tells_resolver (by decide) hbut rfl
  refine ⟨hbut, htime.trans (by decide +kernel), htime'.trans (by decide +kernel), hksk ?_,
    hname (.inl (by decide))⟩
  intro reply' hreply r hr ds
  obtain rfl : reply = reply' := hreply.elim Except.ok.inj nofun
  obtain rfl := List.mem_singleton.mp hr
  exact nofun

end Session

end DnsHealth
