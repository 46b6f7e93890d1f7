import DnsHealth.Proofs.Dnssec.KeyMaterial
import DnsHealth.Proofs.Dnssec.Verification
import DnsHealth.Proofs.Probe.Sweep

/-!
# The flags of answers

The answers of one turn of a sweep are reported with one flag. What the flag says can be read off
what the resolver answered, without following the probe: the first signature among the answers,
under some key that may speak for it, verifies all other answers (`Session.run_answers`). The keys
that may speak for a signature over a delegation are those of the registrable domain, as the
resolver tells them in the session right behind the answers.

The two sources of keys meet in `Session.Turn.Candidate`; everything else is one lemma for each
function on the way from the transcript to the report.
-/

namespace DnsHealth

variable {σ : Type}

/-- Every record among the answers of a resolver is of the type of its data. -/
def Resolver.Agrees (resolver : Resolver σ) : Prop :=
  ∀ query state reply, (resolver.answer query state).1 = .ok reply →
    ∀ r ∈ reply.message.answers, r.type = r.rdata.type

theorem Resolver.Agrees.of_ask {resolver : Resolver σ} {ids : Nat → UInt16} {name : Name}
    {type : RecordType} {session : Session σ} {reply : Reply} (h : resolver.Agrees)
    (hask : (Session.ask resolver ids name type session).1 = .ok reply) :
    ∀ r ∈ reply.message.answers, r.type = r.rdata.type :=
  h _ _ reply hask

/-! ### The verdict on the answers of a slot -/

namespace Assessment

variable {check : SignatureCheck} {keys : KeyMaterial} {delegation : Option (Outcome Reply)}
  {answers : List Record} {key : ZoneKey}

theorem mem_delegationKeys : key ∈ delegationKeys delegation ↔
    ∃ reply, delegation = some (.ok reply) ∧
      key ∈ reply.message.answers.filterMap ZoneKey.ofRecord? := by
  cases delegation with
  | none => simp [delegationKeys]
  | some outcome =>
      cases outcome with
      | error e => simp [delegationKeys]
      | ok reply => simp [delegationKeys]

/-- Answers count as verified when there are keys and one of them, of the right source, verifies the
first signature over the other answers. -/
theorem verifiesAnswers_eq_true_iff : verifiesAnswers check keys delegation answers = true ↔
    ∃ sig, firstSignature? answers = some sig ∧ keys.isEmpty = false ∧
      ∃ key ∈ if sig.rrsig.typeCovered = .ds then delegationKeys delegation else keys.zoneKeys,
        verifyRrset check sig key (withoutSignatures answers) = .ok () := by
  rw [verifiesAnswers]
  cases firstSignature? answers with
  | none => simp
  | some sig =>
      cases hempty : keys.isEmpty with
      | true => simp
      | false => simp [List.any_eq_true, verifiesRrset_eq_true_iff]

end Assessment

/-! ### The flag of a turn -/

namespace Session

section

variable (resolver : Resolver σ) (ids : Nat → UInt16) (target : Name)

/-- A key may speak for a signature in a turn: a zone key of the target or, for a signature over a
delegation, any key of the registrable domain, asked for right behind the answers. -/
def Turn.Candidate (fetched : List ZoneKey) (turn : Turn σ) (sig : SignatureRecord)
    (key : ZoneKey) : Prop :=
  if sig.rrsig.typeCovered = .ds then
    ∃ owner reply, Transcript.delegationOwner? target = some owner ∧
      (ask resolver ids owner .dnskey turn.behind).1 = .ok reply ∧
      key ∈ reply.message.answers.filterMap ZoneKey.ofRecord?
  else key ∈ fetched ∧ key.key.isZoneKey = true

/-- A turn is verified by a signature and a key: the signature is the first among the answers, there
are keys of the target at all, the key may speak for the signature, and it verifies it over all
answers that are not signatures. -/
structure Turn.VerifiedBy (check : SignatureCheck) (fetched : List ZoneKey) (turn : Turn σ)
    (answers : List Record) (sig : SignatureRecord) (key : ZoneKey) : Prop where
  first : answers.findSome? SignatureRecord.ofRecord? = some sig
  keyed : fetched ≠ []
  candidate : turn.Candidate resolver ids target fetched sig key
  verifies : verifyRrset check sig key (answers.filter fun r => r.type ≠ .rrsig) = .ok ()

end

/-- The flag that the probe computes for a turn. -/
def Turn.flag (resolver : Resolver σ) (ids : Nat → UInt16) (target : Name) (keys : KeyMaterial)
    (check : SignatureCheck) (turn : Turn σ) : Bool :=
  match turn.outcome with
  | .error _ => false
  | .ok reply =>
    Assessment.verifiesAnswers check keys
      (turn.delegation resolver ids target keys) reply.message.answers

/-- The answers that a turn contributes to the report, with their flag. -/
def Turn.reported (turn : Turn σ) (verified : Bool) : List ReportedAnswer :=
  match turn.outcome with
  | .error _ => []
  | .ok reply =>
    ReportedAnswer.ofRecords reply.message.rcodeName
      (reply.message.answers.filter fun r => r.type ≠ .rrsig) reply.rtt verified

variable {resolver : Resolver σ} {ids : Nat → UInt16} {target : Name} {keys : KeyMaterial}
  {check : SignatureCheck} {turn : Turn σ} {reply : Reply} {sig : SignatureRecord} {key : ZoneKey}

theorem Turn.slotAnswers_slot :
    Assessment.slotAnswers check keys (turn.slot resolver ids target keys) =
    turn.reported (turn.flag resolver ids target keys check) := by
  rw [Assessment.slotAnswers, reported, flag, slot]
  cases turn.outcome with
  | error e => rfl
  | ok reply => rfl

/-- All reported answers of a turn carry its flag. -/
theorem Turn.dnssecVerified_of_mem_reported {verified : Bool} {answer : ReportedAnswer}
    (h : answer ∈ turn.reported verified) : answer.dnssecVerified = verified := by
  rw [reported] at h
  split at h
  case _ => exact absurd h List.not_mem_nil
  case _ =>
      obtain ⟨r, -, hr⟩ := List.mem_filterMap.mp h
      obtain ⟨_, -, rfl⟩ := Option.map_eq_some_iff.mp hr
      rfl

/-- The keys of the registrable domain were asked for, when there is one, behind answers whose first
signature is over a delegation. -/
theorem Turn.delegation_of_ds (houtcome : turn.outcome = .ok reply)
    (hsig : firstSignature? reply.message.answers = some sig) (hkeys : keys.isEmpty = false)
    (hds : sig.rrsig.typeCovered = .ds) :
    turn.delegation resolver ids target keys =
      (Transcript.delegationOwner? target).map fun owner =>
        (ask resolver ids owner .dnskey turn.behind).1 := by
  rw [delegation, houtcome, Transcript.delegationQuery?, hsig]
  dsimp only
  rw [if_pos ⟨hkeys, hds⟩]

/-- The keys that the probe tries are those that may speak for the signature. -/
theorem Turn.candidate_iff (houtcome : turn.outcome = .ok reply)
    (hsig : firstSignature? reply.message.answers = some sig) (hkeys : keys.isEmpty = false) :
    turn.Candidate resolver ids target keys.keys sig key ↔
      key ∈ if sig.rrsig.typeCovered = .ds then
          Assessment.delegationKeys (turn.delegation resolver ids target keys)
        else keys.zoneKeys := by
  rw [Candidate]
  split
  case _ hds =>
      -- Only here was the registrable domain asked for its keys, and the slot holds what came back.
      rw [Assessment.mem_delegationKeys, delegation_of_ds houtcome hsig hkeys hds]
      constructor
      · rintro ⟨owner, reply', howner, hask, hkey⟩
        exact ⟨reply', by rw [howner, Option.map_some, hask], hkey⟩
      · rintro ⟨reply', hdelegation, hkey⟩
        obtain ⟨owner, howner, hask⟩ := Option.map_eq_some_iff.mp hdelegation
        exact ⟨owner, reply', howner, hask, hkey⟩
  case _ => rw [KeyMaterial.zoneKeys, List.mem_filter]

/-- The flag that the probe computes for a turn is true exactly when some key verifies the turn. -/
theorem Turn.flag_eq_true_iff (houtcome : turn.outcome = .ok reply)
    (hagree : ∀ r ∈ reply.message.answers, r.type = r.rdata.type) :
    turn.flag resolver ids target keys check = true ↔
      ∃ sig key, turn.VerifiedBy resolver ids target check keys.keys reply.message.answers
        sig key := by
  rw [flag, houtcome]
  dsimp only
  rw [Assessment.verifiesAnswers_eq_true_iff]
  constructor
  · rintro ⟨sig, hsig, hkeys, key, hkey, hverifies⟩
    refine ⟨sig, key, ?_, ?_, (candidate_iff houtcome hsig hkeys).mpr hkey, hverifies⟩
    · rw [← firstSignature?_eq_findSome? hagree, hsig]
    · simpa [KeyMaterial.isEmpty] using hkeys
  · rintro ⟨sig, key, hfirst, hfetched, hcandidate, hverifies⟩
    have hsig : firstSignature? reply.message.answers = some sig := by
      rw [firstSignature?_eq_findSome? hagree, hfirst]
    have hkeys : keys.isEmpty = false := by
      simpa [KeyMaterial.isEmpty] using hfetched
    exact ⟨sig, hsig, hkeys, key, (candidate_iff houtcome hsig hkeys).mp hcandidate, hverifies⟩

/-- **What the flag of an answer says.** A run that got keys reports what the turns of its sweep
contribute, each turn under one flag. The flag of an answered turn is true exactly when some
signature and key verify the turn, and a signature and key that do vouch for all of its answers that
are not signatures. -/
theorem run_answers {config : Config} {state : σ} {keyReply : Reply} {first : Session σ}
    (check : SignatureCheck) (digest : DigestType → Bytes → Bytes) (hagree : resolver.Agrees)
    (hkeys : ask resolver ids config.domainName .dnskey { state } = (.ok keyReply, first)) :
    ∃ turns finish,
      Sweeps resolver ids config.domainName (Transcript.material keyReply) first turns finish ∧
      turns.map Turn.type = Transcript.sweptTypes ∧
      ∃ flag : Turn σ → Bool,
        (run check digest resolver ids config state).1.answers =
          turns.flatMap (fun turn => turn.reported (flag turn)) ∧
        ∀ turn ∈ turns,
          (∀ answer ∈ turn.reported (flag turn), answer.dnssecVerified = flag turn) ∧
          ∀ reply, turn.outcome = .ok reply →
            (flag turn = true ↔
              ∃ sig key, turn.VerifiedBy resolver ids config.domainName check
                (keyReply.message.answers.filterMap ZoneKey.ofRecord?)
                reply.message.answers sig key) ∧
            ∀ sig key, turn.VerifiedBy resolver ids config.domainName check
                (keyReply.message.answers.filterMap ZoneKey.ofRecord?)
                reply.message.answers sig key →
              Vouches check sig key (reply.message.answers.filter fun r => r.type ≠ .rrsig) := by
  obtain ⟨turns, finish, hsweeps, htypes, htranscript⟩ := exists_sweeps_of_keys hkeys
  have hfetched : (Transcript.material keyReply).keys =
      keyReply.message.answers.filterMap ZoneKey.ofRecord? :=
    KeyMaterial.keys_ofAnswers (hagree.of_ask (congrArg Prod.fst hkeys))
  refine ⟨turns, finish, hsweeps, htypes, fun turn => turn.flag resolver ids config.domainName
    (Transcript.material keyReply) check, ?_, ?_⟩
  · simp only [run, htranscript, Report.ofTranscript, List.flatMap_map, Turn.slotAnswers_slot]
  · intro turn hturn
    refine ⟨fun answer hanswer => Turn.dnssecVerified_of_mem_reported hanswer, ?_⟩
    intro reply houtcome
    obtain ⟨session, hask⟩ := hsweeps.exists_ask hturn
    have hreply := hagree.of_ask ((congrArg Prod.fst hask).trans houtcome)
    rw [← hfetched]
    exact ⟨Turn.flag_eq_true_iff houtcome hreply, fun sig key h => .of_verifyRrset h.verifies⟩

/-- A signed zone behind a primitive that accepts everything: the run reports answers, all of them
flagged. -/
theorem run_answers_signedZone :
    let zone : Name := ⟨["example", "com"]⟩
    let key : Dnskey := { flags := 256, protocol := 3, algorithm := 15, publicKey := [1, 2] }
    let sig : Rrsig :=
      { typeCovered := .a, algorithm := 15, labels := 2, originalTtl := 60, expiration := 2000
        inception := 1000, keyTag := key.keyTag, signerName := zone, signature := [3] }
    let keyReply : Reply :=
      { message := { answers := [.ofRdata zone 60 (.dnskey key)] }, rtt := .zero }
    let reply : Reply :=
      { message :=
          { answers := [.ofRdata zone 60 (.a #v[192, 0, 2, 1]), .ofRdata zone 60 (.rrsig sig)] }
        rtt := .zero }
    let resolver : Resolver Unit :=
      ⟨fun query state =>
        (.ok (if query.questions.all fun q => q.type = .dnskey then keyReply else reply), state)⟩
    let config : Config :=
      { domain := "example.com", domainName := zone, resolverIp := .v4 #v[192, 0, 2, 53]
        resolverPort := 53, protocol := .udp, timeout := Config.defaultTimeout }
    let answers :=
      (run (fun _ _ _ _ => .ok ()) (fun _ _ => []) resolver (fun _ => 0) config ()).1.answers
    resolver.Agrees ∧ answers ≠ [] ∧ ∀ answer ∈ answers, answer.dnssecVerified = true := by
  intro zone key sig keyReply reply resolver config answers
  have hagree : resolver.Agrees := by
    intro query state reply' h
    obtain rfl := Except.ok.inj h
    split
    case _ => decide
    case _ => decide
  have hkeys : ask resolver (fun _ => 0) config.domainName .dnskey { state := () } =
    (.ok keyReply, _) := rfl
  obtain ⟨turns, finish, hsweeps, htypes, flag, hanswers, hturns⟩ :=
    run_answers (fun _ _ _ _ => .ok ()) (fun _ _ => []) hagree hkeys
  -- No swept type is that of keys, so every turn brings the address and its signature.
  have houtcome : ∀ turn ∈ turns, turn.outcome = .ok reply := by
    intro turn hturn
    have hswept : ∀ type ∈ Transcript.sweptTypes, type ≠ .dnskey := by decide
    have htype := hswept turn.type (htypes ▸ List.mem_map_of_mem hturn)
    obtain ⟨session, hask⟩ := hsweeps.exists_ask hturn
    have houtcome : turn.outcome = (ask resolver (fun _ => 0) zone turn.type session).1 :=
      (congrArg Prod.fst hask).symm
    rw [houtcome]
    simp [ask, resolver, Message.query, Message.withEdns, htype]
  have hflag : ∀ turn ∈ turns, flag turn = true := by
    intro turn hturn
    refine (((hturns turn hturn).2 reply (houtcome turn hturn)).1).mpr
      ⟨{ owner := zone, cls := .internet, ttl := 60, rrsig := sig },
        { owner := zone, cls := .internet, key }, rfl, by decide, ⟨List.mem_cons_self, by decide⟩,
        ?_⟩
    exact verifyRrset_eq_ok_iff.mpr
      ⟨checkKey_eq_ok_iff.mpr ⟨rfl, rfl, rfl, by decide, rfl⟩,
        checkRrset_eq_ok_iff.mpr ⟨_, _, rfl, by decide⟩, .ed25519, _, rfl,
        SignedData.signedData_eq_ok_iff.mpr ⟨by decide, rfl⟩, rfl⟩
  have hanswers : answers = turns.flatMap fun turn => turn.reported (flag turn) := hanswers
  rw [hanswers]
  refine ⟨hagree, ?_, ?_⟩
  · intro hnil
    cases turns with
    | nil => exact absurd htypes (by decide)
    | cons turn _ =>
        have hturn := List.flatMap_eq_nil_iff.mp hnil turn List.mem_cons_self
        rw [Turn.reported, houtcome turn List.mem_cons_self] at hturn
        exact absurd hturn (List.cons_ne_nil _ _)
  · intro answer hanswer
    obtain ⟨turn, hturn, hmem⟩ := List.mem_flatMap.mp hanswer
    rw [(hturns turn hturn).1 answer hmem, hflag turn hturn]

end Session

end DnsHealth
