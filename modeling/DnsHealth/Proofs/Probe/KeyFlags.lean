import DnsHealth.Proofs.Dnssec.Delegation
import DnsHealth.Proofs.Probe.Flags

/-!
# The flags about the keys

Two flags of a report are about the keys of the target. That the key set signs itself is read off
the answer to the key query alone (`Reply.SignsItself`): of that answer the key records matter and
the first signature, and nothing else. That the delegation agrees with the key set is said by the
last turn of the sweep that has delegation records, whatever was asked for in it
(`Session.Turn.delegations`). `Session.run_keyFlags` says both.
-/

namespace DnsHealth

variable {σ : Type}

/-! ### The key set -/

/-- The answers that are of the type of keys, in their order. -/
def Reply.keyRecords (reply : Reply) : List Record :=
  reply.message.answers.filter fun r => r.type = .dnskey

/-- The first signature among the answers. -/
def Reply.signature? (reply : Reply) : Option SignatureRecord :=
  reply.message.answers.findSome? SignatureRecord.ofRecord?

/-- A key-signing key among the key records verifies the first signature over all of them. -/
def Reply.SignsItself (check : SignatureCheck) (reply : Reply) : Prop :=
  ∃ sig, reply.signature? = some sig ∧
    ∃ key ∈ reply.keyRecords.filterMap ZoneKey.ofRecord?,
      key.key.flags = 257 ∧ verifyRrset check sig key reply.keyRecords = .ok ()

namespace KeyMaterial

variable {check : SignatureCheck} {digest : DigestType → Bytes → Bytes} {material : KeyMaterial}
  {reply : Reply}

theorem mem_ksks {key : ZoneKey} : key ∈ material.ksks ↔
    key ∈ material.keys ∧ key.key.flags = 257 := by
  rw [ksks, List.mem_filter, Dnskey.isKsk_eq_true_iff]

theorem signsItself_eq_true_iff : material.signsItself check = true ↔
    ∃ sig, material.signature = some sig ∧ ∃ key ∈ material.keys,
      key.key.flags = 257 ∧ verifyRrset check sig key material.rrset = .ok () := by
  rw [signsItself]
  cases material.signature with
  | none => simp
  | some sig =>
      simp only [List.any_eq_true, mem_ksks, verifiesRrset_eq_true_iff, Option.some.injEq,
        exists_eq_left', and_assoc]

/-- Without a key-signing key there is nothing to disagree with. -/
theorem agreesWith_of_no_ksk (h : ∀ key ∈ material.keys, key.key.flags ≠ 257) (records : List Ds) :
    material.agreesWith digest records = true := by
  rw [← Bool.not_eq_false, agreesWith_eq_false_iff_denies]
  rintro ⟨key, ⟨before, after, hkeys, hflags, -⟩, -⟩
  exact h key (by simp [hkeys]) hflags

/-- A key record is no signature, so taking signatures out first takes none of them away. -/
theorem rrset_material : (Transcript.material reply).rrset = reply.keyRecords := by
  have hother : RecordType.dnskey ≠ RecordType.rrsig := by decide
  simp only [Transcript.material, ofAnswers, withoutSignatures, Reply.keyRecords,
    List.filter_filter]
  refine List.filter_congr fun r _ => ?_
  by_cases htype : r.type = .dnskey
  · simp [htype, hother]
  · simp [htype]

theorem keys_material :
    (Transcript.material reply).keys = reply.keyRecords.filterMap ZoneKey.ofRecord? := by
  rw [← rrset_material]
  rfl

theorem signature_material (hagree : ∀ r ∈ reply.message.answers, r.type = r.rdata.type) :
    (Transcript.material reply).signature = reply.signature? :=
  firstSignature?_eq_findSome? hagree

end KeyMaterial

/-- The self check of the key set is what it should be. -/
theorem Reply.signsItself_iff {reply : Reply} (check : SignatureCheck)
    (hagree : ∀ r ∈ reply.message.answers, r.type = r.rdata.type) :
    (Transcript.material reply).signsItself check = true ↔ reply.SignsItself check := by
  rw [KeyMaterial.signsItself_eq_true_iff, KeyMaterial.signature_material hagree,
    KeyMaterial.keys_material, KeyMaterial.rrset_material]
  rfl

/-- Replies with the same key records and the same first signature sign themselves alike. -/
theorem Reply.SignsItself.congr {check : SignatureCheck} {reply other : Reply}
    (hrecords : other.keyRecords = reply.keyRecords) (hsig : other.signature? = reply.signature?) :
    other.SignsItself check ↔ reply.SignsItself check := by
  rw [SignsItself, SignsItself, hrecords, hsig]

/-! ### The delegation -/

namespace Assessment

variable {record : Record} {answers : List Record}

theorem delegation?_eq_none_iff : delegation? record = none ↔ ∀ ds, record.rdata ≠ .ds ds := by
  rw [delegation?]
  split
  case _ ds hdata => exact iff_of_false (Option.some_ne_none ds) fun h => h ds hdata
  case _ hother => exact iff_of_true rfl hother

/-- Taking out signatures takes no delegation away. -/
theorem filterMap_delegation?_withoutSignatures (hagree : ∀ r ∈ answers, r.type = r.rdata.type) :
    (withoutSignatures answers).filterMap delegation? = answers.filterMap delegation? := by
  rw [withoutSignatures, List.filterMap_filter]
  refine List.filterMap_congr fun r hr => ?_
  by_cases htype : r.type = .rrsig
  · have hnone : delegation? r = none := by
      refine delegation?_eq_none_iff.mpr fun ds hdata => ?_
      have hds : r.type = .ds := (hagree r hr).trans (congrArg Rdata.type hdata)
      exact absurd (htype.symm.trans hds) (by decide)
    rw [if_neg (by simp [htype]), hnone]
  · rw [if_pos (by simp [htype])]

end Assessment

namespace Session

/-- The delegation records in a turn, in the order of the answers. -/
def Turn.delegations (turn : Turn σ) : List Ds :=
  match turn.outcome with
  | .error _ => []
  | .ok reply => reply.message.answers.filterMap Assessment.delegation?

section

variable {resolver : Resolver σ} {ids : Nat → UInt16} {target : Name} {keys : KeyMaterial}
  {digest : DigestType → Bytes → Bytes} {turn : Turn σ} {turns before after : List (Turn σ)}

variable (digest keys) in
/-- What a turn says about the delegation: the cross check of all its delegation records, if it has
any. -/
def Turn.agreement? (turn : Turn σ) : Option Bool :=
  if turn.delegations = [] then none else some (keys.agreesWith digest turn.delegations)

/-- What the probe reads off a turn is said of all delegation records in it. -/
theorem Turn.slotAgreement?_slot
    (hagree : ∀ reply, turn.outcome = .ok reply → ∀ r ∈ reply.message.answers,
      r.type = r.rdata.type) :
    Assessment.slotAgreement? digest keys (turn.slot resolver ids target keys) =
      turn.agreement? keys digest := by
  rw [Assessment.slotAgreement?, slot, agreement?, delegations]
  dsimp only
  cases houtcome : turn.outcome with
  | error e => rfl
  | ok reply =>
      dsimp only
      rw [Assessment.filterMap_delegation?_withoutSignatures (hagree reply houtcome)]
      split
      case _ hnil => rw [if_pos hnil]
      case _ hne => rw [if_neg hne]

variable (digest keys) in
/-- The delegation flag of turns: what the last of them says that says something. -/
def agreement (turns : List (Turn σ)) : Bool :=
  (turns.filterMap (Turn.agreement? keys digest)).getLast?.getD false

/-- Turns without delegation records say nothing. -/
theorem filterMap_agreement?_of_silent (h : ∀ turn ∈ turns, turn.delegations = []) :
    turns.filterMap (Turn.agreement? keys digest) = [] :=
  List.filterMap_eq_nil_iff.mpr fun turn hturn => if_pos (h turn hturn)

theorem agreement_of_silent (h : ∀ turn ∈ turns, turn.delegations = []) :
    agreement keys digest turns = false := by
  rw [agreement, filterMap_agreement?_of_silent h]
  rfl

/-- Silent turns behind it do not take anything back. -/
theorem agreement_of_last (hturn : turn.delegations ≠ [])
    (hafter : ∀ later ∈ after, later.delegations = []) :
    agreement keys digest (before ++ turn :: after) = keys.agreesWith digest turn.delegations := by
  have hsome : turn.agreement? keys digest = some (keys.agreesWith digest turn.delegations) :=
    if_neg hturn
  rw [agreement, List.filterMap_append, List.filterMap_cons_some hsome,
    filterMap_agreement?_of_silent hafter, List.getLast?_concat]
  rfl

/-- Of the turns that have delegation records there is a last one. -/
theorem exists_last_delegations (h : ∃ turn ∈ turns, turn.delegations ≠ []) :
    ∃ before turn after, turns = before ++ turn :: after ∧ turn.delegations ≠ [] ∧
      ∀ later ∈ after, later.delegations = [] := by
  induction turns with
  | nil =>
      obtain ⟨turn, hturn, -⟩ := h
      exact absurd hturn List.not_mem_nil
  | cons first rest ih =>
      -- The first turn is the last one with delegation records only if all behind it are silent.
      by_cases hrest : ∃ turn ∈ rest, turn.delegations ≠ []
      · obtain ⟨before, turn, after, rfl, hturn, hafter⟩ := ih hrest
        exact ⟨first :: before, turn, after, rfl, hturn, hafter⟩
      · have hsilent : ∀ later ∈ rest, later.delegations = [] := by
          intro later hlater
          exact not_not.mp fun hne => hrest ⟨later, hlater, hne⟩
        obtain ⟨turn, hturn, hne⟩ := h
        rcases List.mem_cons.mp hturn with rfl | hturn
        · exact ⟨[], turn, rest, rfl, hne, hsilent⟩
        · exact absurd (hsilent turn hturn) hne

end

/-! ### Runs -/

variable {resolver : Resolver σ} {ids : Nat → UInt16} {config : Config} {state : σ}
  {keyReply : Reply} {first finish : Session σ} {turns : List (Turn σ)}

theorem run_zskVerified (check : SignatureCheck) (digest : DigestType → Bytes → Bytes)
    (hkeys : ask resolver ids config.domainName .dnskey { state } = (.ok keyReply, first)) :
    (run check digest resolver ids config state).1.zskVerified =
      (Transcript.material keyReply).signsItself check := by
  obtain ⟨turns, finish, -, -, htranscript⟩ := exists_sweeps_of_keys hkeys
  simp only [run, htranscript, Report.ofTranscript]

theorem run_kskVerified (check : SignatureCheck) (digest : DigestType → Bytes → Bytes)
    (hagree : resolver.Agrees)
    (hkeys : ask resolver ids config.domainName .dnskey { state } = (.ok keyReply, first))
    (hsweeps : Sweeps resolver ids config.domainName
      (Transcript.material keyReply) first turns finish)
    (htypes : turns.map Turn.type = Transcript.sweptTypes) :
    (run check digest resolver ids config state).1.kskVerified =
      agreement (Transcript.material keyReply) digest turns := by
  simp only [run, transcript_of_sweeps hkeys hsweeps htypes, Report.ofTranscript, agreement,
    List.filterMap_map]
  congr 2
  refine List.filterMap_congr fun turn hturn => Turn.slotAgreement?_slot fun reply houtcome => ?_
  obtain ⟨session, hask⟩ := hsweeps.exists_ask hturn
  exact hagree.of_ask ((congrArg Prod.fst hask).trans houtcome)

/-- **What the flags about the keys say.** A run that got keys reports that the key set signs itself
exactly when a key-signing key in the reply verifies the first signature in it over all key records
in it; any run whose key reply has the same key records and the same first signature reports the
same, whatever else was answered there or later. It reports that the delegation does not agree when
no turn of the sweep has delegation records, and otherwise what the cross check says of those in the
last turn that has any, which is agreement when there is no key-signing key. -/
theorem run_keyFlags (check : SignatureCheck) (digest : DigestType → Bytes → Bytes)
    (hagree : resolver.Agrees)
    (hkeys : ask resolver ids config.domainName .dnskey { state } = (.ok keyReply, first)) :
    ((run check digest resolver ids config state).1.zskVerified = true ↔
      keyReply.SignsItself check) ∧
    (∀ (τ : Type) (digest' : DigestType → Bytes → Bytes) (resolver' : Resolver τ)
        (ids' : Nat → UInt16) (config' : Config) (state' : τ) (keyReply' : Reply)
        (first' : Session τ), resolver'.Agrees →
      ask resolver' ids' config'.domainName .dnskey { state := state' } = (.ok keyReply', first') →
      keyReply'.keyRecords = keyReply.keyRecords → keyReply'.signature? = keyReply.signature? →
        (run check digest' resolver' ids' config' state').1.zskVerified =
          (run check digest resolver ids config state).1.zskVerified) ∧
    ∃ turns finish,
      Sweeps resolver ids config.domainName (Transcript.material keyReply) first turns finish ∧
      turns.map Turn.type = Transcript.sweptTypes ∧
      ((∀ turn ∈ turns, turn.delegations = []) →
        (run check digest resolver ids config state).1.kskVerified = false) ∧
      (∀ before turn after, turns = before ++ turn :: after → turn.delegations ≠ [] →
        (∀ later ∈ after, later.delegations = []) →
          (run check digest resolver ids config state).1.kskVerified =
            (Transcript.material keyReply).agreesWith digest turn.delegations) ∧
      ((∀ key ∈ keyReply.keyRecords.filterMap ZoneKey.ofRecord?, key.key.flags ≠ 257) →
        (∃ turn ∈ turns, turn.delegations ≠ []) →
          (run check digest resolver ids config state).1.kskVerified = true) := by
  have hzsk := Reply.signsItself_iff check (hagree.of_ask (congrArg Prod.fst hkeys))
  obtain ⟨turns, finish, hsweeps, htypes, -⟩ := exists_sweeps_of_keys hkeys
  have hksk := run_kskVerified check digest hagree hkeys hsweeps htypes
  rw [run_zskVerified check digest hkeys, hksk]
  refine ⟨hzsk, ?_, turns, finish, hsweeps, htypes, agreement_of_silent, ?_, ?_⟩
  · intro τ digest' resolver' ids' config' state' keyReply' first' hagree' hkeys' hrecords hsig
    have hzsk' := Reply.signsItself_iff check (hagree'.of_ask (congrArg Prod.fst hkeys'))
    rw [run_zskVerified check digest' hkeys', Bool.eq_iff_iff, hzsk', hzsk]
    exact Reply.SignsItself.congr hrecords hsig
  · rintro before turn after rfl hturn hafter
    exact agreement_of_last hturn hafter
  · intro hflags hsome
    obtain ⟨before, turn, after, rfl, hturn, hafter⟩ := exists_last_delegations hsome
    rw [agreement_of_last hturn hafter]
    exact KeyMaterial.agreesWith_of_no_ksk (KeyMaterial.keys_material ▸ hflags) _

/-- A key set between an address and a second signature, of which a primitive accepts only the
first. Every turn of the sweep brings a delegation that names the key, but the last one brings
another that does not: the key set signs itself, and the delegation does not agree. -/
theorem run_keyFlags_otherDelegation :
    let zone : Name := ⟨["example", "com"]⟩
    let key : Dnskey := { flags := 257, protocol := 3, algorithm := 15, publicKey := [1, 2] }
    let sig : Rrsig :=
      { typeCovered := .dnskey, algorithm := 15, labels := 2, originalTtl := 60, expiration := 2000
        inception := 1000, keyTag := key.keyTag, signerName := zone, signature := [3] }
    let keyReply : Reply :=
      { message :=
          { answers :=
              [.ofRdata zone 60 (.a #v[192, 0, 2, 1]), .ofRdata zone 60 (.rrsig sig),
                .ofRdata zone 60 (.dnskey key),
                .ofRdata zone 60 (.rrsig { sig with signature := [4] })] }
        rtt := .zero }
    let delegated (digest : Bytes) : Reply :=
      { message :=
          { answers :=
              [.ofRdata zone 60
                (.ds { keyTag := key.keyTag, algorithm := 15, digestType := 2, digest })] }
        rtt := .zero }
    let resolver : Resolver Unit :=
      ⟨fun query state =>
        (.ok (if query.questions.all fun q => q.type = .dnskey then keyReply
          else if query.questions.all fun q => q.type = .ds then delegated [6] else delegated [5]),
          state)⟩
    let config : Config :=
      { domain := "example.com", domainName := zone, resolverIp := .v4 #v[192, 0, 2, 53]
        resolverPort := 53, protocol := .udp, timeout := Config.defaultTimeout }
    let check : SignatureCheck := fun _ _ _ signature =>
      if signature = [3] then .ok () else .error .signatureVerificationFailed
    let report := (run check (fun _ _ => [5]) resolver (fun _ => 0) config ()).1
    resolver.Agrees ∧ report.zskVerified = true ∧ report.kskVerified = false := by
  intro zone key sig keyReply delegated resolver config check report
  have hagree : resolver.Agrees := by
    intro query state reply h
    obtain rfl := Except.ok.inj h
    split
    case _ => decide
    case _ =>
        split
        case _ => decide
        case _ => decide
  have hkeys : ask resolver (fun _ => 0) config.domainName .dnskey { state := () } =
    (.ok keyReply, _) := rfl
  obtain ⟨hzsk, -, turns, finish, hsweeps, htypes, -, hlast, -⟩ :=
    run_keyFlags check (fun _ _ => [5]) hagree hkeys
  refine ⟨hagree, ?_, ?_⟩
  · refine hzsk.mpr ⟨{ owner := zone, cls := .internet, ttl := 60, rrsig := sig }, rfl,
      { owner := zone, cls := .internet, key }, List.mem_cons_self, rfl, ?_⟩
    exact verifyRrset_eq_ok_of_accepting (checkKey_eq_ok_iff.mpr ⟨rfl, rfl, rfl, by decide, rfl⟩)
      (by decide) (by decide) rfl fun _ => rfl
  · -- The last swept type is that of delegations, and behind it there is nothing.
    obtain ⟨before, last, rfl, -, hlastType⟩ := List.map_eq_append_iff.mp
      (htypes.trans (List.dropLast_concat_getLast (by decide)).symm)
    obtain ⟨turn, rfl, hds⟩ := List.map_eq_singleton_iff.mp hlastType
    obtain ⟨session, hask⟩ := hsweeps.exists_ask (List.mem_append_right before List.mem_cons_self)
    have houtcome : turn.outcome = .ok (delegated [6]) := by
      have hturn : turn.outcome = (ask resolver (fun _ => 0) zone turn.type session).1 :=
        (congrArg Prod.fst hask).symm
      rw [hturn, hds]
      rfl
    have hdelegations : turn.delegations =
        [{ keyTag := key.keyTag, algorithm := 15, digestType := 2, digest := [6] }] := by
      rw [Turn.delegations, houtcome]
      rfl
    have hne : turn.delegations ≠ [] := hdelegations ▸ List.cons_ne_nil _ _
    have hksk : report.kskVerified = _ :=
      hlast before turn [] rfl hne (fun _ h => absurd h List.not_mem_nil)
    rw [hksk, hdelegations]
    rfl

end Session

end DnsHealth
