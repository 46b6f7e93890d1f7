import DnsHealth.Proofs.Dnssec.KeyMaterial
import DnsHealth.Proofs.Probe.DelegationOwner
import DnsHealth.Proofs.Probe.Sweep

/-!
# The queries of a run

What a run asks for is fixed up to the keys of the registrable domain. The keys of the target come
first; if they are to be had, each swept type follows once, in its place, and the reverse name of
the resolver comes last. Behind a swept type the keys of the registrable domain are asked for
exactly when the answers are signed as a delegation, there are keys, and there is such a domain
(`Session.run_queries`).

A session keeps what was asked for as a list that only grows. One lemma says what an exchange adds
to it, one what a sweep does.
-/

namespace DnsHealth

variable {σ : Type}

/-! ### When a reply calls for keys -/

/-- The first signature among the answers of a reply is over a delegation. It is in the first answer
that is of the type of signatures and holds one. -/
def Reply.SignsDelegation (reply : Reply) : Prop :=
  ∃ before r rrsig after, reply.message.answers = before ++ r :: after ∧
    r.type = .rrsig ∧ r.rdata = .rrsig rrsig ∧ rrsig.typeCovered = .ds ∧
    ∀ q ∈ before, q.type = .rrsig → ∀ other, q.rdata ≠ .rrsig other

/-- Some answer of a reply is of the type of keys and holds one. -/
def Reply.HoldsKey (reply : Reply) : Prop :=
  ∃ r ∈ reply.message.answers, r.type = .dnskey ∧ ∃ key, r.rdata = .dnskey key

theorem Reply.signsDelegation_iff {reply : Reply} : reply.SignsDelegation ↔
    ∃ sig, firstSignature? reply.message.answers = some sig ∧ sig.rrsig.typeCovered = .ds := by
  constructor
  · rintro ⟨before, r, rrsig, after, hanswers, htype, hdata, hcovered, hbefore⟩
    refine ⟨_, firstSignature?_eq_some_iff.mpr ⟨before, r, after, hanswers,
      ⟨htype, SignatureRecord.ofRecord?_eq_some_iff.mpr ⟨rrsig, hdata, rfl⟩⟩, ?_⟩, hcovered⟩
    exact fun q hq hqtype => SignatureRecord.ofRecord?_eq_none_iff.mpr (hbefore q hq hqtype)
  · rintro ⟨sig, hfirst, hcovered⟩
    obtain ⟨before, r, after, hanswers, ⟨htype, hsig⟩, hbefore⟩ :=
      firstSignature?_eq_some_iff.mp hfirst
    obtain ⟨rrsig, hdata, rfl⟩ := SignatureRecord.ofRecord?_eq_some_iff.mp hsig
    exact ⟨before, r, rrsig, after, hanswers, htype, hdata, hcovered,
      fun q hq hqtype => SignatureRecord.ofRecord?_eq_none_iff.mp (hbefore q hq hqtype)⟩

namespace Transcript

variable {target owner : Name} {keyReply : Reply} {outcome : Outcome Reply}

/-- The keys of the registrable domain are asked for when the answers are signed as a delegation,
there are keys, and there is such a domain. -/
theorem delegationQuery?_eq_some_iff :
    delegationQuery? target (material keyReply) outcome = some owner ↔
    (∃ reply, outcome = .ok reply ∧ reply.SignsDelegation) ∧ keyReply.HoldsKey ∧
      delegationOwner? target = some owner := by
  have hholds : (material keyReply).isEmpty = false ↔ keyReply.HoldsKey :=
    KeyMaterial.isEmpty_ofAnswers_eq_false_iff
  cases outcome with
  | error e => exact ⟨nofun, fun ⟨⟨_, h, _⟩, _⟩ => nomatch h⟩
  | ok reply =>
      simp only [Except.ok.injEq, exists_eq_left', Reply.signsDelegation_iff, ← hholds,
        delegationQuery?]
      cases hfirst : firstSignature? reply.message.answers with
      | none => simp
      | some sig =>
          simp only [Option.ite_none_right_eq_some, Option.some.injEq, exists_eq_left']
          exact and_assoc.trans and_left_comm

end Transcript

namespace Session

/-- Queries for names and types, numbered from the supply of ids. -/
def queries (ids : Nat → UInt16) (asked : List (Name × RecordType)) : List Message :=
  asked.mapIdx fun number question => Message.query question.1 question.2 (ids number)

theorem getElem?_queries (ids : Nat → UInt16) (asked : List (Name × RecordType)) (number : Nat) :
    (queries ids asked)[number]? =
      asked[number]?.map fun question => Message.query question.1 question.2 (ids number) :=
  List.getElem?_mapIdx

/-- Each query asks for its name and type in the Internet class, and for nothing else. -/
theorem map_questions_queries (ids : Nat → UInt16) (asked : List (Name × RecordType)) :
    (queries ids asked).map Message.questions =
      asked.map fun question => [{ name := question.1, type := question.2, cls := .internet }] := by
  refine List.ext_getElem? fun number => ?_
  rw [List.getElem?_map, getElem?_queries, List.getElem?_map, Option.map_map]
  rfl

/-- What a turn asks for besides its type: the keys of the registrable domain, or nothing. -/
def Turn.extra (target : Name) (keys : KeyMaterial) (turn : Turn σ) : List (Name × RecordType) :=
  (Transcript.delegationQuery? target keys turn.outcome).toList.map fun owner => (owner, .dnskey)

variable {resolver : Resolver σ} {ids : Nat → UInt16} {target : Name} {keys : KeyMaterial}
  {asked : List (Name × RecordType)}

/-- An exchange sends one query. -/
theorem sent_of_ask {name : Name} {type : RecordType} {session behind : Session σ}
    {outcome : Outcome Reply} (hsent : session.sent = queries ids asked)
    (hask : ask resolver ids name type session = (outcome, behind)) :
    behind.sent = queries ids (asked ++ [(name, type)]) := by
  have hbehind : session.sent ++ [Message.query name type (ids session.sent.length)] =
      behind.sent :=
    congrArg (fun result => result.2.sent) hask
  rw [← hbehind, hsent, queries, queries, List.mapIdx_concat, List.length_mapIdx]

/-- A sweep sends a query for the type of each turn, and right behind it one for keys where they are
called for. -/
theorem Sweeps.sent {start finish : Session σ} {turns : List (Turn σ)}
    (h : Sweeps resolver ids target keys start turns finish)
    (hsent : start.sent = queries ids asked) : finish.sent =
      queries ids (asked ++ turns.flatMap fun turn =>
        (target, turn.type) :: turn.extra target keys) := by
  induction h generalizing asked with
  | done => rw [List.flatMap_nil, List.append_nil, hsent]
  | plain hask hplain _ ih =>
      rw [ih (sent_of_ask hsent hask), List.flatMap_cons, Turn.extra, hplain, List.append_assoc]
      rfl
  | delegated hask howner _ ih =>
      rw [ih (sent_of_ask (sent_of_ask hsent hask) rfl), List.flatMap_cons, Turn.extra, howner,
        List.append_assoc, List.append_assoc]
      rfl

variable (target keys) in
/-- A turn asks for at most two things. -/
theorem length_flatMap_extra_le (turns : List (Turn σ)) :
    (turns.flatMap fun turn => (target, turn.type) :: turn.extra target keys).length ≤
      2 * turns.length := by
  induction turns with
  | nil => exact Nat.le_refl 0
  | cons turn rest ih =>
      have hextra : (turn.extra target keys).length ≤ 1 := by
        rw [Turn.extra, List.length_map]
        cases Transcript.delegationQuery? target keys turn.outcome with
        | none => exact Nat.zero_le 1
        | some owner => exact Nat.le_refl 1
      rw [List.flatMap_cons, List.length_append, List.length_cons, List.length_cons]
      omega

variable {config : Config} {state : σ} {keyReply : Reply} {first finish : Session σ}
  {turns : List (Turn σ)}

/-- The queries of a run whose key exchange fails. -/
theorem run_snd_of_error {e : TransportError} (check : SignatureCheck)
    (digest : DigestType → Bytes → Bytes)
    (hkeys : ask resolver ids config.domainName .dnskey { state } = (.error e, first)) :
    (run check digest resolver ids config state).2 =
    queries ids [(config.domainName, .dnskey)] := by
  have hsent : first.sent = queries ids ([] ++ [(config.domainName, .dnskey)]) :=
    sent_of_ask rfl hkeys
  rw [run_of_error check digest hkeys]
  exact hsent

/-- The queries of a run that sweeps. -/
theorem run_snd_of_sweeps (check : SignatureCheck) (digest : DigestType → Bytes → Bytes)
    (hkeys : ask resolver ids config.domainName .dnskey { state } = (.ok keyReply, first))
    (hsweeps : Sweeps resolver ids config.domainName
      (Transcript.material keyReply) first turns finish)
    (htypes : turns.map Turn.type = Transcript.sweptTypes) :
    (run check digest resolver ids config state).2 =
      queries ids ((config.domainName, .dnskey) ::
        turns.flatMap (fun turn =>
          (config.domainName, turn.type) :: turn.extra config.domainName
          (Transcript.material keyReply)) ++
        [(Name.reversePointer config.resolverIp, .ptr)]) := by
  have hfirst : first.sent = queries ids ([] ++ [(config.domainName, .dnskey)]) :=
    sent_of_ask rfl hkeys
  simp only [run, transcript_of_sweeps hkeys hsweeps htypes]
  exact sent_of_ask (hsweeps.sent hfirst) rfl

/-- No run sends more than twenty-four queries. -/
theorem length_run_snd_le (check : SignatureCheck) (digest : DigestType → Bytes → Bytes)
    (resolver : Resolver σ) (ids : Nat → UInt16) (config : Config) (state : σ) :
    (run check digest resolver ids config state).2.length ≤ 24 := by
  rcases hkeys : ask resolver ids config.domainName .dnskey { state } with ⟨e | keyReply, first⟩
  · rw [run_snd_of_error check digest hkeys, queries, List.length_mapIdx]
    exact Nat.succ_le_succ (Nat.zero_le 23)
  · obtain ⟨turns, finish, hsweeps, htypes⟩ := exists_sweeps resolver ids config.domainName
      (Transcript.material keyReply) Transcript.sweptTypes first
    have heleven := length_of_sweptTypes htypes
    have hswept := length_flatMap_extra_le config.domainName (Transcript.material keyReply) turns
    rw [run_snd_of_sweeps check digest hkeys hsweeps htypes, queries, List.length_mapIdx,
      List.length_append, List.length_cons, List.length_singleton]
    omega

/-- Where the keys of the registrable domain are called for, its text is read as a name and they are
asked for. -/
theorem Turn.exists_extra_eq {turn : Turn σ} {reply : Reply} {text : String} (hvalid : target.Valid)
    (hdotless : target.Dotless) (houtcome : turn.outcome = .ok reply)
    (hsigns : reply.SignsDelegation) (hholds : keyReply.HoldsKey)
    (htext : HostName.registrable? target.fqdn = some text) :
    ∃ owner, Name.parse text = .ok owner ∧
      turn.extra target (Transcript.material keyReply) = [(owner, .dnskey)] := by
  obtain ⟨owner, hparse⟩ := HostName.exists_parse_of_registrable? hvalid.1 hdotless htext
  have hquery := Transcript.delegationQuery?_eq_some_iff.mpr ⟨⟨reply, houtcome, hsigns⟩, hholds,
    Transcript.delegationOwner?_eq_some_iff.mpr ⟨text, htext, hparse⟩⟩
  exact ⟨owner, hparse, by rw [extra, hquery]; rfl⟩

/-- Nothing else makes a turn ask for more than its type. -/
theorem Turn.signs_of_extra_ne_nil {turn : Turn σ}
    (h : turn.extra target (Transcript.material keyReply) ≠ []) :
    ∃ reply text, turn.outcome = .ok reply ∧ reply.SignsDelegation ∧ keyReply.HoldsKey ∧
      HostName.registrable? target.fqdn = some text := by
  cases hquery : Transcript.delegationQuery? target (Transcript.material keyReply) turn.outcome with
  | none => exact absurd (by rw [extra, hquery]; rfl) h
  | some owner =>
      obtain ⟨⟨reply, houtcome, hsigns⟩, hholds, howner⟩ :=
        Transcript.delegationQuery?_eq_some_iff.mp hquery
      obtain ⟨text, htext, -⟩ := Transcript.delegationOwner?_eq_some_iff.mp howner
      exact ⟨reply, text, houtcome, hsigns, hholds, htext⟩

/-- **What a run asks for.** A run whose key exchange fails asks for nothing else, and any other run
asks for the keys of the target, for each of eleven different types in its place and for the reverse
name of the resolver, each with one question in the Internet class. Behind a swept type it asks for
the keys of the registrable domain when the answers are signed as a delegation, there are keys, and
there is such a domain, and only then. -/
theorem run_queries {toAscii : String → Option String} {written : String} (check : SignatureCheck)
    (digest : DigestType → Bytes → Bytes) (resolver : Resolver σ) (ids : Nat → UInt16)
    (config : Config) (state : σ)
    (hdomain : Config.domainName? toAscii written = some config.domainName) :
    (run check digest resolver ids config state).2.length ≤ 24 ∧
    (∀ e first, ask resolver ids config.domainName .dnskey { state } = (.error e, first) →
      (run check digest resolver ids config state).2 = queries ids [(config.domainName, .dnskey)] ∧
      (run check digest resolver ids config state).2.map Message.questions =
        [[{ name := config.domainName, type := .dnskey, cls := .internet }]]) ∧
    ∀ keyReply first,
      ask resolver ids config.domainName .dnskey { state } = (.ok keyReply, first) →
      ∃ turns finish,
        Sweeps resolver ids config.domainName (Transcript.material keyReply) first turns finish ∧
        turns.map Turn.type = Transcript.sweptTypes ∧
        (turns.map fun turn => turn.type.code) = [1, 28, 5, 15, 2, 12, 6, 16, 33, 99, 43] ∧
        (turns.map Turn.type).Nodup ∧
        ∃ (extra : Turn σ → List (Name × RecordType)) (asked : List (Name × RecordType)),
          asked = (config.domainName, .dnskey) ::
            turns.flatMap (fun turn => (config.domainName, turn.type) :: extra turn) ++
            [(Name.reversePointer config.resolverIp, .ptr)] ∧
          (run check digest resolver ids config state).2 = queries ids asked ∧
          (run check digest resolver ids config state).2.map Message.questions = asked.map
            (fun question => [{ name := question.1, type := question.2, cls := .internet }]) ∧
          ∀ turn ∈ turns,
            (∀ reply text, turn.outcome = .ok reply → reply.SignsDelegation → keyReply.HoldsKey →
              HostName.registrable? config.domainName.fqdn = some text →
                ∃ owner, Name.parse text = .ok owner ∧ extra turn = [(owner, .dnskey)]) ∧
            (extra turn ≠ [] → ∃ reply text, turn.outcome = .ok reply ∧ reply.SignsDelegation ∧
              keyReply.HoldsKey ∧
              HostName.registrable? config.domainName.fqdn = some text) := by
  obtain ⟨hvalid, hdotless⟩ := Config.valid_dotless_of_domainName? hdomain
  refine ⟨length_run_snd_le check digest resolver ids config state, ?_, ?_⟩
  · intro e first hkeys
    rw [run_snd_of_error check digest hkeys, map_questions_queries]
    exact ⟨rfl, rfl⟩
  · intro keyReply first hkeys
    obtain ⟨turns, finish, hsweeps, htypes⟩ := exists_sweeps resolver ids config.domainName
      (Transcript.material keyReply) Transcript.sweptTypes first
    have hcodes : (turns.map Turn.type).map RecordType.code = _ := congrArg _ htypes
    rw [List.map_map] at hcodes
    refine ⟨turns, finish, hsweeps, htypes, hcodes, htypes ▸ by decide,
      Turn.extra config.domainName (Transcript.material keyReply), _, rfl,
      run_snd_of_sweeps check digest hkeys hsweeps htypes, ?_, ?_⟩
    · rw [run_snd_of_sweeps check digest hkeys hsweeps htypes, map_questions_queries]
    · refine fun turn _ => ⟨?_, Turn.signs_of_extra_ne_nil⟩
      intro reply text houtcome hsigns hholds htext
      exact Turn.exists_extra_eq hvalid hdotless houtcome hsigns hholds htext

/-- A resolver that signs everything as a delegation makes a run ask for keys behind every type, and
so for twenty-four things; one that does not answer is asked once. -/
theorem run_queries_everySigned :
    let zone : Name := ⟨["example", "com"]⟩
    let sig : Rrsig :=
      { typeCovered := .ds, algorithm := 15, labels := 2, originalTtl := 60, expiration := 2000
        inception := 1000, keyTag := 7, signerName := zone, signature := [3] }
    let key : Dnskey := { flags := 257, protocol := 3, algorithm := 15, publicKey := [1, 2] }
    let reply : Reply :=
      { message := { answers := [.ofRdata zone 60 (.dnskey key), .ofRdata zone 60 (.rrsig sig)] }
        rtt := .zero }
    let config : Config :=
      { domain := "www.example.com", domainName := ⟨["www", "example", "com"]⟩
        resolverIp := .v4 #v[192, 0, 2, 53], resolverPort := 53, protocol := .udp
        timeout := Config.defaultTimeout }
    let sent := fun outcome : Outcome Reply =>
      (run (fun _ _ _ _ => .ok ()) (fun _ _ => []) ⟨fun _ state => (outcome, state)⟩
        (fun _ => 0) config ()).2
    (sent (.ok reply)).length = 24 ∧
      sent (.error .timeout) = [Message.query ⟨["www", "example", "com"]⟩ .dnskey 0] := by
  intro zone sig key reply config sent
  have hdomain : Config.domainName? some "www.example.com" = some ⟨["www", "example", "com"]⟩ := by
    decide +kernel
  have htext : HostName.registrable? (⟨["www", "example", "com"]⟩ : Name).fqdn =
      some "example.com" := by
    decide +kernel
  have hsigns : reply.SignsDelegation := by
    refine ⟨[.ofRdata zone 60 (.dnskey key)], .ofRdata zone 60 (.rrsig sig), sig, [], rfl, rfl, rfl,
      rfl, ?_⟩
    intro q hq htype
    obtain rfl := List.mem_singleton.mp hq
    exact absurd htype (by decide)
  have hholds : reply.HoldsKey :=
    ⟨.ofRdata zone 60 (.dnskey key), List.mem_cons_self, rfl, key, rfl⟩
  have hrun := fun outcome : Outcome Reply => run_queries (fun _ _ _ _ => .ok ()) (fun _ _ => [])
    ⟨fun _ state => (outcome, state)⟩ (fun _ => 0) config () hdomain
  refine ⟨?_, ((hrun (.error .timeout)).2.1 _ _ rfl).1⟩
  obtain ⟨turns, finish, hsweeps, htypes, -, -, extra, asked, rfl, hsent, -, hextra⟩ :=
    (hrun (.ok reply)).2.2 reply _ rfl
  have htwo : ∀ turn ∈ turns, ((config.domainName, turn.type) :: extra turn).length = 2 := by
    intro turn hturn
    obtain ⟨session, hask⟩ := hsweeps.exists_ask hturn
    obtain ⟨owner, -, howner⟩ :=
      (hextra turn hturn).1 reply _ (congrArg Prod.fst hask).symm hsigns hholds htext
    rw [howner]
    rfl
  have hsent : sent (.ok reply) = _ := hsent
  rw [hsent, queries, List.length_mapIdx, List.length_append, List.length_cons, List.length_flatMap,
    List.map_congr_left htwo, List.map_const', length_of_sweptTypes htypes]
  rfl

end Session

end DnsHealth
