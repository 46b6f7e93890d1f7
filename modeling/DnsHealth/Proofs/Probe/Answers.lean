import DnsHealth.Proofs.Message.Sections
import DnsHealth.Proofs.Probe.Flags

/-!
# The answers of a report

A report lists the answers of the sweep, turn by turn and in the order of each response. Which
answers it lists is a matter of their data alone: all but keys, signatures and data of a type that
nothing interprets (`Rdata.isShown`). For this the type of a record must agree with its data, as it
does in every message that was read; then nothing is lost or invented when signatures are taken out
by type and the others by data (`Session.run_reported`).
-/

namespace DnsHealth

variable {σ : Type}

/-! ### What a report shows -/

/-- The data that a report shows. -/
def Rdata.isShown : Rdata → Bool
  | .a _ | .aaaa _ | .cname _ | .ns _ | .ptr _ | .mx _ _ | .soa _ | .txt _ | .spf _ | .srv _
  | .ds _ => true
  | .dnskey _ | .rrsig _ | .unknown _ _ => false

theorem Rdata.isSome_payload? (rdata : Rdata) : rdata.payload?.isSome = rdata.isShown := by
  cases rdata <;> rfl

/-- Data of signature type is not shown. -/
theorem Rdata.isShown_of_type {rdata : Rdata} (h : rdata.type = .rrsig) :
    rdata.isShown = false := by
  cases rdata with
  | dnskey _ | rrsig _ | unknown _ _ => rfl
  | _ => exact absurd h (by simp only [Rdata.type]; decide)

/-- A reported answer tells of a record in a reply: its type, TTL and data, with the full response
code and the time of the reply. The full response code has the bits of the EDNS content above those
of the header. -/
structure ReportedAnswer.TellsOf (answer : ReportedAnswer) (reply : Reply) (record : Record) :
    Prop where
  rcode : answer.rcode = responseCodeName (UInt16.ofNat
    ((reply.message.edns.map fun edns => edns.extendedRcode.toNat).getD 0 * 16 +
      reply.message.header.rcode.toNat))
  type : answer.type = record.type.name
  ttl : answer.ttl = record.ttl
  responseTime : answer.responseTime = reply.rtt.text
  rdata : record.rdata.payload? = some answer.rdata

/-! ### Messages that were read -/

namespace Message

variable {bytes : Bytes} {message : Message}

theorem type_of_ofWire (h : ofWire bytes = .ok message) :
    ∀ r ∈ message.answers, r.type = r.rdata.type := by
  intro r hr
  obtain ⟨sections, hwell, hx⟩ := exists_sections_of_ofWire h
  rw [hx.answers] at hr
  exact (hwell.records r (List.mem_append_left _ (List.mem_append_left _ hr))).type

/-- The bits of the header and the bits above them do not overlap. -/
theorem rcode_of_fits (h : message.header.Fits) : message.rcode =
    UInt16.ofNat ((message.edns.map fun edns => edns.extendedRcode.toNat).getD 0 * 16 +
      message.header.rcode.toNat) := by
  have hrcode : message.header.rcode.toNat < Nat.pow 2 4 := h.2.2
  rw [rcode, ← UInt16.ofNat_or, Nat.mul_comm]
  exact congrArg UInt16.ofNat (Nat.two_pow_add_eq_or_of_lt hrcode _).symm

theorem rcodeName_of_ofWire (h : ofWire bytes = .ok message) :
    message.rcodeName = responseCodeName
      (UInt16.ofNat ((message.edns.map fun edns => edns.extendedRcode.toNat).getD 0 * 16 +
      message.header.rcode.toNat)) := by
  obtain ⟨sections, hwell, hx⟩ := exists_sections_of_ofWire h
  rw [rcodeName, rcode_of_fits (hx.header ▸ hwell.fits)]

end Message

/-! ### The answers of a response -/

namespace ReportedAnswer

variable {reply : Reply} {record : Record} {records : List Record} {rcode : String} {rtt : Duration}
  {verified : Bool}

theorem ofRecord?_eq_none (h : record.rdata.isShown = false) :
    ofRecord? rcode rtt verified record = none := by
  rw [← Rdata.isSome_payload?, Option.isSome_eq_false_iff, Option.isNone_iff_eq_none] at h
  rw [ofRecord?, h, Option.map_none]

theorem exists_ofRecord? (h : record.rdata.isShown = true) :
    ∃ rdata, record.rdata.payload? = some rdata ∧
      ofRecord? rcode rtt verified record =
        some { rcode, type := record.type.name, ttl := record.ttl, responseTime := rtt.text, rdata
               dnssecVerified := verified } := by
  rw [← Rdata.isSome_payload?] at h
  obtain ⟨rdata, hrdata⟩ := Option.isSome_iff_exists.mp h
  exact ⟨rdata, hrdata, by rw [ofRecord?, hrdata, Option.map_some]⟩

/-- Taking out signatures by their type does not change which answers are reported. -/
theorem ofRecords_withoutSignatures (h : ∀ r ∈ records, r.type = r.rdata.type) :
    ofRecords rcode (withoutSignatures records) rtt verified =
      ofRecords rcode records rtt verified := by
  rw [ofRecords, ofRecords, withoutSignatures, List.filterMap_filter]
  refine List.filterMap_congr fun r hr => ?_
  by_cases htype : r.type = .rrsig
  · have hhidden := Rdata.isShown_of_type ((h r hr).symm.trans htype)
    rw [if_neg (by simp [htype]), ofRecord?_eq_none hhidden]
  · rw [if_pos (by simp [htype])]

/-- Each record whose data is shown has one reported answer, in its place, and no other record has
any. -/
theorem forall₂_ofRecords {bytes : Bytes} (hread : Message.ofWire bytes = .ok reply.message)
    (records : List Record) :
    List.Forall₂ (fun record answer =>
        TellsOf answer reply record ∧ answer.dnssecVerified = verified)
      (records.filter fun r => r.rdata.isShown)
      (ofRecords reply.message.rcodeName records reply.rtt verified) := by
  induction records with
  | nil => exact .nil
  | cons r rest ih =>
      cases hshown : r.rdata.isShown with
      | true =>
          obtain ⟨rdata, hrdata, hanswer⟩ := exists_ofRecord? hshown
          rw [List.filter_cons, if_pos hshown, ofRecords, List.filterMap_cons_some hanswer]
          exact .cons ⟨⟨Message.rcodeName_of_ofWire hread, rfl, rfl, rfl, hrdata⟩, rfl⟩ ih
      | false =>
          rw [List.filter_cons, if_neg (Bool.eq_false_iff.mp hshown), ofRecords,
            List.filterMap_cons_none (ofRecord?_eq_none hshown)]
          exact ih

end ReportedAnswer

/-! ### The answers of a run -/

/-- Every message that a resolver answers with was read from a byte string. -/
def Resolver.ReadsReplies (resolver : Resolver σ) : Prop :=
  ∀ query state reply, (resolver.answer query state).1 = .ok reply →
    ∃ bytes, Message.ofWire bytes = .ok reply.message

theorem Resolver.ReadsReplies.agrees {resolver : Resolver σ} (h : resolver.ReadsReplies) :
    resolver.Agrees := by
  intro query state reply hreply
  obtain ⟨bytes, hread⟩ := h query state reply hreply
  exact Message.type_of_ofWire hread

namespace Session

/-- A turn contributes each answer whose data is shown, in its place, and nothing else. -/
theorem Turn.forall₂_reported {turn : Turn σ} {reply : Reply} {bytes : Bytes}
    (hread : Message.ofWire bytes = .ok reply.message) (houtcome : turn.outcome = .ok reply)
    (verified : Bool) :
    List.Forall₂ (fun record answer =>
        answer.TellsOf reply record ∧ answer.dnssecVerified = verified)
      (reply.message.answers.filter fun record => record.rdata.isShown)
      (turn.reported verified) := by
  have hplain : turn.reported verified = ReportedAnswer.ofRecords reply.message.rcodeName
      reply.message.answers reply.rtt verified := by
    simp only [reported, houtcome]
    exact ReportedAnswer.ofRecords_withoutSignatures (Message.type_of_ofWire hread)
  rw [hplain]
  exact ReportedAnswer.forall₂_ofRecords hread reply.message.answers

/-- **Which answers a report lists.** A run that got keys reports, turn by turn, each answer whose
data is shown exactly once and in the order of the response, and nothing else. All reported answers
of a turn have one flag, which says whether some signature and key verify the turn. Without keys
nothing is reported. -/
theorem run_reported (check : SignatureCheck) (digest : DigestType → Bytes → Bytes)
    (resolver : Resolver σ) (ids : Nat → UInt16) (config : Config) (state : σ)
    (hreads : resolver.ReadsReplies) :
    (∀ e first, ask resolver ids config.domainName .dnskey { state } = (.error e, first) →
      (run check digest resolver ids config state).1.answers = []) ∧
    ∀ keyReply first, ask resolver ids config.domainName .dnskey { state } = (.ok keyReply, first) →
      ∃ turns finish,
        Sweeps resolver ids config.domainName (Transcript.material keyReply) first turns finish ∧
        turns.map Turn.type = Transcript.sweptTypes ∧
        ∃ reported : Turn σ → List ReportedAnswer,
          (run check digest resolver ids config state).1.answers = turns.flatMap reported ∧
          ∀ turn ∈ turns,
            (∀ e, turn.outcome = .error e → reported turn = []) ∧
            ∀ reply, turn.outcome = .ok reply →
              ∃ verified : Bool,
                List.Forall₂ (fun record answer =>
                    answer.TellsOf reply record ∧ answer.dnssecVerified = verified)
                  (reply.message.answers.filter fun record => record.rdata.isShown)
                  (reported turn) ∧
                (verified = true ↔ ∃ sig key, turn.VerifiedBy resolver ids config.domainName check
                  (keyReply.message.answers.filterMap ZoneKey.ofRecord?)
                  reply.message.answers sig key) := by
  refine ⟨?_, ?_⟩
  · intro e first hkeys
    rw [run_of_error check digest hkeys]
  · intro keyReply first hkeys
    obtain ⟨turns, finish, hsweeps, htypes, htranscript⟩ := exists_sweeps_of_keys hkeys
    refine ⟨turns, finish, hsweeps, htypes, fun turn => turn.reported
      (turn.flag resolver ids config.domainName (Transcript.material keyReply) check), ?_, ?_⟩
    · simp only [run, htranscript, Report.ofTranscript, List.flatMap_map, Turn.slotAnswers_slot]
    · intro turn hturn
      obtain ⟨session, hask⟩ := hsweeps.exists_ask hturn
      refine ⟨fun e houtcome => by simp only [Turn.reported, houtcome], fun reply houtcome => ?_⟩
      obtain ⟨bytes, hread⟩ := hreads _ _ reply ((congrArg Prod.fst hask).trans houtcome)
      have hfetched : (Transcript.material keyReply).keys =
          keyReply.message.answers.filterMap ZoneKey.ofRecord? :=
        KeyMaterial.keys_ofAnswers (hreads.agrees.of_ask (congrArg Prod.fst hkeys))
      exact ⟨_, Turn.forall₂_reported hread houtcome _,
        hfetched ▸ Turn.flag_eq_true_iff houtcome (Message.type_of_ofWire hread)⟩

/-- A response with an address, data of a type that nothing interprets, an address among the
authorities and an extended response code. Every turn of a run contributes the one address among the
answers. -/
theorem run_reported_badVersion :
    let message : Message :=
      { header :=
          { id := 1, response := true, recursionDesired := true, recursionAvailable := true
            answerCount := 2, authorityCount := 1, additionalCount := 1 }
        answers :=
          [.ofRdata .root 60 (.unknown ⟨13⟩ [7]), .ofRdata .root 60 (.a #v[192, 0, 2, 1])]
        authorities := [.ofRdata .root 60 (.a #v[192, 0, 2, 2])]
        edns := some { payloadSize := 4096, extendedRcode := 1 } }
    let resolver : Resolver Unit := ⟨fun _ state => (.ok { message, rtt := ⟨1500000⟩ }, state)⟩
    let config : Config :=
      { domain := "example.com", domainName := ⟨["example", "com"]⟩,
        resolverIp := .v4 #v[192, 0, 2, 53]
        resolverPort := 53, protocol := .udp, timeout := Config.defaultTimeout }
    let answers :=
      (run (fun _ _ _ _ => .ok ()) (fun _ _ => []) resolver (fun _ => 0) config ()).1.answers
    resolver.ReadsReplies ∧ answers.length = 11 ∧ ∀ answer ∈ answers, answer =
      { rcode := "BADVERS", type := "A", ttl := 60, responseTime := "1.5ms", rdata := "192.0.2.1"
        dnssecVerified := false } := by
  intro message resolver config answers
  have hread : Message.ofWire [0, 1, 129, 128, 0, 0, 0, 2, 0, 1, 0, 1,
      0, 0, 13, 0, 1, 0, 0, 0, 60, 0, 1, 7,
      0, 0, 1, 0, 1, 0, 0, 0, 60, 0, 4, 192, 0, 2, 1,
      0, 0, 1, 0, 1, 0, 0, 0, 60, 0, 4, 192, 0, 2, 2,
      0, 0, 41, 16, 0, 1, 0, 0, 0, 0, 0] = .ok message := by decide +kernel
  have hreads : resolver.ReadsReplies := by
    intro query state reply h
    obtain rfl := Except.ok.inj h
    exact ⟨_, hread⟩
  obtain ⟨turns, finish, hsweeps, htypes, reported, hanswers, hturns⟩ :=
    (run_reported (fun _ _ _ _ => .ok ()) (fun _ _ => []) resolver (fun _ => 0) config ()
      hreads).2 _ _ rfl
  have hreported : ∀ turn ∈ turns, reported turn =
      [{ rcode := "BADVERS", type := "A", ttl := 60, responseTime := "1.5ms", rdata := "192.0.2.1"
         dnssecVerified := false }] := by
    intro turn hturn
    obtain ⟨session, hask⟩ := hsweeps.exists_ask hturn
    obtain ⟨verified, hforall, hverified⟩ := (hturns turn hturn).2 _ (congrArg Prod.fst hask).symm
    -- There are no keys, so nothing is verified; and one answer only is of a kind that is shown.
    have hfalse : verified = false := by
      refine Bool.eq_false_iff.mpr fun htrue => ?_
      obtain ⟨sig, key, hkey⟩ := hverified.mp htrue
      exact hkey.keyed rfl
    have hpayload : (Rdata.a #v[192, 0, 2, 1]).payload? = some "192.0.2.1" := by decide +kernel
    have hshown : message.answers.filter (fun record => record.rdata.isShown) =
        [.ofRdata .root 60 (.a #v[192, 0, 2, 1])] := rfl
    rw [hshown] at hforall
    generalize reported turn = found at hforall
    cases hforall with
    | @cons _ answer _ _ htells hrest =>
        cases hrest
        obtain ⟨rcode, type, ttl, responseTime, rdata, flag⟩ := answer
        obtain ⟨⟨hrcode, htype, httl, htime, hrdata⟩, hflag⟩ := htells
        obtain rfl : rcode = "BADVERS" := hrcode
        obtain rfl : type = "A" := htype
        obtain rfl : ttl = 60 := httl
        obtain rfl : responseTime = "1.5ms" := htime.trans (by decide +kernel)
        obtain rfl : "192.0.2.1" = rdata := Option.some.inj (hpayload.symm.trans hrdata)
        obtain rfl : flag = false := hflag.trans hfalse
        rfl
  have hanswers : answers = turns.flatMap reported := hanswers
  refine ⟨hreads, ?_, ?_⟩
  · have hone : ∀ turn ∈ turns, (reported turn).length = 1 := by
      intro turn hturn
      rw [hreported turn hturn, List.length_singleton]
    rw [hanswers, List.length_flatMap, List.map_congr_left hone, List.map_const',
      length_of_sweptTypes htypes]
    rfl
  · intro answer hanswer
    rw [hanswers] at hanswer
    obtain ⟨turn, hturn, hmem⟩ := List.mem_flatMap.mp hanswer
    rw [hreported turn hturn] at hmem
    exact List.mem_singleton.mp hmem

end Session

end DnsHealth
