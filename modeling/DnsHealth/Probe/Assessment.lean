import DnsHealth.Probe.Report
import DnsHealth.Probe.Transcript

/-!
# Assessment of transcripts

The report on a transcript. Each part of it has a function of its own: the verdict and the response
time look only at how the swept types went, each slot gives its own answers and their flag, and the
flag of the delegation is that of the last slot that has something to say about it.

The signature primitive and the delegation digest are parameters.
-/

namespace DnsHealth

/-! ## Verdict and response time -/

namespace Verdict

/-- The verdict that one failure amounts to. -/
def ofError : TransportError → Verdict
  | .timeout => .timeout
  | .connectionFailed _ => .connectionFailed

/-- The error of an outcome. -/
def error? {α : Type} : Outcome α → Option TransportError
  | .ok _ => none
  | .error e => some e

/-- The verdict on the outcomes of a sweep: when all failed, the last failure counts. -/
def ofOutcomes {α : Type} (outcomes : List (Outcome α)) : Verdict :=
  let succeeded := outcomes.any Except.isOk
  match (outcomes.filterMap error?).getLast? with
  | none => if succeeded then .success else .unset
  | some e => if succeeded then .partialFailure else ofError e

end Verdict

namespace Slot

/-- The reply of a slot whose exchange succeeded. -/
def reply? (slot : Slot) : Option Reply :=
  slot.outcome.toOption

end Slot

namespace Assessment

/-- The whole milliseconds of the successful exchanges, each cut before adding. -/
def sweepMillis (slots : List Slot) : Nat :=
  ((slots.filterMap Slot.reply?).map fun reply => reply.rtt.millis).foldr (· + ·) 0

/-! ## Answers -/

/-- The keys of a successful reply to the key query for the registrable domain. -/
def delegationKeys : Option (Outcome Reply) → List ZoneKey
  | some (.ok reply) => reply.message.answers.filterMap ZoneKey.ofRecord?
  | _ => []

/-- The answers of a slot are covered by their first signature under some key: a zone key of the
target, or for a delegation any key of the registrable domain. -/
def verifiesAnswers (check : SignatureCheck) (keys : KeyMaterial)
    (delegation : Option (Outcome Reply)) (answers : List Record) : Bool :=
  match firstSignature? answers with
  | none => false
  | some sig =>
    if keys.isEmpty then false
    else
      let candidates :=
        if sig.rrsig.typeCovered = .ds then delegationKeys delegation else keys.zoneKeys
      candidates.any fun key => verifiesRrset check sig key (withoutSignatures answers)

/-- The reported answers of a slot. -/
def slotAnswers (check : SignatureCheck) (keys : KeyMaterial) (slot : Slot) :
    List ReportedAnswer :=
  match slot.outcome with
  | .error _ => []
  | .ok reply =>
    let answers := reply.message.answers
    ReportedAnswer.ofRecords reply.message.rcodeName (withoutSignatures answers) reply.rtt
      (verifiesAnswers check keys slot.delegation answers)

/-! ## Delegation -/

/-- The delegation of a record, if it holds one. -/
def delegation? (record : Record) : Option Ds :=
  match record.rdata with
  | .ds ds => some ds
  | _ => none

/-- What a slot says about the delegation: nothing without delegation records. -/
def slotAgreement? (digest : DigestType → Bytes → Bytes) (keys : KeyMaterial) (slot : Slot) :
    Option Bool :=
  match slot.outcome with
  | .error _ => none
  | .ok reply =>
    match (withoutSignatures reply.message.answers).filterMap delegation? with
    | [] => none
    | records => some (keys.agreesWith digest records)

/-! ## Resolver -/

/-- The host name that a record gives, if it gives one. -/
def pointerTarget? (record : Record) : Option Name :=
  match record.rdata with
  | .ptr target => some target
  | _ => none

/-- The host name of the resolver: the first one in the answers to the reverse look-up. -/
def hostName : Outcome Reply → String
  | .error _ => ""
  | .ok reply => ((reply.message.answers.findSome? pointerTarget?).map Name.fqdn).getD ""

end Assessment

/-! ## Report -/

/-- The report on a transcript. -/
def Report.ofTranscript (check : SignatureCheck) (digest : DigestType → Bytes → Bytes)
    (config : Config) : Transcript → Report
  | .keyless _ => { domain := config.domain, verdict := .connectionFailed }
  | .swept reply slots reverse =>
    let keys := Transcript.material reply
    { domain := config.domain
      verdict := Verdict.ofOutcomes (slots.map Slot.outcome)
      resolverName := Assessment.hostName reverse
      resolverIp := config.resolverIp.text
      resolverPort := toString config.resolverPort.toNat
      resolverProtocol := config.protocol.name
      responseTime := toString (Assessment.sweepMillis slots)
      answers := slots.flatMap (Assessment.slotAnswers check keys)
      zskVerified := keys.signsItself check
      kskVerified :=
        ((slots.filterMap (Assessment.slotAgreement? digest keys)).getLast?).getD false }

end DnsHealth
