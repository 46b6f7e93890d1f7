import DnsHealth.Config
import DnsHealth.Dnssec.KeyMaterial
import DnsHealth.Message
import DnsHealth.Name
import DnsHealth.Transport.Error

/-!
# Transcripts

A run of the probe asks for the keys of the target, then for each of eleven record types, and last
for the host name of the resolver. When the answer to a swept type is signed as a delegation, the
keys of the registrable domain are asked for right behind it. Without the keys of the target the run
ends at once.

A transcript is what came back. `Transcript.collect` asks, in any monad; it decides what to ask from
what it has seen and from nothing else. What the answers mean is decided from the transcript alone.
-/

namespace DnsHealth

/-- A response and the time that it took. -/
structure Reply where
  message : Message
  rtt : Duration
  deriving DecidableEq, Repr, Inhabited

/-- The outcome of one swept type. -/
structure Slot where
  type : RecordType
  outcome : Outcome Reply
  /-- The outcome of the key query for the registrable domain, if there was one. -/
  delegation : Option (Outcome Reply)

/-- What came back in one run. -/
inductive Transcript where
  /-- The keys of the target were not to be had. -/
  | keyless (error : TransportError)
  /-- The reply to the key query, the swept types, and the outcome of the reverse look-up. -/
  | swept (keys : Reply) (slots : List Slot) (reverse : Outcome Reply)

namespace Transcript

/-- The swept types, in their order. -/
def sweptTypes : List RecordType :=
  [.a, .aaaa, .cname, .mx, .ns, .ptr, .soa, .txt, .srv, .spf, .ds]

/-- The key material in the reply to a key query. -/
def material (reply : Reply) : KeyMaterial :=
  KeyMaterial.ofAnswers reply.message.answers

/-- The domain whose keys sign the delegation of a target. -/
def delegationOwner? (target : Name) : Option Name :=
  (HostName.registrable? target.fqdn).bind fun text => (Name.parse text).toOption

/-- The domain whose keys must be asked for after a swept type: a response was signed as a
delegation, and there are keys at all. -/
def delegationQuery? (target : Name) (keys : KeyMaterial) : Outcome Reply → Option Name
  | .error _ => none
  | .ok reply =>
    match firstSignature? reply.message.answers with
    | none => none
    | some sig =>
      if keys.isEmpty = false ∧ sig.rrsig.typeCovered = .ds then delegationOwner? target else none

section

variable {m : Type → Type} [Monad m] (ask : Name → RecordType → m (Outcome Reply))

/-- Ask for each of some types. -/
def sweep (target : Name) (keys : KeyMaterial) : List RecordType → m (List Slot)
  | [] => pure []
  | type :: types => do
    let outcome ← ask target type
    let delegation ←
      match delegationQuery? target keys outcome with
      | some owner => some <$> ask owner .dnskey
      | none => pure none
    let slots ← sweep target keys types
    pure ({ type, outcome, delegation } :: slots)

/-- Ask everything. -/
def collect (target : Name) (resolver : Address) : m Transcript := do
  match ← ask target .dnskey with
  | .error e => pure (.keyless e)
  | .ok keys =>
    let slots ← sweep ask target (material keys) sweptTypes
    let reverse ← ask (Name.reversePointer resolver) .ptr
    pure (.swept keys slots reverse)

end

end Transcript

end DnsHealth
