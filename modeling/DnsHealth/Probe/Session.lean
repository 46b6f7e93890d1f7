import DnsHealth.Probe.Assessment

/-!
# Sessions

A session is a run of the probe against a resolver of any behaviour. The resolver has a state, which
an answer may change. The session numbers its queries from a supply of ids and keeps every query
that it sends, in order; none is sent twice over.
-/

namespace DnsHealth

/-- A resolver: how it answers a query in a state. -/
structure Resolver (σ : Type) where
  answer : Message → σ → Outcome Reply × σ

/-- The state of the resolver, and the queries sent so far. -/
structure Session (σ : Type) where
  state : σ
  sent : List Message := []

namespace Session

variable {σ : Type}

/-- Send a query for a name and type. Its id is taken from the supply by the number of queries
before. -/
def ask (resolver : Resolver σ) (ids : Nat → UInt16) (name : Name) (type : RecordType) :
    StateM (Session σ) (Outcome Reply) :=
  fun session =>
    let query := Message.query name type (ids session.sent.length)
    let (outcome, state) := resolver.answer query session.state
    (outcome, { state, sent := session.sent ++ [query] })

/-- The transcript of a run, and the session afterwards. -/
def transcript (resolver : Resolver σ) (ids : Nat → UInt16) (config : Config) (state : σ) :
    Transcript × Session σ :=
  (Transcript.collect (ask resolver ids) config.domainName config.resolverIp).run { state }

/-- A run of the probe: the report and the queries sent. -/
def run (check : SignatureCheck) (digest : DigestType → Bytes → Bytes) (resolver : Resolver σ)
    (ids : Nat → UInt16) (config : Config) (state : σ) : Report × List Message :=
  let (transcript, session) := transcript resolver ids config state
  (Report.ofTranscript check digest config transcript, session.sent)

end Session

end DnsHealth
