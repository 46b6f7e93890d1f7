import DnsHealth.Proofs.Message.Query
import DnsHealth.Proofs.Name.Reverse
import DnsHealth.Proofs.Probe.Queries
import DnsHealth.Transport.Client

/-!
# What a run hands to the transport

A run asks about three names only: the target, its registrable domain and the reverse name of the
resolver. Each keeps the limits, the first because it was checked, the second because it is made of
last labels of the first, and the third by its construction. So every query of a run has a form,
which is short and is read as that query (`Session.run_sendable`), and the transport never fails
before the peer had its turn.
-/

namespace DnsHealth

/-! ### Queries that can be sent -/

namespace Client

/-- The outcome of an exchange as far as the peer decides it. -/
def peerOutcome (protocol : Protocol) (id : UInt16) : Peer → Outcome Message
  | .unreachable text => .error (.connectionFailed text)
  | .answering sends closes =>
    match protocol with
    | .udp => Datagram.select id sends
    | .tcp => Stream.response id (cutShort closes) sends
    | .tls => .error noHandshake

variable {query : Message} {form : Bytes}

/-- A query whose form fits a frame leaves the outcome to the peer. -/
theorem exchange_of_wire (hwire : query.wire = .ok form) (hlength : form.length ≤ Stream.maxLength)
    (protocol : Protocol) (peer : Peer) :
    exchange protocol query peer = peerOutcome protocol query.header.id peer := by
  rw [exchange, hwire]
  cases peer with
  | unreachable text => rfl
  | answering sends closes =>
      cases protocol with
      | udp => rfl
      | tcp =>
          dsimp only
          rw [Stream.exchange, if_pos hlength]
          rfl
      | tls => rfl

end Client

/-! ### Names that a run asks about -/

/-- A name that a run may ask about. -/
inductive Config.Subject (config : Config) : Name → Prop
  | target : Subject config config.domainName
  | zone {owner : Name} {text : String}
      (htext : HostName.registrable? config.domainName.fqdn = some text)
      (hparse : Name.parse text = .ok owner) : Subject config owner
  | resolver : Subject config (Name.reversePointer config.resolverIp)

namespace Config

variable {config : Config} {toAscii : String → Option String} {settings : Settings} {name : Name}

/-- Settings are accepted when each check has a result, and these make the configuration. -/
theorem ofSettings_eq_ok_iff : ofSettings toAscii settings = .ok config ↔
    domainName? toAscii settings.domain = some config.domainName ∧
      Address.ofText? (Text.trim settings.resolverIp) = some config.resolverIp ∧
      port? settings.resolverPort = some config.resolverPort ∧
      checkTimeout settings.timeout = .ok config.timeout ∧
      config.domain = Text.trim settings.domain ∧
      config.protocol = Protocol.ofName settings.resolverProtocol := by
  constructor
  · intro h
    rw [ofSettings] at h
    split at h
    case _ => cases h
    case _ hname =>
        split at h
        case _ => cases h
        case _ haddress =>
            split at h
            case _ => cases h
            case _ hport =>
                split at h
                case _ => cases h
                case _ htimeout =>
                    obtain rfl := Except.ok.inj h
                    dsimp only
                    exact ⟨hname, haddress, hport, htimeout, rfl, rfl⟩
  · rintro ⟨hname, haddress, hport, htimeout, hdomain, hprotocol⟩
    rw [ofSettings, hname, haddress, hport, htimeout, ← hdomain, ← hprotocol]

theorem Subject.valid (hsubject : config.Subject name)
    (h : ofSettings toAscii settings = .ok config) :
    name.Valid := by
  cases hsubject with
  | target => exact (valid_dotless_of_domainName? (ofSettings_eq_ok_iff.mp h).1).1
  | zone htext hparse => exact (Name.valid_dotless_of_parse hparse).1
  | resolver => exact Name.valid_reversePointer config.resolverIp

end Config

namespace Session

variable {σ : Type}

/-- A run asks about nothing else. -/
theorem exists_asked_run (check : SignatureCheck) (digest : DigestType → Bytes → Bytes)
    (resolver : Resolver σ) (ids : Nat → UInt16) (config : Config) (state : σ) :
    ∃ asked, (run check digest resolver ids config state).2 = queries ids asked ∧
      ∀ question ∈ asked, config.Subject question.1 := by
  rcases hkeys : ask resolver ids config.domainName .dnskey { state } with ⟨e | keyReply, first⟩
  · refine ⟨_, run_snd_of_error check digest hkeys, ?_⟩
    intro question hquestion
    obtain rfl := List.mem_singleton.mp hquestion
    exact .target
  · obtain ⟨turns, finish, hsweeps, htypes⟩ := exists_sweeps resolver ids config.domainName
      (Transcript.material keyReply) Transcript.sweptTypes first
    refine ⟨_, run_snd_of_sweeps check digest hkeys hsweeps htypes, ?_⟩
    intro question hquestion
    rw [List.cons_append, List.mem_cons, List.mem_append, List.mem_flatMap] at hquestion
    rcases hquestion with rfl | ⟨turn, -, hturn⟩ | hquestion
    · exact .target
    · rcases List.mem_cons.mp hturn with rfl | hextra
      · exact .target
      · -- The keys of the registrable domain, where a turn asks for them.
        obtain ⟨owner, howner, rfl⟩ := List.mem_map.mp hextra
        have hquery := Transcript.delegationQuery?_eq_some_iff.mp (Option.mem_toList.mp howner)
        obtain ⟨text, htext, hparse⟩ := Transcript.delegationOwner?_eq_some_iff.mp hquery.2.2
        exact .zone htext hparse
    · obtain rfl := List.mem_singleton.mp hquestion
      exact .resolver

/-- **Every query of a run can be sent and says what is asked.** Whatever the resolver answers, each
query of a run with accepted settings is for the target, its registrable domain or the reverse name
of the resolver. It has a form of at most 282 octets, which is read as the query: the id, recursion
desired, the one question, and an OPT record that offers 2048 octets, asks for DNSSEC records and
has no options. So the outcome of sending it is up to the peer, and as a frame it is sent. -/
theorem run_sendable {toAscii : String → Option String} {settings : Settings} {config : Config}
    (hconfig : Config.ofSettings toAscii settings = .ok config) (check : SignatureCheck)
    (digest : DigestType → Bytes → Bytes) (resolver : Resolver σ) (ids : Nat → UInt16) (state : σ) :
    ∀ number query, (run check digest resolver ids config state).2[number]? = some query →
      ∃ name type form, config.Subject name ∧ query = Message.query name type (ids number) ∧
        query.wire = .ok form ∧ form.length = name.wireLength + 27 ∧ form.length ≤ 282 ∧
        Message.ofWire form = .ok
          { header :=
              { id := ids number, recursionDesired := true
                questionCount := 1, additionalCount := 1 }
            questions := [{ name, type, cls := .internet }]
            edns := some { payloadSize := 2048, flags := 0x8000 } } ∧
        (∀ protocol peer,
          Client.exchange protocol query peer = Client.peerOutcome protocol (ids number) peer) ∧
        ∀ short chunks, (Stream.exchange form (ids number) short chunks).sent =
          Stream.frame form := by
  intro number query hquery
  obtain ⟨asked, hrun, hasked⟩ := exists_asked_run check digest resolver ids config state
  rw [hrun, getElem?_queries] at hquery
  obtain ⟨⟨name, type⟩, hquestion, rfl⟩ := Option.map_eq_some_iff.mp hquery
  have hsubject : config.Subject name := hasked _ (List.mem_of_getElem? hquestion)
  have hvalid := hsubject.valid hconfig
  obtain ⟨form, hwire, hlength, hread⟩ := Message.exists_wire_query hvalid type (ids number)
  have hname : name.wireLength ≤ 255 := hvalid.2
  have hframe : form.length ≤ Stream.maxLength := by
    rw [Stream.maxLength]
    omega
  refine ⟨name, type, form, hsubject, rfl, hwire, hlength, by omega, hread,
    fun protocol peer => Client.exchange_of_wire hwire hframe protocol peer, fun short chunks => ?_⟩
  rw [Stream.exchange, if_pos hframe]

/-- A target as long as names can be, and a resolver of the other family that answers without
records: the key query takes all of the 282 octets, and the last query is for the reverse name of
the resolver. -/
theorem run_sendable_longest :
    let letters := fun count => String.ofList (List.replicate count 'a')
    let target : Name := ⟨[letters 63, letters 63, letters 63, letters 61]⟩
    let resolverIp : Address := .v6 #v[0x20, 1, 0xd, 0xb8, 0, 0, 0, 0, 0, 0, 0, 0, 0, 0, 0, 0x35]
    let config : Config :=
      { domain := "a", domainName := target, resolverIp, resolverPort := 53, protocol := .udp
        timeout := Config.defaultTimeout }
    let resolver : Resolver Unit := ⟨fun _ state => (.ok { message := {}, rtt := .zero }, state)⟩
    let sent := (run (fun _ _ _ _ => .ok ()) (fun _ _ => []) resolver UInt16.ofNat config ()).2
    (∃ (toAscii : String → Option String) (settings : Settings),
      Config.ofSettings toAscii settings = .ok config) ∧
    (∃ form : Bytes, sent[0]? = some (Message.query target .dnskey 0) ∧
      (Message.query target .dnskey 0).wire = .ok form ∧ form.length = 282) ∧
    ∃ (number : Nat) (query : Message) (form : Bytes), sent[number]? = some query ∧
      query.questions =
        [{ name := Name.reversePointer resolverIp, type := .ptr, cls := .internet }] ∧
      query.wire = .ok form ∧ form.length ≤ 282 := by
  intro letters target resolverIp config resolver sent
  let ascii := String.ofList (HostName.joined target.pieces)
  let settings : Settings := { domain := "a", resolverIp := "2001:db8::35", resolverPort := 53 }
  have hvalid : target.Valid := by decide +kernel
  have hconfig : Config.ofSettings (fun _ => some ascii) settings = .ok config := by
    have hparse : Name.parse ascii = .ok target := by
      refine Name.parse_joined (List.cons_ne_nil _ _) hvalid ?_
      simp [Name.Dotless, target, letters]
    have hname : Config.domainName? (fun _ => some ascii) settings.domain = some target := by
      have hbody : Text.dropFinalDot (Text.trimChars settings.domain.toList) = ['a'] := by
        decide +kernel
      have hcheck : HostName.validate? (fun _ => some ascii) settings.domain = some ascii := by
        rw [HostName.validate?, hbody]
        exact if_neg (by decide +kernel)
      rw [Config.domainName?, hcheck, Option.bind_some, hparse]
      rfl
    have haddress : Address.ofText? (Text.trim settings.resolverIp) = some resolverIp := by
      decide +kernel
    have htrim : Text.trim settings.domain = "a" := by decide +kernel
    have hprotocol : Protocol.ofName settings.resolverProtocol = .udp := by decide +kernel
    exact Config.ofSettings_eq_ok_iff.mpr ⟨hname, haddress, by decide, rfl, htrim.symm,
      hprotocol.symm⟩
  have hsendable :=
    run_sendable hconfig (fun _ _ _ _ => .ok ()) (fun _ _ => []) resolver UInt16.ofNat ()
  obtain ⟨turns, finish, hsweeps, htypes⟩ := exists_sweeps resolver UInt16.ofNat target
    (Transcript.material { message := {}, rtt := .zero }) Transcript.sweptTypes
    (ask resolver UInt16.ofNat target .dnskey { state := () }).2
  obtain ⟨front, hsent⟩ : ∃ front, sent =
      queries UInt16.ofNat
      ((target, .dnskey) :: front ++ [(Name.reversePointer resolverIp, .ptr)]) :=
    ⟨_, run_snd_of_sweeps (fun _ _ _ _ => .ok ()) (fun _ _ => []) rfl hsweeps htypes⟩
  refine ⟨⟨_, _, hconfig⟩, ?_, ?_⟩
  · have hfirst : sent[0]? = some (Message.query target .dnskey 0) := by
      rw [hsent, getElem?_queries]
      rfl
    obtain ⟨name, type, form, -, hquery, hwire, hlength, -⟩ := hsendable 0 _ hfirst
    obtain rfl : target = name :=
      congrArg Question.name (List.cons.inj (congrArg Message.questions hquery)).1
    refine ⟨form, hfirst, hwire, ?_⟩
    rw [hlength]
    decide +kernel
  · have hlast : sent[front.length + 1]? =
        some (Message.query (Name.reversePointer resolverIp) .ptr
          (UInt16.ofNat (front.length + 1))) := by
      rw [hsent, getElem?_queries, ← List.length_cons, List.getElem?_concat_length]
      rfl
    obtain ⟨name, type, form, -, -, hwire, -, hshort, -⟩ := hsendable _ _ hlast
    exact ⟨_, _, form, hlast, rfl, hwire, hshort⟩

end Session

end DnsHealth
