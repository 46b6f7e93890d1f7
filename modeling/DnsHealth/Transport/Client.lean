import DnsHealth.Transport.Protocol
import DnsHealth.Transport.Stream

/-!
# Clients

One exchange with a resolver: the query is encoded, sent over the configured protocol, and answered
by what the peer sends until the deadline. A query without a wire form fails before the peer is
contacted at all.
-/

namespace DnsHealth

/-- What the other end does with a query until the deadline. -/
inductive Peer where
  /-- It cannot be reached. -/
  | unreachable (text : String)
  /-- It sends datagrams or chunks of a stream, then closes the stream or keeps it open. It does
  not speak TLS. -/
  | answering (sends : List Bytes) (closes : Bool)
  deriving DecidableEq, Repr

namespace Client

/-- A peer that does not speak TLS. -/
def noHandshake : TransportError :=
  .connectionFailed "TLS handshake failed"

/-- What an incomplete frame amounts to: an error when the stream ended, and a timeout when it is
still open at the deadline. -/
def cutShort (closes : Bool) : TransportError :=
  if closes then .earlyEnd else .timeout

/-- The outcome of a query. -/
def exchange (protocol : Protocol) (query : Message) (peer : Peer) : Outcome Message :=
  match query.wire with
  | .error e => .error (.unencodable e)
  | .ok wire =>
    match peer, protocol with
    | .unreachable text, _ => .error (.connectionFailed text)
    | .answering sends _, .udp => Datagram.select query.header.id sends
    | .answering sends closes, .tcp =>
      (Stream.exchange wire query.header.id (cutShort closes) sends).result
    | .answering _ _, .tls => .error noHandshake

end Client

end DnsHealth
