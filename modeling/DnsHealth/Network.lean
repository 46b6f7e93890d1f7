import DnsHealth.Config
import DnsHealth.Probe.Transcript
import DnsHealth.Transport.Client
import Std.Async.Select
import Std.Async.TCP
import Std.Async.Timer
import Std.Async.UDP

/-!
# The network

The sockets behind an exchange. This layer only carries octets: it sends what it is told, receives
until the outcome is decided or the deadline has come, and leaves the judgement to
`Client.exchange`. There is no TLS here.
-/

namespace DnsHealth.Network

open Std.Async

theorem evenOctet_lt (i : Fin 8) : 2 * i.val < 16 := by omega

theorem oddOctet_lt (i : Fin 8) : 2 * i.val + 1 < 16 := by omega

/-- The address of the resolver for a socket. -/
def socketAddress (config : Config) : Std.Net.SocketAddress :=
  match config.resolverIp with
  | .v4 octets => .v4 ⟨⟨octets⟩, config.resolverPort⟩
  | .v6 octets =>
    let groups := Vector.ofFn fun i : Fin 8 =>
      Bytes.toUInt16 (octets.get ⟨2 * i.val, evenOctet_lt i⟩)
        (octets.get ⟨2 * i.val + 1, oddOctet_lt i⟩)
    .v6 ⟨⟨groups⟩, config.resolverPort⟩

/-- The most octets that are asked of a stream at once. -/
def chunkSize : UInt64 := 4096

/-- What a selector yields before a deadline in milliseconds, if anything. -/
def before {α : Type} (deadline : Nat) (selector : Selector α) : Async (Option α) := do
  let now ← IO.monoMsNow
  let expiry ← Selector.sleep (Std.Time.Millisecond.Offset.ofNat (deadline - now))
  Selectable.one
    #[.case selector fun a => pure (some a), .case expiry fun _ => pure none]

/-- The datagrams up to the one that decides, or up to the deadline, behind those received. -/
partial def datagrams (socket : UDP.Socket) (id : UInt16) (deadline : Nat) (received : List Bytes) :
    Async (List Bytes) := do
  match ← before deadline (socket.recvSelector (UInt64.ofNat Datagram.limit)) with
  | none => pure received.reverse
  | some (octets, _) =>
    let datagram := octets.toList
    if (Datagram.decision? id datagram).isSome then pure (datagram :: received).reverse
    else datagrams socket id deadline (datagram :: received)

/-- The chunks of a stream up to a whole frame, the end of the stream or the deadline, behind those
received, and whether the stream has ended. -/
partial def chunks (socket : TCP.Socket.Client) (deadline : Nat) (received : List Bytes) :
    Async (List Bytes × Bool) := do
  if (Stream.frame? received.reverse).isSome then pure (received.reverse, false)
  else
    match ← before deadline (socket.recvSelector chunkSize) with
    | none => pure (received.reverse, false)
    | some none => pure (received.reverse, true)
    | some (some octets) => chunks socket deadline (octets.toList :: received)

/-- What a resolver sends back over datagrams. -/
def overDatagrams (config : Config) (wire : Bytes) (id : UInt16) (deadline : Nat) : Async Peer := do
  let socket ← UDP.Socket.mk
  socket.connect (socketAddress config)
  socket.send ⟨wire.toArray⟩
  let sends ← datagrams socket id deadline []
  pure (.answering sends true)

/-- What a resolver sends back over a stream. -/
def overStream (config : Config) (wire : Bytes) (deadline : Nat) : Async Peer := do
  let socket ← TCP.Socket.Client.mk
  socket.connect (socketAddress config)
  socket.noDelay
  socket.send ⟨(Stream.frame wire).toArray⟩
  let (sends, closes) ← chunks socket deadline []
  pure (.answering sends closes)

/-- What the resolver does with a query. -/
def peer (config : Config) (wire : Bytes) (id : UInt16) (deadline : Nat) : IO Peer := do
  try
    match config.protocol with
    | .udp => (overDatagrams config wire id deadline).block
    | .tcp => (overStream config wire deadline).block
    | .tls => pure (.unreachable "TLS is not available")
  catch e => pure (.unreachable (toString e))

/-- Send a query with an id of its own, and wait for the response. -/
def ask (config : Config) (name : Name) (type : RecordType) : IO (Outcome Reply) := do
  let id := UInt16.ofNat (← IO.rand 0 65535)
  let query := Message.query name type id
  let start ← IO.monoNanosNow
  let deadline := (← IO.monoMsNow) + config.timeout.millis
  let reached ←
    match query.wire with
    | .ok wire => peer config wire id deadline
    | .error _ => pure (.answering [] true)
  let rtt : Duration := ⟨(← IO.monoNanosNow) - start⟩
  pure ((Client.exchange config.protocol query reached).map fun message => { message, rtt })

end DnsHealth.Network
