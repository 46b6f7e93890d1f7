import DnsHealth.Message
import DnsHealth.Transport.Error

/-!
# Exchange by datagrams

A query leaves as one datagram; then datagrams arrive until one of them decides. A message with the
id of the query is the response, a datagram that is no message ends the exchange, and messages with
another id are passed over. Of each datagram only the first `limit` octets are seen.
-/

namespace DnsHealth.Datagram

/-- The most octets that are taken of a datagram. -/
def limit : Nat := 4096

/-- The message in what was received. -/
def message (received : Bytes) : Outcome Message :=
  match Message.ofWire received with
  | .ok response => .ok response
  | .error e => .error (.malformed e)

/-- What a datagram decides, if it does. -/
def decision? (id : UInt16) (datagram : Bytes) : Option (Outcome Message) :=
  match message (datagram.take limit) with
  | .error e => some (.error e)
  | .ok response => if response.header.id = id then some (.ok response) else none

/-- The outcome of the datagrams that arrive in time: the first that decides counts. -/
def select (id : UInt16) (datagrams : List Bytes) : Outcome Message :=
  (datagrams.findSome? (decision? id)).getD (.error .timeout)

/-- Datagrams that decide nothing have no effect. -/
theorem select_append_of_undecided {id : UInt16} {strays : List Bytes}
    (h : ∀ d ∈ strays, decision? id d = none) (later : List Bytes) :
    select id (strays ++ later) = select id later := by
  rw [select, List.findSome?_append, List.findSome?_eq_none_iff.2 h, Option.none_or, select]

end DnsHealth.Datagram
