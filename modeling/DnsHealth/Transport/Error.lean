import DnsHealth.FormatError

/-!
# Transport errors

Why an exchange with a resolver gave no answer. A report tells the two kinds apart;
`TransportError.message` words them.
-/

namespace DnsHealth

inductive TransportError where
  /-- Nothing that counts arrived in time. -/
  | timeout
  /-- The exchange failed in any other way. -/
  | connectionFailed (text : String)
  deriving DecidableEq, Repr

namespace TransportError

/-- The wording of a transport error. -/
def message : TransportError → String
  | .timeout => "Resolver did not answer within the timeout"
  | .connectionFailed text => s!"Resolver connection failed: {text}"

/-- An error of the operating system: only its own timeout counts as one. -/
def ofSystem (timedOut : Bool) (text : String) : TransportError :=
  if timedOut then .timeout else .connectionFailed text

/-- A query that has no wire form. -/
def unencodable (e : FormatError) : TransportError :=
  .connectionFailed s!"failed to encode query: {e.message}"

/-- A response that cannot be read. -/
def malformed (e : FormatError) : TransportError :=
  .connectionFailed s!"malformed response: {e.message}"

/-- A response to some other query. -/
def foreignId (response query : UInt16) : TransportError :=
  .connectionFailed s!"response id {response.toNat} does not match query id {query.toNat}"

/-- A query whose length does not fit the length field of a frame. -/
def oversized : TransportError :=
  .connectionFailed "query exceeds 65535 bytes"

/-- A stream that ended inside a frame. -/
def earlyEnd : TransportError :=
  .connectionFailed "early eof"

end TransportError

/-- What an exchange yields. -/
abbrev Outcome (α : Type) := Except TransportError α

end DnsHealth
