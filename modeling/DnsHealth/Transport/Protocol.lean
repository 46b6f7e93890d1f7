import DnsHealth.Text.Characters

/-!
# Transport protocols

The ways in which queries reach a resolver, and the names by which they are configured.
-/

namespace DnsHealth

/-- How queries travel. -/
inductive Protocol where
  | udp
  | tcp
  /-- DNS over TLS. -/
  | tls
  deriving DecidableEq, Repr, Inhabited

namespace Protocol

/-- The configured name. -/
def name : Protocol → String
  | .udp => "udp"
  | .tcp => "tcp"
  | .tls => "tcp-tls"

/-- The protocol with a name, up to case and blanks around it; any other name means UDP. -/
def ofName (text : String) : Protocol :=
  let name := Text.lowerAscii (Text.trim text)
  if name = Protocol.tcp.name then .tcp
  else if name = Protocol.tls.name then .tls
  else .udp

end Protocol

end DnsHealth
