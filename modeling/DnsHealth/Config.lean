import DnsHealth.Address
import DnsHealth.Duration.Written
import DnsHealth.HostName
import DnsHealth.Name
import DnsHealth.Settings
import DnsHealth.Transport.Protocol

/-!
# Configurations

A configuration is settings that have been checked. `Config.ofSettings` checks domain, address, port
and timeout in this order and stops at the first that is bad; a protocol cannot be bad. The
conversion of the domain to ASCII is a parameter.
-/

namespace DnsHealth

/-- A checked configuration. -/
structure Config where
  /-- The target as written, without blanks around it. -/
  domain : String
  /-- The name that is queried. -/
  domainName : Name
  resolverIp : Address
  resolverPort : UInt16
  protocol : Protocol
  timeout : Duration
  deriving DecidableEq, Repr

namespace Config

/-- The timeout when none is set, or a timeout of zero. -/
def defaultTimeout : Duration := Duration.ofSeconds 2

/-- The name to query for a target. -/
def domainName? (toAscii : String → Option String) (domain : String) : Option Name :=
  (HostName.validate? toAscii domain).bind fun ascii => (Name.parse ascii).toOption

/-- A port between 1 and 65535. -/
def port? (n : Int) : Option UInt16 :=
  if 1 ≤ n ∧ n ≤ 65535 then some (UInt16.ofNat n.toNat) else none

/-- The timeout that a setting denotes. -/
def checkTimeout (written : Option String) : Except ConfigError Duration :=
  match written with
  | none => .ok defaultTimeout
  | some text =>
    match Duration.ofText? text with
    | none => .error (.invalidTimeout (Text.trim text))
    | some d => .ok (if d = .zero then defaultTimeout else d)

/-- Check settings. -/
def ofSettings (toAscii : String → Option String) (settings : Settings) :
    Except ConfigError Config :=
  match domainName? toAscii settings.domain with
  | none => .error .invalidDomain
  | some domainName =>
    match Address.ofText? (Text.trim settings.resolverIp) with
    | none => .error .invalidResolverIp
    | some resolverIp =>
      match port? settings.resolverPort with
      | none => .error .invalidResolverPort
      | some resolverPort =>
        match checkTimeout settings.timeout with
        | .error e => .error e
        | .ok timeout =>
          .ok
            { domain := Text.trim settings.domain, domainName, resolverIp, resolverPort
              protocol := Protocol.ofName settings.resolverProtocol, timeout }

/-- Address and port of the resolver. -/
def resolverAddress (config : Config) : String :=
  config.resolverIp.withPort config.resolverPort.toNat

end Config

end DnsHealth
