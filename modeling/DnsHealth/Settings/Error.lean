/-!
# Configuration errors

Why there is no valid configuration. The wording is in `ConfigError.message`.
-/

namespace DnsHealth

inductive ConfigError where
  | invalidDomain
  | invalidResolverIp
  | invalidResolverPort
  /-- The timeout as written, without blanks around it. -/
  | invalidTimeout (written : String)
  /-- The list of plugin tables is there, and empty. -/
  | emptyPluginList
  /-- The file is no TOML document, or not one of settings. -/
  | malformed
  /-- There is no such file, or it is not text. -/
  | unreadable
  deriving DecidableEq, Repr

namespace ConfigError

/-- What is said of an empty list of plugin tables. -/
def emptyPluginListText : String :=
  "no [[inputs.deepmon_dns]] entry"

/-- The wording of a configuration error. -/
def message : ConfigError → String
  | .invalidDomain => "domain is missing or invalid"
  | .invalidResolverIp => "resolver_ip is missing or invalid"
  | .invalidResolverPort => "resolver_port is missing or invalid"
  | .invalidTimeout written => s!"Invalid timeout: {written}"
  | .emptyPluginList => s!"Failed to parse config: {emptyPluginListText}"
  | .malformed => "Failed to parse config: malformed document"
  | .unreadable => "Failed to read config file"

end ConfigError

end DnsHealth
