import DnsHealth.Settings.Error
import DnsHealth.Text.Characters

/-!
# Settings

The settings of a probe as they are written, before anything is checked. They come from a file, then
from overrides in the environment.

Overrides are applied one after the other. A bad one ends this, and those before it stay applied.
-/

namespace DnsHealth

/-- The settings of a probe as written. -/
structure Settings where
  domain : String := ""
  resolverIp : String := ""
  /-- An integer of 64 bits. -/
  resolverPort : Int := 0
  resolverProtocol : String := ""
  timeout : Option String := none
  deriving DecidableEq, Repr, Inhabited

namespace Settings

/-- An integer of 64 bits with an optional sign, blanks around it aside. -/
def port? (text : String) : Option Int :=
  (Text.signed? (Text.trimChars text.toList)).filter fun n =>
    Int64.minValue.toInt ≤ n ∧ n ≤ Int64.maxValue.toInt

/-- An override: the variable that carries it, and its effect. -/
structure Override where
  variableName : String
  apply : Settings → String → Except ConfigError Settings

/-- The overrides in the order in which they are applied. -/
def overrides : List Override :=
  [⟨"DNSPROBE_DOMAIN", fun settings text => .ok { settings with domain := text }⟩,
    ⟨"DNSPROBE_RESOLVER_IP", fun settings text => .ok { settings with resolverIp := text }⟩,
    ⟨"DNSPROBE_RESOLVER_PORT", fun settings text =>
      match port? text with
      | some port => .ok { settings with resolverPort := port }
      | none => .error .invalidResolverPort⟩,
    ⟨"DNSPROBE_RESOLVER_PROTOCOL", fun settings text =>
      .ok { settings with resolverProtocol := text }⟩,
    ⟨"DNSPROBE_TIMEOUT", fun settings text => .ok { settings with timeout := some text }⟩]

/-- Apply overrides until one is bad: the settings reached, and the error. -/
def applyAll (lookup : String → Option String) :
    List Override → Settings → Settings × Option ConfigError
  | [], settings => (settings, none)
  | override :: later, settings =>
    match lookup override.variableName with
    | none => applyAll lookup later settings
    | some text =>
      match override.apply settings text with
      | .ok settings => applyAll lookup later settings
      | .error e => (settings, some e)

/-- Apply the overrides that an environment carries. -/
def applyOverrides (settings : Settings) (lookup : String → Option String) :
    Settings × Option ConfigError :=
  applyAll lookup overrides settings

/-- A configuration file to start from. -/
def sample : String :=
  "\n".intercalate
    ["# Query a domain through a resolver and verify its DNSSEC keys",
      "[[inputs.deepmon_dns]]",
      "  ## Domain to query",
      "  domain = \"example.com\"",
      "",
      "  ## Resolver to send the queries to",
      "  resolver_ip = \"8.8.8.8\"",
      "  resolver_port = 53",
      "",
      "  ## Transport: \"udp\", \"tcp\" or \"tcp-tls\" (DNS-over-TLS, usually port 853).",
      "  ## Unknown values fall back to \"udp\".",
      "  # resolver_protocol = \"udp\"",
      "",
      "  ## Timeout for each query",
      "  # timeout = \"2s\"",
      ""]

end Settings

end DnsHealth
