import DnsHealth.Settings
import DnsHealth.Toml.Document

/-!
# Settings in a configuration file

A configuration file is a TOML document. Settings stand in the elements of the array
`inputs.deepmon_dns`, of which the first one counts, or at the top of the document.

Missing settings have their defaults, unknown keys are passed over, and a value of a wrong type
makes a table unfit for settings. An array stands for the settings in their order. A date stands for
a table whose only key is unknown. When `inputs` does not lead to a list of settings, the document
itself is read as settings.
-/

namespace DnsHealth.Settings

open Toml (Value)

/-- A text, or the default where there is none. -/
def text? : Option Value → Option String
  | none => some ""
  | some (.string s) => some s
  | some _ => none

/-- An integer, or the default where there is none. -/
def integer? : Option Value → Option Int
  | none => some 0
  | some (.integer n) => some n
  | some _ => none

/-- A text that may be absent. -/
def optionalText? : Option Value → Option (Option String)
  | none => some none
  | some (.string s) => some (some s)
  | some _ => none

/-- Settings from the values of the five fields. -/
def ofFields? (domain resolverIp resolverPort resolverProtocol timeout : Option Value) :
    Option Settings := do
  let domain ← text? domain
  let resolverIp ← text? resolverIp
  let resolverPort ← integer? resolverPort
  let resolverProtocol ← text? resolverProtocol
  let timeout ← optionalText? timeout
  pure { domain, resolverIp, resolverPort, resolverProtocol, timeout }

/-- Settings from a table. -/
def ofTable? (table : Toml.Table) : Option Settings :=
  ofFields? (table.get? "domain") (table.get? "resolver_ip") (table.get? "resolver_port")
    (table.get? "resolver_protocol") (table.get? "timeout")

/-- Settings from a value. -/
def ofValue? : Value → Option Settings
  | .table entries => ofTable? entries
  | .array items => ofFields? items[0]? items[1]? items[2]? items[3]? items[4]?
  | .moment _ => some {}
  | _ => none

/-- A list of settings. -/
def listOfValue? : Value → Option (List Settings)
  | .array items => items.mapM ofValue?
  | _ => none

/-- The settings of the plugin, from what stands under `inputs`. -/
def pluginList? : Value → Option (List Settings)
  | .table entries => (Toml.Table.get? entries "deepmon_dns").bind listOfValue?
  | .array (first :: _) => listOfValue? first
  | _ => none

/-- The settings that a document denotes. -/
def ofDocument (document : Toml.Table) : Except ConfigError Settings :=
  match (document.get? "inputs").bind pluginList? with
  | some (first :: _) => .ok first
  | some [] => .error .emptyPluginList
  | none =>
    match ofTable? document with
    | some settings => .ok settings
    | none => .error .malformed

/-- The settings that a TOML text denotes. -/
def ofToml (text : String) : Except ConfigError Settings :=
  match Toml.Table.ofText? text with
  | some document => ofDocument document
  | none => .error .malformed

/-- The settings in the octets of a file, if there is one. -/
def ofFile (contents : Option ByteArray) : Except ConfigError Settings :=
  match contents.bind fun octets => String.fromUTF8? octets with
  | some text => ofToml text
  | none => .error .unreadable

end DnsHealth.Settings
