import DnsHealth.Config
import DnsHealth.Settings.Decoding
import DnsHealth.Unicode.Printable

/-!
# The command line

What the program does with its arguments before there is any network traffic. Settings come from a
file, then from the environment, then from the arguments; the sample configuration needs none of
them.

`CommandLine.decision` is the whole of it: the program ends, or a configuration is to be probed.
-/

namespace DnsHealth

/-- The arguments of the program. -/
structure Arguments where
  config : Option String := none
  domain : Option String := none
  resolverIp : Option String := none
  resolverPort : Option Int := none
  protocol : Option String := none
  timeout : Option String := none
  logLevel : Option String := none
  sampleConfig : Bool := false
  deriving DecidableEq, Repr, Inhabited

namespace Arguments

/-! ## Reading -/

/-- An argument with a value: its names, and its effect. There is no effect when it was given before
or its value is bad. -/
structure Flag where
  long : String
  short : Option Char
  set : Arguments → String → Option Arguments

/-- Fill a place that must still be empty. -/
def fill {α : Type} (place : Option α) (value : α) (done : Option α → Arguments) :
    Option Arguments :=
  if place.isNone then some (done (some value)) else none

/-- An integer of 64 bits with an optional sign. -/
def integer? (text : String) : Option Int :=
  (Text.signed? text.toList).filter fun n =>
    Int64.minValue.toInt ≤ n ∧ n ≤ Int64.maxValue.toInt

/-- The arguments that have a value. -/
def flags : List Flag :=
  [⟨"config", some 'c', fun a v =>
      if v.isEmpty then none else fill a.config v fun config => { a with config }⟩,
    ⟨"domain", some 'd', fun a v => fill a.domain v fun domain => { a with domain }⟩,
    ⟨"resolver-ip", none, fun a v => fill a.resolverIp v fun resolverIp => { a with resolverIp }⟩,
    ⟨"resolver-port", none, fun a v =>
      (integer? v).bind fun n =>
        fill a.resolverPort n fun resolverPort => { a with resolverPort }⟩,
    ⟨"protocol", some 'p', fun a v => fill a.protocol v fun protocol => { a with protocol }⟩,
    ⟨"timeout", some 't', fun a v => fill a.timeout v fun timeout => { a with timeout }⟩,
    ⟨"log-level", none, fun a v => fill a.logLevel v fun logLevel => { a with logLevel }⟩]

/-- The flag that a word names, and the value that is attached to it. -/
def flag? (word : String) : Option (Flag × Option String) :=
  match word.toList with
  | '-' :: '-' :: body =>
    let name := body.takeWhile (· != '=')
    let value :=
      match body.dropWhile (· != '=') with
      | _ :: rest => some (String.ofList rest)
      | [] => none
    (flags.find? fun flag => flag.long.toList == name).map fun flag => (flag, value)
  | '-' :: letter :: attached =>
    let value :=
      match attached with
      | [] => none
      | '=' :: rest => some (String.ofList rest)
      | rest => some (String.ofList rest)
    (flags.find? fun flag => flag.short == some letter).map fun flag => (flag, value)
  | _ => none

/-- A word that cannot be the value of the flag in front of it. A lone hyphen can. -/
def looksLikeFlag (word : String) : Bool :=
  match word.toList with
  | '-' :: _ :: _ => true
  | _ => false

/-- The word that asks for the sample configuration. -/
def sampleWord : String := "--sample-config"

/-- Read words behind those already read. -/
def readOnto? : Arguments → List String → Option Arguments
  | read, [] => some read
  | read, word :: words =>
    if word = sampleWord then
      if read.sampleConfig then none else readOnto? { read with sampleConfig := true } words
    else
      match flag? word with
      | none => none
      | some (flag, some value) =>
        match flag.set read value with
        | some read => readOnto? read words
        | none => none
      | some (flag, none) =>
        match words with
        | [] => none
        | value :: words =>
          if looksLikeFlag value then none
          else
            match flag.set read value with
            | some read => readOnto? read words
            | none => none

/-- Read the words of a command line. -/
def ofWords? (words : List String) : Option Arguments :=
  readOnto? {} words

/-! ## Effect -/

/-- Settings with the arguments in the place of what they had. -/
def override (arguments : Arguments) (settings : Settings) : Settings :=
  { domain := arguments.domain.getD settings.domain
    resolverIp := arguments.resolverIp.getD settings.resolverIp
    resolverPort := arguments.resolverPort.getD settings.resolverPort
    resolverProtocol := arguments.protocol.getD settings.resolverProtocol
    timeout := arguments.timeout.or settings.timeout }

end Arguments

namespace CommandLine

/-- What is to be done. -/
inductive Decision where
  /-- End with an exit code, after printing. -/
  | finish (code : UInt8) (stdout stderr : String)
  | probe (config : Config)
  deriving Repr

/-- A configuration error as the program reports it: its name and its detail. -/
def diagnosis : ConfigError → String
  | .invalidDomain => "InvalidDomain"
  | .invalidResolverIp => "InvalidResolverIp"
  | .invalidResolverPort => "InvalidResolverPort"
  | .invalidTimeout written => "InvalidTimeout(" ++ Text.escaped written ++ ")"
  | .emptyPluginList => "Parse(" ++ Text.escaped ConfigError.emptyPluginListText ++ ")"
  | .malformed => "Parse"
  | .unreadable => "Io"

/-- The configuration that arguments, environment and file amount to. -/
def config (toAscii : String → Option String) (arguments : Arguments)
    (environment : String → Option String) (readFile : String → Option ByteArray) :
    Except ConfigError Config := do
  let settings ←
    match arguments.config with
    | some path => Settings.ofFile (readFile path)
    | none => pure {}
  match settings.applyOverrides environment with
  | (_, some e) => .error e
  | (settings, none) => Config.ofSettings toAscii (arguments.override settings)

/-- What is to be done about the words of a command line. -/
def decision (toAscii : String → Option String) (words : List String)
    (environment : String → Option String) (readFile : String → Option ByteArray) : Decision :=
  match Arguments.ofWords? words with
  | none => .finish 2 "" "error: invalid arguments\n"
  | some arguments =>
    if arguments.sampleConfig then .finish 0 Settings.sample ""
    else
      match config toAscii arguments environment readFile with
      | .ok config => .probe config
      | .error e => .finish 1 "" ("Error: " ++ diagnosis e ++ "\n")

end CommandLine

end DnsHealth
