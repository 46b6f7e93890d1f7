import DnsHealth.CommandLine
import DnsHealth.Idna
import DnsHealth.Network
import DnsHealth.Probe.Assessment

/-!
# The program

Reads the arguments, the environment and the configuration file, and either ends or runs the probe
once and prints its report as one line of JSON.
-/

namespace DnsHealth.Main

/-- The octets of a file that can be read. -/
def readFile? (path : String) : IO (Option ByteArray) := do
  try some <$> IO.FS.readBinFile path catch _ => pure none

/-- The time of day. -/
def now : IO Text.UtcTime := do
  let timestamp ← Std.Time.Timestamp.now
  pure (.ofUnixSeconds timestamp.toSecondsSinceUnixEpoch.val.toNat)

/-- Run the probe and report. -/
def probe (config : Config) : IO Report := do
  let transcript ← Transcript.collect (Network.ask config) config.domainName config.resolverIp
  pure (.ofTranscript Algorithm.check DigestType.digest config transcript)

/-- Do what was decided, and give the exit code. -/
def run (words : List String) : IO UInt32 := do
  let overrides ← Settings.overrides.mapM fun override => do
    pure (override.variableName, ← IO.getEnv override.variableName)
  let environment (name : String) : Option String := (overrides.lookup name).bind id
  let path := (Arguments.ofWords? words).bind Arguments.config
  let contents ← match path with
    | some path => readFile? path
    | none => pure none
  match CommandLine.decision Idna.toAscii words environment fun _ => contents with
  | .finish code stdout stderr => do
    IO.print stdout
    IO.eprint stderr
    pure code.toUInt32
  | .probe config => do
    let report ← probe config
    IO.print (report.toMetric Report.measurement (← now)).line
    pure 0

end DnsHealth.Main

/-- The entry point. -/
def main (words : List String) : IO UInt32 :=
  DnsHealth.Main.run words
