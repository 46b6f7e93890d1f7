import DnsHealth.Duration
import DnsHealth.Message.Record
import DnsHealth.Metrics
import DnsHealth.Rdata.Presentation

/-!
# Reports

What one run of the probe has to say: a verdict, the resolver, the answers and two flags about the
keys. A report is emitted as the fields and tags of one metric.
-/

namespace DnsHealth

/-- The overall result of a run. -/
inductive Verdict where
  | unset
  | timeout
  | connectionFailed
  | partialFailure
  | success
  deriving DecidableEq, Repr, Inhabited

/-- The name of a verdict in a report. -/
def Verdict.name : Verdict → String
  | .unset => "unset"
  | .timeout => "timeout"
  | .connectionFailed => "connection_failed"
  | .partialFailure => "partial_failure"
  | .success => "success"

/-- An answer as it is reported. -/
structure ReportedAnswer where
  rcode : String
  type : String
  ttl : UInt32
  /-- The time of the exchange that brought the answer. -/
  responseTime : String
  rdata : String
  dnssecVerified : Bool
  deriving DecidableEq, Repr

namespace ReportedAnswer

/-- The record as a reported answer, unless its data is not shown. -/
def ofRecord? (rcode : String) (rtt : Duration) (verified : Bool) (record : Record) :
    Option ReportedAnswer :=
  record.rdata.payload?.map fun rdata =>
    { rcode, type := record.type.name, ttl := record.ttl, responseTime := rtt.text, rdata
      dnssecVerified := verified }

/-- The reported answers of a response. -/
def ofRecords (rcode : String) (records : List Record) (rtt : Duration) (verified : Bool) :
    List ReportedAnswer :=
  records.filterMap (ofRecord? rcode rtt verified)

def toJson (answer : ReportedAnswer) : Json :=
  .object
    [("dnssec_verified", .boolean answer.dnssecVerified), ("rcode", .string answer.rcode),
      ("rdata", .string answer.rdata), ("response_time", .string answer.responseTime),
      ("rtype", .string answer.type), ("ttl", .number answer.ttl.toNat)]

end ReportedAnswer

/-- The result of one run. -/
structure Report where
  domain : String
  verdict : Verdict := .unset
  resolverName : String := ""
  resolverIp : String := ""
  resolverPort : String := ""
  resolverProtocol : String := ""
  /-- The whole milliseconds of the successful exchanges of the sweep, added up. -/
  responseTime : String := ""
  answers : List ReportedAnswer := []
  /-- The key set is signed by one of its key-signing keys. -/
  zskVerified : Bool := false
  /-- The delegation agrees with the key set. -/
  kskVerified : Bool := false
  deriving DecidableEq, Repr, Inhabited

namespace Report

/-- The name under which reports are emitted. -/
def measurement : String := "deepmon_dns"

/-- The fields of the metric, in the order of their names. -/
def fields (report : Report) : List (String × Json) :=
  [("ksk_verified", .boolean report.kskVerified),
    ("records", .array (report.answers.map ReportedAnswer.toJson)),
    ("resolver_ip", .string report.resolverIp), ("resolver_name", .string report.resolverName),
    ("resolver_port", .string report.resolverPort),
    ("resolver_protocol", .string report.resolverProtocol),
    ("response_time", .string report.responseTime), ("result", .string report.verdict.name),
    ("zsk_verified", .boolean report.zskVerified)]

/-- The tags of the metric. -/
def tags (report : Report) : List (String × String) :=
  [("domain", report.domain)]

/-- The whole report as a JSON value. -/
def toJson (report : Report) : Json :=
  .object (("domain", .string report.domain) :: report.fields)

/-- The metric of a report, under a name and at a moment. -/
def toMetric (report : Report) (measurement : String) (timestamp : Text.UtcTime) : Metric :=
  { measurement, tags := report.tags, fields := report.fields, timestamp }

end Report

end DnsHealth
