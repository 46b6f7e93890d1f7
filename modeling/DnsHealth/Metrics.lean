import DnsHealth.Metrics.Json
import DnsHealth.Text.Calendar

/-!
# Metrics

A metric is one measurement at one moment: tags that are texts, and fields that are JSON values,
both in ascending order of their names. Sinks receive metrics; one keeps them, and one writes each
of them as a line of JSON.
-/

namespace DnsHealth

/-- One emitted measurement. -/
structure Metric where
  measurement : String
  tags : List (String × String)
  fields : List (String × Json)
  timestamp : Text.UtcTime
  deriving Repr

namespace Metric

/-- The value of a field. -/
def field? (metric : Metric) (name : String) : Option Json :=
  metric.fields.lookup name

/-- A metric as a JSON value. -/
def toJson (metric : Metric) : Json :=
  .object
    [("measurement", .string metric.measurement),
      ("tags", .object (metric.tags.map fun (name, value) => (name, .string value))),
      ("fields", .object metric.fields), ("timestamp", .string metric.timestamp.rfc3339)]

/-- A metric as a line of JSON. -/
def line (metric : Metric) : String :=
  metric.toJson.text ++ "\n"

end Metric

/-- A sink that keeps every metric, the latest one first. -/
structure MetricLog where
  newestFirst : List Metric := []

namespace MetricLog

def add (log : MetricLog) (metric : Metric) : MetricLog :=
  ⟨metric :: log.newestFirst⟩

/-- The metrics in the order in which they came. -/
def metrics (log : MetricLog) : List Metric :=
  log.newestFirst.reverse

def last? (log : MetricLog) : Option Metric :=
  log.newestFirst.head?

@[simp] theorem metrics_add (log : MetricLog) (metric : Metric) :
    (log.add metric).metrics = log.metrics ++ [metric] := by
  simp [add, metrics]

@[simp] theorem last?_add (log : MetricLog) (metric : Metric) :
    (log.add metric).last? = some metric := rfl

end MetricLog

end DnsHealth
