import CallProfile.Number.Power
import CallProfile.Record.Line

/-!
# Traces

A trace is every record of one or more logs in the order in which the calls began. Records of equal
timestamp keep the order of the logs, and so do the names of the events.
-/

namespace CallProfile

/-- The records of one or more logs. -/
structure Trace where
  /-- By timestamp; equal timestamps keep the order of the input. -/
  records : List Record
  /-- The distinct events in the order in which the input first names them. -/
  events : List String
  /-- How many lines held no record. -/
  skipped : Nat
  /-- The names of the logs. -/
  sources : List String

namespace Trace

/-- The order of records in a trace. -/
def notAfter (a b : Record) : Bool :=
  a.timestampNs ≤ b.timestampNs

/-- The trace of named reports. -/
def ofReports (reports : List (String × LineReport)) : Trace :=
  let records := reports.flatMap (·.2.records)
  { records := records.mergeSort notAfter
    events := (records.map (·.event)).eraseDups
    skipped := Number.total (reports.map (·.2.skipped))
    sources := reports.map (·.1) }

/-- The trace of named texts. -/
def ofTexts (texts : List (String × String)) : Trace :=
  ofReports (texts.map fun (name, text) => (name, LineReport.ofText text))

/-- The trace of one text. -/
def ofText (name text : String) : Trace :=
  ofTexts [(name, text)]

/-- Whether the trace holds no record. -/
def isEmpty (trace : Trace) : Bool :=
  trace.records.isEmpty

end Trace

end CallProfile
