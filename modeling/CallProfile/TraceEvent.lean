import CallProfile.Json.Printer
import CallProfile.Record.Basic

/-!
# Trace events

The exchange format of trace viewers, which show what every thread did over time. A record with a
duration is a complete event; one without is an instant, pinned to its thread. Times are in
microseconds, rounded down.
-/

namespace CallProfile

/-- What a viewer draws for an event. -/
inductive Phase where
  /-- A bar of a length in microseconds. -/
  | complete (durationUs : Nat)
  /-- A mark on the thread. -/
  | instant
  deriving DecidableEq, Repr

namespace Phase

/-- The letter of a phase. -/
def letter : Phase → String
  | complete _ => "X"
  | instant => "I"

/-- The field that gives the length of a bar or the scope of a mark. -/
def extent : Phase → String × Json
  | complete durationUs => ("dur", .ofNat durationUs)
  | instant => ("s", .string "t")

end Phase

/-- One event of a viewer. -/
structure TraceEvent where
  name : String
  phase : Phase
  startUs : Nat
  thread : Nat
  transactional : Bool
  method : Option String
  tables : List String
  durationMs : Option Float

namespace TraceEvent

/-- The nanoseconds of a microsecond. -/
def nanosPerMicro : Nat := 1000

/-- The event of a record. -/
def ofRecord (r : Record) : TraceEvent :=
  { name := r.event
    phase :=
      match r.durationNs with
      | some ns => .complete (ns / nanosPerMicro)
      | none => .instant
    startUs := r.timestampNs / nanosPerMicro
    thread := r.threadId
    transactional := r.transactional
    method := r.method
    tables := r.tableIds
    durationMs := r.durationNs.map fun _ => r.durationMs Float }

/-- A field that is left out without a value. -/
def optional (key : String) (value : Option Json) : List (String × Json) :=
  (value.map (key, ·)).toList

/-- What else is known about the event. -/
def arguments (e : TraceEvent) : List (String × Json) :=
  optional "method" (e.method.map .string) ++
    (if e.tables.isEmpty then [] else [("tables", .ofStrings e.tables)]) ++
    optional "duration_ms" (e.durationMs.map .ofFloat)

/-- The object of an event. All events belong to one process. -/
def toJson (e : TraceEvent) : Json :=
  .object
    ([("name", .string e.name), ("ph", .string e.phase.letter), ("ts", .ofNat e.startUs),
        e.phase.extent, ("pid", .ofNat 1), ("tid", .ofNat e.thread)] ++
      (if e.transactional then [("cat", .string "tx")] else []) ++
      [("args", .object e.arguments)])

/-- The document that a viewer opens. -/
def document (events : List TraceEvent) : Json :=
  .object
    [("traceEvents", .array (events.map toJson)),
      ("displayTimeUnit", .string "ms"),
      ("meta_generator", .string "corfu-profiler trace")]

/-- The text of the document for records. -/
def exportText (records : List Record) : String :=
  (document (records.map ofRecord)).pretty

end TraceEvent

end CallProfile
