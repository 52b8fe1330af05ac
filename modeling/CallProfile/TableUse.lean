import CallProfile.Grouping
import CallProfile.Record.Basic

/-!
# Use of tables

How often every event names every table. A record counts once for each time it names a table.
-/

namespace CallProfile

/-- The events of every table with their counts, tables and events in ascending order. -/
abbrev TableUse := List (String × List (String × Nat))

namespace TableUse

/-- The use of tables in a trace. -/
def ofRecords (records : List Record) : TableUse :=
  let uses := records.flatMap fun r => r.tableIds.map (·, r.event)
  (grouped uses).map fun (table, events) => (table, tally events)

/-- The events that name any table, in ascending order. -/
def events (use : TableUse) : List String :=
  ascending (use.flatMap fun (_, counts) => counts.map (·.1))

end TableUse

end CallProfile
