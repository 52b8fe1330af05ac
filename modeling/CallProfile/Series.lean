import CallProfile.Grouping
import CallProfile.Record.Basic

/-!
# Activity per millisecond

A series counts something for every millisecond in which it occurs. Its clock starts at its own
first millisecond.
-/

namespace CallProfile

/-- One point of a series. -/
structure SeriesPoint where
  /-- Milliseconds since the first point. -/
  elapsedMs : Nat
  count : Nat
  deriving DecidableEq, Repr

namespace Series

/-- The event of a sequencer call. -/
def sequencerEvent : String := "Seq"

/-- The event of a read inside a transaction. -/
def transactionalRead : String := "access(tx)"

/-- The event of a read outside of transactions. -/
def plainRead : String := "access(nonTx)"

/-- The series of counts by ascending millisecond. -/
def ofCounts : List (Nat × Nat) → List SeriesPoint
  | [] => []
  | (first, count) :: rest =>
    ((first, count) :: rest).map fun (bucket, count) => ⟨bucket - first, count⟩

/-- How many records of the event began in each millisecond. -/
def ofEvent (records : List Record) (event : String) : List SeriesPoint :=
  ofCounts (tally ((records.filter (·.isEvent event)).map (·.startMs)))

/-- How many threads began a call in each millisecond. -/
def ofThreads (records : List Record) : List SeriesPoint :=
  let threads := grouped (records.map fun r => (r.startMs, r.threadId))
  ofCounts (threads.map fun (bucket, ids) => (bucket, ids.eraseDups.length))

end Series

/-- The reads inside and outside of transactions per millisecond, each on its own clock. -/
structure ReadSeries where
  tx : List SeriesPoint
  nonTx : List SeriesPoint
  deriving DecidableEq

namespace ReadSeries

/-- The reads of a trace. -/
def ofRecords (records : List Record) : ReadSeries :=
  ⟨Series.ofEvent records Series.transactionalRead, Series.ofEvent records Series.plainRead⟩

/-- Whether there are no reads at all. -/
def isEmpty (reads : ReadSeries) : Bool :=
  reads.tx.isEmpty && reads.nonTx.isEmpty

end ReadSeries

end CallProfile
