import CallProfile.Columns
import CallProfile.Latency
import CallProfile.Number.Power
import CallProfile.Share
import CallProfile.Trace
import CallProfile.Transaction

/-!
# Summaries

The text that sums up a trace: the events with their shares, the methods, the latencies and the
sizes of the transactions.
-/

namespace CallProfile.Summary

open Number (Scalar)

/-- By descending count, and by name where counts are equal. -/
def moreOften (a b : String × Nat) : Bool :=
  b.2 < a.2 || (a.2 == b.2 && a.1 ≤ b.1)

/-- A number of things. -/
def amount (n : Nat) (word : String) : String :=
  toString n ++ " " ++ word ++ (if n = 1 then "" else "s")

/-- A count as a percentage of a total. -/
def percentage (count total : Nat) : String :=
  let share : Float := Scalar.ofNat count / Scalar.ofNat total * 100.0
  Scalar.fixed 1 share ++ "%"

/-- The first line: how much was read. -/
def opening (trace : Trace) : String :=
  amount trace.records.length "record" ++ " from " ++ amount trace.sources.length "source" ++
    ", " ++ toString trace.skipped ++ " skipped\n"

/-- The table of events. -/
def eventTable (records : List Record) : String :=
  let total := max records.length 1
  Columns.table ["Event", "Count", "Share"]
    (((Share.ofEvents records).mergeSort moreOften).map fun (event, count) =>
      [event, toString count, percentage count total])

/-- The table of methods. -/
def methodTable (records : List Record) : String :=
  let inTx := Share.ofMethods records .transactional
  Columns.table ["Method", "Calls", "In tx"]
    (((Share.ofMethods records .all).mergeSort moreOften).map fun (method, count) =>
      [method, toString count, toString (countOf inTx method)])

/-- The table of latencies, the slowest event first. -/
def latencyTable (records : List Record) : String :=
  Columns.table ["Latency (ms)", "Count", "Mean", "Median", "Max"]
    ((Latency.ofRecords Float records).map fun s =>
      [s.event, toString s.count, Scalar.fixed 3 s.mean, Scalar.fixed 3 s.median,
        Scalar.fixed 3 s.max])

/-- The line on transactions. -/
def transactionLine (records : List Record) : String :=
  let sizes := Transaction.sizes records
  match sizes.max? with
  | none => "Transactions: none completed\n"
  | some most =>
    let mean : Float := Scalar.ofNat (Number.total sizes) / Scalar.ofNat sizes.length
    "Transactions: " ++ toString sizes.length ++ " completed, " ++ Scalar.fixed 2 mean ++
      " ops on average, " ++ toString most ++ " at most\n"

/-- The summary of a trace. The table of methods is left out where no record has one. -/
def text (trace : Trace) : String :=
  let records := trace.records
  let methods :=
    if (Share.ofMethods records .all).isEmpty then [] else [methodTable records]
  "\n".intercalate
    ([opening trace, eventTable records] ++ methods ++
      [latencyTable records, transactionLine records])

end CallProfile.Summary
