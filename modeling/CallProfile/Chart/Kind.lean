/-!
# Kinds of charts

The charts that can be drawn of a trace, with the names by which they are asked for and the files
they write.
-/

namespace CallProfile

/-- A kind of chart. -/
inductive ChartKind where
  /-- Distinct threads per millisecond. -/
  | activeThreads
  /-- Sequencer calls per millisecond. -/
  | seqCalls
  /-- Operations per transaction as a histogram. -/
  | opsPerTx
  /-- Operations per table, stacked by event. -/
  | tableOps
  /-- Accesses and mutations per transaction. -/
  | tableOpsPerTx
  /-- Accesses and mutations per transaction on one table. -/
  | tableIdOpsPerTx
  /-- The share of every event. -/
  | allOps
  /-- The share of every method. -/
  | allMethods
  /-- The share of every method inside transactions. -/
  | allMethodsTx
  /-- The share of every method on one table. -/
  | allMethodsById
  /-- The distribution and the mean of latencies by event. -/
  | opLatency
  /-- The mean time of every event inside transactions. -/
  | txOpTime
  /-- Reads inside and outside of transactions per millisecond. -/
  | reads
  deriving DecidableEq, Repr

namespace ChartKind

/-- All kinds, in the order in which they are drawn. -/
def all : List ChartKind :=
  [activeThreads, seqCalls, opsPerTx, tableOps, tableOpsPerTx, tableIdOpsPerTx, allOps, allMethods,
    allMethodsTx, allMethodsById, opLatency, txOpTime, reads]

/-- The name of a kind. -/
def name : ChartKind → String
  | activeThreads => "active-threads"
  | seqCalls => "seq-calls"
  | opsPerTx => "ops-per-tx"
  | tableOps => "table-ops"
  | tableOpsPerTx => "table-ops-per-tx"
  | tableIdOpsPerTx => "table-id-ops-per-tx"
  | allOps => "all-ops"
  | allMethods => "all-methods"
  | allMethodsTx => "all-methods-tx"
  | allMethodsById => "all-methods-by-id"
  | opLatency => "op-latency"
  | txOpTime => "tx-op-time"
  | reads => "reads"

/-- The kind of a name. -/
def ofName? (text : String) : Option ChartKind :=
  all.find? (·.name == text)

/-- What the chart shows, in a few words. -/
def about : ChartKind → String
  | activeThreads => "Distinct threads logging per millisecond"
  | seqCalls => "Sequencer calls per millisecond"
  | opsPerTx => "Histogram of operations per transaction"
  | tableOps => "Operations per table, stacked by event"
  | tableOpsPerTx => "Access vs mutate calls per transaction"
  | tableIdOpsPerTx => "Access vs mutate calls per transaction on one table"
  | allOps => "Share of each event"
  | allMethods => "Share of each method"
  | allMethodsTx => "Share of each method inside transactions"
  | allMethodsById => "Share of each method on one table"
  | opLatency => "Latency distribution and average per event"
  | txOpTime => "Average time per event inside transactions"
  | reads => "Transactional and non-transactional reads per millisecond"

/-- The files that the chart writes, one for each of its pictures. -/
def files : ChartKind → List String
  | activeThreads => ["count_active_threads.png"]
  | seqCalls => ["count_seq_calls.png"]
  | opsPerTx => ["count_ops_per_tx.png"]
  | tableOps => ["count_table_ops.png"]
  | tableOpsPerTx => ["count_table_ops_per_tx.png"]
  | tableIdOpsPerTx => ["count_id_table_ops_per_tx.png"]
  | allOps => ["count_all_ops.png"]
  | allMethods => ["count_all_methods.png"]
  | allMethodsTx => ["count_all_methods_tx.png"]
  | allMethodsById => ["count_all_methods_by_id.png"]
  | opLatency => ["count_all_ops_time_boxplot.png", "count_all_ops_time_bar.png"]
  | txOpTime => ["count_all_ops_time_by_tx.png"]
  | reads => ["count_reads.png"]

/-- Whether the chart breaks down the calls of one table. -/
def needsTable : ChartKind → Bool
  | tableIdOpsPerTx | allMethodsById => true
  | _ => false

end ChartKind

end CallProfile
