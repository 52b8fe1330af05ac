import CallProfile.Main
import CallProfile.Session
import CallProfile.Proofs.Record.Line
import CallProfile.Proofs.Reordering
import CallProfile.Proofs.Trace.Joining
import CallProfile.Proofs.Trace.Order
import CallProfile.Proofs.TraceEvent
import CallProfile.Proofs.Transaction.Calls
import CallProfile.Proofs.Transaction.Counts
import CallProfile.Proofs.Transaction.Threads
import CallProfile.Proofs.Tally
import CallProfile.Proofs.Summary
import CallProfile.Proofs.Text.Spacing
import CallProfile.Proofs.Transaction.Views
import CallProfile.Proofs.Record.Rendering
import CallProfile.Proofs.Text.Utf8
import CallProfile.Proofs.Trace.Sources
import CallProfile.Proofs.Transaction.Extension
import CallProfile.Proofs.Moving
import CallProfile.Proofs.Chart.Content
import CallProfile.Proofs.Chart.Containment
import CallProfile.Proofs.Number.Normal
import CallProfile.Proofs.Number.Positive
import CallProfile.Proofs.Chart.Outcome
import CallProfile.Proofs.Lookup
import CallProfile.Proofs.Number.Nearest
import CallProfile.Proofs.Number.Fields
import CallProfile.Proofs.Number.Reading
import CallProfile.Proofs.Number.Shortest
import CallProfile.Proofs.Toml.Number
import CallProfile.Proofs.Toml.Document
import CallProfile.Proofs.Disk.Writing
import CallProfile.Proofs.Config.Fields
import CallProfile.Proofs.Config.Variables
import CallProfile.Proofs.Config.Printed
import CallProfile.Proofs.Remarks
import CallProfile.Proofs.Program.Loading
import CallProfile.Proofs.Program.Plot
import CallProfile.Proofs.Chart.Drawing
import CallProfile.Proofs.Disk.Directory
import CallProfile.Proofs.Chart.Independence
import CallProfile.Proofs.Share
import CallProfile.Proofs.Transaction.Pairs
import CallProfile.Proofs.Latency.Box
import CallProfile.Proofs.Number.Monotone
import CallProfile.Proofs.Number.Arithmetic
import CallProfile.Proofs.Latency.Whiskers
import CallProfile.Proofs.TableUse
import CallProfile.Proofs.Series
import CallProfile.Proofs.Collecting
import CallProfile.Proofs.Transaction.Frequencies
import CallProfile.Proofs.Transaction.Means
import CallProfile.Proofs.Histogram
import CallProfile.Proofs.Chart.Stacking
import CallProfile.Proofs.Number.Distance
import CallProfile.Proofs.Chart.TableNames
import CallProfile.Proofs.Chart.RowLabels
import CallProfile.Proofs.Number.Unsigned
import CallProfile.Proofs.Latency.Apart
import CallProfile.Proofs.Chart.BoxPlot
import CallProfile.Proofs.Chart.Pie
import CallProfile.Proofs.Latency.Order
import CallProfile.Proofs.Toml.Keys
import CallProfile.Proofs.Config.Names
import CallProfile.Proofs.Config.Precedence
import CallProfile.Proofs.TraceEvent.Timing
import CallProfile.Proofs.Columns
import CallProfile.Proofs.Record.Spacing
