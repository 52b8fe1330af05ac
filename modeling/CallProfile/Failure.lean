import CallProfile.Terminal

/-!
# Failures

The ways in which the program can fail, and how each is told to the user.
-/

namespace CallProfile

/-- Why the program gave up, or a chart was not drawn. -/
inductive Failure where
  /-- A file could not be read. -/
  | inaccessible (path error : String)
  /-- The input holds no record. -/
  | noRecords (source : String) (skipped : Nat)
  /-- A chart has nothing to show. -/
  | emptyChart (chart : String)
  /-- A chart of one table was asked for without a table. -/
  | missingTableId (chart : String)
  /-- The directory for charts could not be made. -/
  | noDirectory (path error : String)
  /-- A chart could not be drawn. -/
  | notDrawn (path message : String)
  /-- Some of the charts failed. -/
  | chartsFailed (failed total : Nat)
  /-- The settings are not usable. -/
  | invalidConfig (message : String)
  deriving DecidableEq, Repr

namespace Failure

open Terminal

/-- A hint under a message. -/
def hint (text : String) : String :=
  "\n\n" ++ hintSign ++ " " ++ text

/-- The wording of a failure. -/
def message : Failure → String
  | inaccessible path error =>
    failure ("Cannot access " ++ boldSpan path ++ ": " ++ error)
  | noRecords source skipped =>
    failureSign ++ " " ++ redEndingBold "No profiler records found in " source ++
      " (" ++ toString skipped ++ " malformed lines)" ++
      hint (dimSpan "Lines should look like " ++ "1524272351029000000 17 | Seq [dur] 15000")
  | emptyChart chart => failureSign ++ " " ++ redEndingBold "Nothing to plot for " chart
  | missingTableId chart =>
    failure (boldSpan chart ++ " needs a table ID") ++
      hint (dimSpan "Pass " ++ "--table-id" ++ dimSpan " or set " ++ "table-id" ++
        dimSpan " in the config file")
  | noDirectory path error =>
    failure ("Failed to create output directory " ++ path ++ ": " ++ error)
  | notDrawn path message => failure ("Failed to draw " ++ boldSpan path ++ ": " ++ message)
  | chartsFailed failed total =>
    failure (toString failed ++ " of " ++ toString total ++ " charts failed")
  | invalidConfig message => failure ("Invalid configuration: " ++ message)

end Failure

end CallProfile
