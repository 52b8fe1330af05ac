import CallProfile.Number.Scalar

/-!
# Call records

A record is one traced call of a workload: when it began, on which thread, what happened, how long
it took, and which method and tables it was about.
-/

namespace CallProfile

open Number (Scalar)

/-- One traced call. Times are in nanoseconds. -/
structure Record where
  timestampNs : Nat
  threadId : Nat
  event : String
  durationNs : Option Nat
  method : Option String
  tableIds : List String
  /-- Whether the line of the call belongs to a transaction. -/
  transactional : Bool
  deriving DecidableEq, Repr

namespace Record

/-- The nanoseconds of a millisecond. -/
def nanosPerMs : Nat := 1000000

/-- The whole millisecond in which the call began. -/
def startMs (r : Record) : Nat :=
  r.timestampNs / nanosPerMs

/-- The duration in milliseconds. A call without a duration took no time. -/
def durationMs (α : Type) [Scalar α] (r : Record) : α :=
  Scalar.ofNat (r.durationNs.getD 0) / Scalar.ofNat nanosPerMs

/-- Whether the record is of the named event. -/
def isEvent (r : Record) (name : String) : Bool :=
  r.event == name

/-- Whether the call was about the table. -/
def namesTable (r : Record) (table : String) : Bool :=
  r.tableIds.contains table

/-- Whether the call invoked one of the methods. -/
def callsOneOf (r : Record) (methods : List String) : Bool :=
  r.method.any methods.contains

end Record

end CallProfile
