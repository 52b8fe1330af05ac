import CallProfile.Grouping
import CallProfile.Record.Basic
import CallProfile.Register

/-!
# Transactions

A transaction runs from a `TXBegin` to the next `TXEnd` of the same thread. A second `TXBegin`
starts over. A thread that has begun once keeps counting after its `TXEnd`, so a later `TXEnd`
without a `TXBegin` closes what came since; a `TXEnd` of a thread that never began is ignored.
-/

namespace CallProfile

open Number (Scalar)

namespace Transaction

/-- The event that begins a transaction. -/
def beginEvent : String := "TXBegin"

/-- The event that ends a transaction. -/
def endEvent : String := "TXEnd"

/-- Whether the record begins a transaction. -/
def begins (r : Record) : Bool :=
  r.isEvent beginEvent

/-- Whether the record ends a transaction. -/
def ends (r : Record) : Bool :=
  r.isEvent endEvent

variable {α : Type}

/-- What every thread has collected when it closes a transaction, in the order of the closing
records. A thread starts from `fresh` at each `TXBegin` and `TXEnd`, and `step` adds each record
between. -/
def closings (fresh : α) (step : α → Record → α) :
    Register Nat α → List Record → List α
  | _, [] => []
  | collected, r :: rest =>
    if begins r then closings fresh step (collected.put r.threadId fresh) rest
    else
      match collected.get? r.threadId with
      | none => closings fresh step collected rest
      | some value =>
        if ends r then value :: closings fresh step (collected.put r.threadId fresh) rest
        else closings fresh step (collected.put r.threadId (step value r)) rest

/-- The number of operations of every closed transaction. -/
def sizes (records : List Record) : List Nat :=
  closings 0 (fun count _ => count + 1) .empty records

/-- The calls of a transaction that count as accesses and as mutations. -/
structure CallCounts where
  access : Nat
  mutate : Nat
  deriving DecidableEq, Repr

/-- The counts with one more call. A method of both lists counts once in each class. -/
def CallCounts.add (accessOps mutateOps : List String) (counts : CallCounts) (r : Record) :
    CallCounts :=
  ⟨counts.access + (r.callsOneOf accessOps).toNat,
    counts.mutate + (r.callsOneOf mutateOps).toNat⟩

/-- What every thread has called when it closes a transaction. Only records on the table count if
one is given, and a record on another table is passed over before its thread is looked up. -/
def callClosings (accessOps mutateOps : List String) (table : Option String) :
    Register Nat CallCounts → List Record → List CallCounts
  | _, [] => []
  | collected, r :: rest =>
    if begins r then
      callClosings accessOps mutateOps table (collected.put r.threadId ⟨0, 0⟩) rest
    else if ends r then
      match collected.get? r.threadId with
      | none => callClosings accessOps mutateOps table collected rest
      | some counts =>
        counts ::
          callClosings accessOps mutateOps table (collected.put r.threadId ⟨0, 0⟩) rest
    else if table.all r.namesTable then
      match collected.get? r.threadId with
      | none => callClosings accessOps mutateOps table collected rest
      | some counts =>
        callClosings accessOps mutateOps table
          (collected.put r.threadId (counts.add accessOps mutateOps r)) rest
    else callClosings accessOps mutateOps table collected rest

/-- The access and mutation calls of every closed transaction. -/
def calls (records : List Record) (accessOps mutateOps : List String)
    (table : Option String) : List CallCounts :=
  callClosings accessOps mutateOps table .empty records

/-- How many transactions did a number of operations, by class. -/
structure Frequency where
  ops : Nat
  accessTxs : Nat
  mutateTxs : Nat
  deriving DecidableEq, Repr

/-- The numbers of transactions for each number of operations that occurs in either class. -/
def frequencyTable (access mutate : List Nat) : List Frequency :=
  (ascending (access ++ mutate)).map fun ops => ⟨ops, access.count ops, mutate.count ops⟩

/-- The records from a `TXBegin` through the `TXEnd` of its thread, both included. -/
def inside : Register Nat Bool → List Record → List Record
  | _, [] => []
  | running, r :: rest =>
    let now := begins r || (running.get? r.threadId).getD false
    let later := inside (running.put r.threadId (now && !ends r)) rest
    if now then r :: later else later

/-- The mean duration in milliseconds of every event inside transactions, by first occurrence. -/
def meanTimes (α : Type) [Scalar α] (records : List Record) : List (String × α) :=
  let members := inside .empty records
  (members.map (·.event)).eraseDups.map fun event =>
    let own := members.filter (·.isEvent event)
    let total := (own.map (·.durationMs α)).foldl (· + ·) 0.0
    (event, total / Scalar.ofNat own.length)

end Transaction

end CallProfile
