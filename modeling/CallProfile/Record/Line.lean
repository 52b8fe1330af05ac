import CallProfile.Number.Natural
import CallProfile.Record.Basic
import CallProfile.Text.Blank
import CallProfile.Text.Lines
import CallProfile.Text.Quoted

/-!
# Lines of a log

A line is a sequence of words. The first four are the timestamp, the thread, a separator and the
name of the event; after them stand fields, each a bracketed key with its value, in any order:

* `[dur]` with the duration in nanoseconds,
* `[method]` with the name of the method,
* `[id]` with one table,
* `[ids]` with any number of tables, up to the next bracketed key.

Every other word is free text. The kind and amount of space between the words never matters.
-/

namespace CallProfile

/-- The parts of a line that a message can name. -/
inductive LineField where
  | timestamp
  | thread
  | separator
  | event
  | duration
  | method
  | table
  deriving DecidableEq, Repr

/-- The name of a part in messages. -/
def LineField.name : LineField → String
  | timestamp => "timestamp"
  | thread => "thread id"
  | separator => "separator"
  | event => "event"
  | duration => "duration"
  | method => "method"
  | table => "table id"

/-- Why a line holds no record. -/
inductive LineError where
  /-- The line has no words. -/
  | empty
  /-- The line ends before a part that it needs. -/
  | missing (field : LineField)
  /-- A part that must be a number below `2 ^ 64` is not. -/
  | invalid (field : LineField) (value : String)
  deriving DecidableEq, Repr

/-- The wording of an error. -/
def LineError.message : LineError → String
  | empty => "empty line"
  | missing field => "missing " ++ field.name
  | invalid field value => "invalid " ++ field.name ++ ": " ++ Text.quoted value

namespace Record

/-- What one field says about the record. -/
inductive Item where
  | duration (ns : Nat)
  | method (name : String)
  | table (id : String)
  deriving DecidableEq, Repr

/-- Whether a word is a bracketed key: brackets around at least one character. -/
def isBracketed (word : String) : Bool :=
  match word.toList with
  | '[' :: rest => 2 ≤ rest.length && rest.getLast? == some ']'
  | _ => false

/-- The number that a part of the line stands for. -/
def readNumber (field : LineField) (word : String) : Except LineError Nat :=
  match Number.readNatural? Number.limit64 word.toList with
  | some n => .ok n
  | none => .error (.invalid field word)

/-- The items of the words after the event. While a list of tables is open (`listing`), every word
that is not a key names one more table. -/
def readItems (listing : Bool) : List String → Except LineError (List Item)
  | [] => .ok []
  | word :: rest =>
    if listing && !isBracketed word then return .table word :: (← readItems true rest)
    else if word = "[dur]" then
      match rest with
      | [] => .error (.missing .duration)
      | value :: rest => do
        let ns ← readNumber .duration value
        return .duration ns :: (← readItems false rest)
    else if word = "[method]" then
      match rest with
      | [] => .error (.missing .method)
      | name :: rest => return .method name :: (← readItems false rest)
    else if word = "[id]" then
      match rest with
      | [] => .error (.missing .table)
      | id :: rest => return .table id :: (← readItems false rest)
    else readItems (word == "[ids]") rest

/-- The record with one more item. A later duration or method replaces an earlier one. -/
def addItem (r : Record) : Item → Record
  | .duration ns => { r with durationNs := some ns }
  | .method name => { r with method := some name }
  | .table id => { r with tableIds := r.tableIds ++ [id] }

/-- The record of a sequence of words. -/
def ofWords (transactional : Bool) : List String → Except LineError Record
  | [] => .error .empty
  | time :: rest => do
    let timestampNs ← readNumber .timestamp time
    match rest with
    | [] => .error (.missing .thread)
    | thread :: rest => do
      let threadId ← readNumber .thread thread
      match rest with
      | [] => .error (.missing .separator)
      | [_] => .error (.missing .event)
      | _ :: event :: rest =>
        let items ← readItems false rest
        let blank : Record := ⟨timestampNs, threadId, event, none, none, [], transactional⟩
        return items.foldl addItem blank

/-- The mark of a transactional call. -/
def transactionMark : String := "(tx)"

/-- Whether the line carries the mark of a transactional call anywhere. -/
def isMarked (line : String) : Bool :=
  Text.hasPart transactionMark.toList line.toList

/-- The record of a line. -/
def ofLine (line : String) : Except LineError Record :=
  ofWords (isMarked line) (Text.words line)

end Record

/-- What the lines of a text hold. -/
structure LineReport where
  records : List Record
  /-- The lines that are neither blank nor a record, by their number from 1. -/
  malformed : List (Nat × LineError)
  deriving DecidableEq

namespace LineReport

/-- The report with one more line in front of it. -/
def add (number : Nat) (line : Except LineError Record) (report : LineReport) : LineReport :=
  match line with
  | .ok r => { report with records := r :: report.records }
  | .error .empty => report
  | .error e => { report with malformed := (number, e) :: report.malformed }

/-- The report on numbered lines. -/
def ofLines (lines : List (String × Nat)) : LineReport :=
  lines.foldr (fun (line, index) report => report.add (index + 1) (Record.ofLine line)) ⟨[], []⟩

/-- The report on a text. Blank lines are left out without a trace. -/
def ofText (text : String) : LineReport :=
  ofLines (Text.lines text).zipIdx

/-- How many lines were dropped. -/
def skipped (report : LineReport) : Nat :=
  report.malformed.length

end LineReport

end CallProfile
