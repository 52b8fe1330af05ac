import CallProfile.TraceEvent
import CallProfile.Proofs.Json.Fields
import CallProfile.Proofs.Json.Number

/-!
# What a viewer reads from the export

The export is a well-formed document, and reading it gives one event for each record, in the order
of the records, with all that the record says up to the microsecond (`export_text_shows`).
-/

namespace CallProfile

namespace TraceEvent

open Json (Distinct Document NumbersSpelled natural? read?)

/-- The value under a key of the arguments of an event. -/
def argument? (key : String) (event : Json) : Option Json :=
  (event.field? "args").bind (Json.field? key)

/-- The event of a document shows the record. -/
structure Shows (r : Record) (event : Json) : Prop where
  distinct : Distinct event
  distinct_arguments : ∃ arguments, event.field? "args" = some arguments ∧ Distinct arguments
  name : event.field? "name" = some (.string r.event)
  thread : (event.field? "tid").bind natural? = some r.threadId
  start : (event.field? "ts").bind natural? = some (r.timestampNs / 1000)
  /-- A record with a duration is a bar of that length. -/
  bar (ns : Nat) : r.durationNs = some ns →
    event.field? "ph" = some (.string "X") ∧
    (event.field? "dur").bind natural? = some (ns / 1000) ∧ event.field? "s" = none ∧
    argument? "duration_ms" event = some (.ofFloat (r.durationMs Float))
  /-- A record without a duration is a mark on its thread. -/
  mark : r.durationNs = none →
    event.field? "ph" = some (.string "I") ∧ event.field? "s" = some (.string "t") ∧
    event.field? "dur" = none ∧ argument? "duration_ms" event = none
  category : event.field? "cat" = if r.transactional then some (.string "tx") else none
  method : argument? "method" event = r.method.map .string
  tables : argument? "tables" event =
    if r.tableIds = [] then none else some (.array (r.tableIds.map .string))

/-! ## Fields -/

section Fields

variable (e : TraceEvent)

/-- No field of an event is repeated. -/
theorem distinct_to_json : Distinct e.toJson := by
  cases e with
  | mk name phase startUs thread transactional method tables durationMs =>
      cases phase with
      | complete us => cases transactional <;> simp [Distinct, toJson, Phase.extent]
      | instant => cases transactional <;> simp [Distinct, toJson, Phase.extent]

/-- A field that may be left out has no key but its own. -/
theorem keys_optional (key : String) (value : Option Json) :
    ((optional key value).map Prod.fst).Sublist [key] := by
  cases value <;> simp [optional]

/-- No argument of an event is repeated. -/
theorem distinct_arguments : Distinct (.object e.arguments) := by
  have hmethod := keys_optional "method" (e.method.map .string)
  have htables : ((if e.tables.isEmpty then [] else [("tables", Json.ofStrings e.tables)]).map
      Prod.fst).Sublist ["tables"] := by
    split <;> simp
  have hduration := keys_optional "duration_ms" (e.durationMs.map .ofFloat)
  have hkeys : (e.arguments.map Prod.fst).Sublist ["method", "tables", "duration_ms"] := by
    rw [arguments, List.map_append, List.map_append]
    exact (hmethod.append htables).append hduration
  exact hkeys.nodup (by decide)

/-- The fields that no event leaves out. -/
theorem field_always {key : String} {value : Json}
    (h : (key, value) ∈ [("name", .string e.name), ("ph", .string e.phase.letter),
      ("ts", .ofNat e.startUs), e.phase.extent, ("tid", .ofNat e.thread),
      ("args", .object e.arguments)]) : e.toJson.field? key = some value := by
  refine Json.field_of_mem e.distinct_to_json ?_
  simp only [List.mem_cons, List.not_mem_nil, or_false] at h
  rcases h with h | h | h | h | h | h
  all_goals simp [h]

/-- An event is in the category of transactions or in none. -/
theorem field_cat :
    e.toJson.field? "cat" = if e.transactional then some (.string "tx") else none := by
  cases htx : e.transactional with
  | true => exact Json.field_of_mem e.distinct_to_json (by simp [htx])
  | false =>
      refine Json.field_of_not_mem ?_
      cases e.phase <;> simp [htx, Phase.extent]

/-- The extent of the other phase is not among the fields. -/
theorem field_of_other_phase {key : String} (hkey : key ∈ ["dur", "s"])
    (hne : key ≠ e.phase.extent.1) : e.toJson.field? key = none := by
  refine Json.field_of_not_mem ?_
  simp only [List.mem_cons, List.not_mem_nil, or_false] at hkey
  rcases hkey with rfl | rfl
  · cases e.transactional <;> simp [hne]
  · cases e.transactional <;> simp [hne]

/-- The arguments of an event are what stands under their key. -/
theorem argument_to_json (key : String) :
    argument? key e.toJson = Json.field? key (.object e.arguments) := by
  have hargs : e.toJson.field? "args" = some (.object e.arguments) := e.field_always (by simp)
  rw [argument?, hargs, Option.bind_some]

/-- The method is among the arguments of an event that has one. -/
theorem argument_method : argument? "method" e.toJson = e.method.map .string := by
  rw [argument_to_json]
  cases h : e.method with
  | some method => exact Json.field_of_mem e.distinct_arguments (by simp [arguments, optional, h])
  | none =>
      refine Json.field_of_not_mem ?_
      cases e.durationMs <;> simp [arguments, optional, h]

/-- The tables are among the arguments of an event that has any. -/
theorem argument_tables : argument? "tables" e.toJson =
    if e.tables = [] then none else some (.ofStrings e.tables) := by
  rw [argument_to_json]
  split
  · rename_i h
    refine Json.field_of_not_mem ?_
    cases e.method <;> cases e.durationMs <;> simp [arguments, optional, h]
  · rename_i h
    exact Json.field_of_mem e.distinct_arguments (by simp [arguments, optional, h])

/-- The duration is among the arguments of an event that has one. -/
theorem argument_duration_ms : argument? "duration_ms" e.toJson = e.durationMs.map .ofFloat := by
  rw [argument_to_json]
  cases h : e.durationMs with
  | some method => exact Json.field_of_mem e.distinct_arguments (by simp [arguments, optional, h])
  | none =>
      refine Json.field_of_not_mem ?_
      cases e.method <;> simp [arguments, optional, h]

end Fields

/-- The event of a record shows the record. -/
theorem shows_of_record (r : Record) : Shows r (ofRecord r).toJson where
  distinct := (ofRecord r).distinct_to_json
  distinct_arguments := ⟨_, (ofRecord r).field_always (by simp), (ofRecord r).distinct_arguments⟩
  name := (ofRecord r).field_always (by simp [ofRecord])
  thread := by
    have htid : (ofRecord r).toJson.field? "tid" = some (.ofNat r.threadId) :=
      (ofRecord r).field_always (by simp [ofRecord])
    rw [htid, Option.bind_some, Json.natural_of_nat]
  start := by
    have hts : (ofRecord r).toJson.field? "ts" = some (.ofNat (r.timestampNs / 1000)) :=
      (ofRecord r).field_always (by simp [ofRecord, nanosPerMicro])
    rw [hts, Option.bind_some, Json.natural_of_nat]
  bar ns hns := by
    have hphase : (ofRecord r).phase = .complete (ns / 1000) := by
      simp [ofRecord, hns, nanosPerMicro]
    have hdur : (ofRecord r).toJson.field? "dur" = some (.ofNat (ns / 1000)) :=
      (ofRecord r).field_always (by simp [hphase, Phase.extent])
    refine ⟨(ofRecord r).field_always (by simp [hphase, Phase.letter]), ?_,
      (ofRecord r).field_of_other_phase (by simp) (by simp [hphase, Phase.extent]), ?_⟩
    · rw [hdur, Option.bind_some, Json.natural_of_nat]
    · rw [argument_duration_ms]
      simp [ofRecord, hns]
  mark hnone := by
    have hphase : (ofRecord r).phase = .instant := by simp [ofRecord, hnone]
    refine ⟨(ofRecord r).field_always (by simp [hphase, Phase.letter]),
      (ofRecord r).field_always (by simp [hphase, Phase.extent]),
      (ofRecord r).field_of_other_phase (by simp) (by simp [hphase, Phase.extent]), ?_⟩
    rw [argument_duration_ms]
    simp [ofRecord, hnone]
  category := (ofRecord r).field_cat
  method := (ofRecord r).argument_method
  tables := (ofRecord r).argument_tables

/-! ## The document -/

/-- A natural number is written as the grammar has it. -/
theorem numbers_spelled_nat (n : Nat) : NumbersSpelled (.ofNat n) :=
  .number _ (Json.literal_natural n)

/-- The numbers of the arguments are written as the grammar has them. -/
theorem numbers_spelled_arguments (e : TraceEvent) : NumbersSpelled (.object e.arguments) := by
  refine .object _ fun field hfield => ?_
  simp only [arguments, List.mem_append] at hfield
  rcases hfield with (hmethod | htables) | hduration
  · obtain ⟨method, -, rfl⟩ : ∃ method, e.method = some method ∧
        field = ("method", .string method) := by
      simpa [optional, eq_comm] using hmethod
    exact .string method
  · obtain ⟨-, rfl⟩ : e.tables ≠ [] ∧ field = ("tables", .ofStrings e.tables) := by
      simpa using htables
    refine .array _ fun item hitem => ?_
    obtain ⟨table, -, rfl⟩ := List.mem_map.mp hitem
    exact .string table
  · obtain ⟨ms, -, rfl⟩ : ∃ ms, e.durationMs = some ms ∧
        field = ("duration_ms", .ofFloat ms) := by
      simpa [optional, eq_comm] using hduration
    exact Json.numbers_spelled_float ms

/-- The numbers of an event are written as the grammar has them. -/
theorem numbers_spelled_to_json (e : TraceEvent) : NumbersSpelled e.toJson := by
  have hextent : NumbersSpelled e.phase.extent.2 := by
    cases e.phase with
    | complete us => exact numbers_spelled_nat us
    | instant => exact .string "t"
  refine .object _ ?_
  simp only [List.forall_mem_append, List.forall_mem_cons]
  refine ⟨⟨⟨.string _, .string _, numbers_spelled_nat _, hextent, numbers_spelled_nat _,
    numbers_spelled_nat _, by simp⟩, ?_⟩, e.numbers_spelled_arguments, by simp⟩
  intro field hfield
  obtain ⟨-, rfl⟩ : e.transactional = true ∧ field = ("cat", .string "tx") := by
    simpa using hfield
  exact .string "tx"

/-- The numbers of the document are written as the grammar has them. -/
theorem numbers_spelled_document (events : List TraceEvent) : NumbersSpelled (document events) := by
  refine .object _ ?_
  have hevents : NumbersSpelled (.array (events.map toJson)) := by
    refine .array _ fun item hitem => ?_
    obtain ⟨e, -, rfl⟩ := List.mem_map.mp hitem
    exact e.numbers_spelled_to_json
  simp only [List.forall_mem_cons]
  exact ⟨hevents, .string _, .string _, by simp⟩

/-- The export of records is a well-formed document of one value. Reading it gives one event for
each record, in the order of the records, and each event shows its record. -/
theorem export_text_shows (records : List Record) :
    ∃ document, (∀ value, Document (exportText records) value ↔ value = document) ∧
      read? (exportText records) = some document ∧ Distinct document ∧
      ∃ events, document.field? "traceEvents" = some (.array events) ∧
        List.Forall₂ Shows records events := by
  have hspelled := numbers_spelled_document (records.map ofRecord)
  refine ⟨document (records.map ofRecord), fun value => Json.document_pretty_iff hspelled,
    Json.read_pretty hspelled, by simp [Distinct, document],
    (records.map ofRecord).map toJson, rfl, ?_⟩
  rw [List.map_map, List.forall₂_map_right_iff, List.forall₂_same]
  exact fun r _ => shows_of_record r

end TraceEvent

end CallProfile
