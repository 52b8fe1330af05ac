import CallProfile.Proofs.Transaction.Calls
import CallProfile.Proofs.Transaction.Counts
import CallProfile.Proofs.Transaction.Inside

/-!
# Traces that go on

A trace that goes on keeps what was read off it: each scan of the longer trace is the scan of the
shorter one and, from the register at the cut, the scan of the records behind it. So transactions
already closed keep their sizes and calls, and the events first seen inside transactions keep their
order. The main result is `analyses_extend`, which also counts the transactions that are closed
behind the cut.
-/

namespace CallProfile.Transaction

open Number (Scalar)

/-! ## Scans of a longer trace -/

/-- What a scan lists for a trace, it lists first for a longer one. -/
theorem closings_extend {α : Type} (fresh : α) (step : α → Record → α)
    (records more : List Record) :
    closings fresh step .empty records <+: closings fresh step .empty (records ++ more) := by
  rw [closings_append]
  exact List.prefix_append _ _

/-- The means inside transactions are listed by the first occurrences of their events. -/
theorem keys_mean_times (α : Type) [Scalar α] (records : List Record) :
    (meanTimes α records).map (·.1) = ((inside .empty records).map (·.event)).eraseDups := by
  simp [meanTimes, Function.comp_def]

/-- The events with a mean inside transactions stand first in a longer trace, in the same order. -/
theorem keys_mean_times_extend (α : Type) [Scalar α] (records more : List Record) :
    (meanTimes α records).map (·.1) <+: (meanTimes α (records ++ more)).map (·.1) := by
  rw [keys_mean_times, keys_mean_times, inside_append, List.map_append, List.eraseDups_append]
  exact List.prefix_append _ _

/-! ## Transactions closed behind the cut -/

/-- Whether the record at a position behind a trace is a `TXEnd` with an earlier `TXBegin` of its
thread, in the trace or behind it. -/
def closesBehind (records more : List Record) (i : Nat) : Bool :=
  more[i]?.any fun r =>
    ends r && (records ++ more.take i).any fun b => b.threadId == r.threadId && begins b

/-- A thread has begun before a position exactly if one of the records before it says so. -/
theorem any_begins_take (records : List Record) (thread stop : Nat) :
    (records.take stop).any (fun b => b.threadId == thread && begins b) =
      !(positions begins records thread stop).isEmpty := by
  rw [Bool.eq_iff_iff, List.any_eq_true, Bool.not_eq_true', List.isEmpty_eq_false_iff_exists_mem]
  constructor
  · rintro ⟨b, hb, hbegins⟩
    obtain ⟨k, hk⟩ := List.getElem?_of_mem hb
    have hlt : k < stop := Nat.lt_of_lt_of_le (List.getElem?_eq_some_iff.mp hk).1
      (List.length_take_le stop records)
    rw [List.getElem?_take_of_lt hlt] at hk
    exact ⟨k, mem_positions.mpr ⟨hlt, by simpa [holdsAt, hk] using hbegins⟩⟩
  · rintro ⟨k, hk⟩
    obtain ⟨hlt, hholds⟩ := mem_positions.mp hk
    obtain ⟨b, hb, hbegins⟩ := (Option.any_eq_true _ _).mp hholds
    exact ⟨b, List.mem_of_getElem? ((List.getElem?_take_of_lt hlt).trans hb), hbegins⟩

/-- Whether the record at a position closes a transaction. -/
def closesAt (records : List Record) (i : Nat) : Bool :=
  records[i]?.any fun r =>
    ends r && (records.take i).any fun b => b.threadId == r.threadId && begins b

/-- The closing positions are those of the records that close a transaction. -/
theorem closing_positions_eq (records : List Record) :
    closingPositions records = (List.range records.length).filter (closesAt records) := by
  refine List.filter_congr fun i _ => ?_
  simp only [closesAt, any_begins_take]

/-- The records of a trace close in a longer trace what they closed, and the records behind it close
what `closesBehind` says. -/
theorem closing_positions_append (records more : List Record) :
    closingPositions (records ++ more) = closingPositions records ++
      ((List.range more.length).filter (closesBehind records more)).map (records.length + ·) := by
  have hfirst : ∀ i ∈ List.range records.length,
      closesAt (records ++ more) i = closesAt records i := by
    intro i hi
    have hlt := List.mem_range.mp hi
    simp only [closesAt, List.getElem?_append_left hlt,
      List.take_append_of_le_length (Nat.le_of_lt hlt)]
  have hbehind : closesAt (records ++ more) ∘ (records.length + ·) = closesBehind records more := by
    funext i
    simp [closesAt, closesBehind, List.getElem?_append_right, List.take_append,
      List.take_of_length_le]
  rw [closing_positions_eq, closing_positions_eq, List.length_append, List.range_add,
    List.filter_append, List.filter_congr hfirst, List.filter_map, hbehind]

/-- A trace that goes on rewrites nothing: the sizes of its closed transactions, their calls and the
events with a mean inside transactions are the first ones of the longer trace, and one transaction
more is closed for each `TXEnd` behind it with an earlier `TXBegin` of its thread. -/
theorem analyses_extend (records more : List Record) :
    sizes records <+: sizes (records ++ more) ∧
      (∀ (accessOps mutateOps : List String) (table : Option String),
        calls records accessOps mutateOps table <+:
          calls (records ++ more) accessOps mutateOps table) ∧
      (∀ (α : Type) [Scalar α],
        (meanTimes α records).map (·.1) <+: (meanTimes α (records ++ more)).map (·.1)) ∧
      (sizes (records ++ more)).length =
        (sizes records).length + (List.range more.length).countP (closesBehind records more) := by
  refine ⟨closings_extend _ _ _ _, fun accessOps mutateOps table => ?_,
    fun α _ => keys_mean_times_extend α records more, ?_⟩
  · simp only [calls, call_closings_eq]
    exact closings_extend _ _ _ _
  · simp only [sizes_eq_counted, closing_positions_append, List.length_map, List.length_append,
      List.countP_eq_length_filter]

end CallProfile.Transaction
