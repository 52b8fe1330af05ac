import CallProfile.Json.Basic
import CallProfile.Proofs.Lookup

/-!
# The fields of objects

What stands under a key of an object none of whose keys is repeated: the value of the one field with
the key (`field_of_mem`), or nothing.
-/

namespace CallProfile.Json

/-- An object without a repeated key, so that every reader finds the same value under a key. -/
def Distinct : Json → Prop
  | object fields => (fields.map Prod.fst).Nodup
  | _ => False

/-- The last value under a key that is not repeated is that of its one field. -/
theorem field_of_mem {fields : List (String × Json)} (hdistinct : Distinct (object fields))
    {key : String} {value : Json} (hmem : (key, value) ∈ fields) :
    field? key (object fields) = some value := by
  have hnodup : (fields.reverse.map Prod.fst).Nodup := by
    rw [List.map_reverse]
    exact List.nodup_reverse.mpr hdistinct
  exact lookup_of_mem hnodup (List.mem_reverse.mpr hmem)

/-- Nothing stands under a key that no field has. -/
theorem field_of_not_mem {fields : List (String × Json)} {key : String}
    (h : key ∉ fields.map Prod.fst) : field? key (object fields) = none := by
  refine lookup_of_not_mem ?_
  rwa [List.map_reverse, List.mem_reverse]

end CallProfile.Json
