/-!
# Registers

A register keeps one value per key, the one written last. The scans over a trace keep what they know
about each thread in one.
-/

namespace CallProfile

/-- One value per key. -/
structure Register (κ α : Type) where
  entries : List (κ × α)

namespace Register

variable {κ α : Type} [BEq κ]

/-- The register in which nothing is written. -/
def empty : Register κ α := ⟨[]⟩

/-- The value of a key. -/
def get? (register : Register κ α) (key : κ) : Option α :=
  register.entries.lookup key

/-- Write the value of a key. -/
def put (register : Register κ α) (key : κ) (value : α) : Register κ α :=
  ⟨(key, value) :: register.entries.filter (·.1 != key)⟩

end Register

end CallProfile
