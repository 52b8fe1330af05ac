import CallProfile.Disk.Tree
import CallProfile.Proofs.Lookup

/-!
# Writing to a file tree

Where a path leads is a relation with one rule for each kind of step (`Walks`), which `walk`
computes (`walk_eq_ok_iff`). A file that is written turns up at the path it was written to, and
other paths lead where they led before (`Walks.put`).
-/

namespace CallProfile

namespace Found

/-- The place that was found. -/
def place : Found → Place
  | existing place _ => place
  | vacant place => place

/-- What is found after a file was written at a place. -/
def written (found : Found) (place : Place) (bytes : List UInt8) : Found :=
  if found.place = place then .existing place (.file bytes) else found

end Found

namespace Disk

/-! ## Where a path leads -/

/-- Whether a part of a path is the name of an entry. -/
structure IsName (part : String) : Prop where
  ne_here : part ≠ "."
  ne_above : part ≠ ".."
  short : part.utf8ByteSize ≤ nameLimit

/-- The parts behind which a path goes on where a link points. -/
def targetParts (target : String) : List String :=
  Path.parts target ++ if Path.endsInSlash target then ["."] else []

/-- The parts of a path lead from a directory to a place, and at most so many links are followed. -/
inductive Walks (disk : Disk) : Nat → Place → List String → Found → Prop where
  | done (links : Nat) (here : Place) : Walks disk links here [] (.existing here .directory)
  | stay {links : Nat} {here : Place} {rest : List String} {found : Found}
      (h : Walks disk links here rest found) : Walks disk links here ("." :: rest) found
  | up {links : Nat} {here : Place} {rest : List String} {found : Found}
      (h : Walks disk links here.dropLast rest found) : Walks disk links here (".." :: rest) found
  | vacant (links : Nat) {here : Place} {part : String} (hname : IsName part)
      (hentry : disk.entry? (here ++ [part]) = none) :
      Walks disk links here [part] (.vacant (here ++ [part]))
  | file (links : Nat) {here : Place} {part : String} {bytes : List UInt8} (hname : IsName part)
      (hentry : disk.entry? (here ++ [part]) = some (.file bytes)) :
      Walks disk links here [part] (.existing (here ++ [part]) (.file bytes))
  | enter {links : Nat} {here : Place} {part : String} {rest : List String} {found : Found}
      (hname : IsName part) (hentry : disk.entry? (here ++ [part]) = some .directory)
      (h : Walks disk links (here ++ [part]) rest found) :
      Walks disk links here (part :: rest) found
  | follow {links : Nat} {here : Place} {part target : String} {rest : List String} {found : Found}
      (hname : IsName part) (hentry : disk.entry? (here ++ [part]) = some (.link target))
      (htarget : target ≠ "") (hrelative : Path.isAbsolute target = false)
      (h : Walks disk links here (targetParts target ++ rest) found) :
      Walks disk (links + 1) here (part :: rest) found

variable {disk : Disk} {links : Nat} {here place : Place} {parts : List String} {found : Found}

/-- Walking succeeds along the rules. -/
theorem Walks.walk_eq (h : Walks disk links here parts found) :
    disk.walk true links here parts = .ok found := by
  induction h with
  | done links here => rw [walk]
  | stay h ih => rw [walk, if_pos rfl, ih]
  | up h ih => rw [walk, if_neg (by decide), if_pos rfl, ih]
  | vacant links hname hentry =>
      rw [walk, if_neg hname.ne_here, if_neg hname.ne_above, if_neg (Nat.not_lt.mpr hname.short)]
      simp only [hentry]
      rfl
  | file links hname hentry =>
      rw [walk, if_neg hname.ne_here, if_neg hname.ne_above, if_neg (Nat.not_lt.mpr hname.short)]
      simp only [hentry]
      rfl
  | enter hname hentry h ih =>
      rw [walk, if_neg hname.ne_here, if_neg hname.ne_above, if_neg (Nat.not_lt.mpr hname.short)]
      simp only [hentry, ih]
  | @follow links here part target rest found hname hentry htarget hrelative h ih =>
      rw [walk, if_neg hname.ne_here, if_neg hname.ne_above, if_neg (Nat.not_lt.mpr hname.short)]
      rw [targetParts] at ih
      simp only [hentry, Bool.not_true, Bool.and_false, htarget, hrelative, Bool.false_eq_true,
        if_false, decide_false, Bool.or_false, ih]

/-- Walking succeeds along the rules only. -/
theorem walks_of_walk (h : disk.walk true links here parts = .ok found) :
    Walks disk links here parts found := by
  revert h
  fun_induction walk disk true links here parts
  all_goals intro h
  case case1 links here =>
    cases h
    exact .done links here
  case case2 ih => exact .stay (ih h)
  case case3 ih => exact .up (ih h)
  case case5 links here part rest hhere habove hshort place hentry hrest =>
    cases h
    obtain rfl := List.isEmpty_iff.mp hrest
    exact .vacant links ⟨hhere, habove, Nat.not_lt.mp hshort⟩ hentry
  case case7 hhere habove hshort place hentry ih =>
    exact .enter ⟨hhere, habove, Nat.not_lt.mp hshort⟩ hentry (ih h)
  case case8 links here part rest hhere habove hshort place bytes hentry hrest =>
    cases h
    obtain rfl := List.isEmpty_iff.mp hrest
    exact .file links ⟨hhere, habove, Nat.not_lt.mp hshort⟩ hentry
  case case10 hlast => simp at hlast
  case case13 hhere habove hshort place target hentry hlast links htarget beyond ih =>
    rw [Bool.not_eq_true, Bool.or_eq_false_iff, decide_eq_false_iff_not] at htarget
    exact .follow ⟨hhere, habove, Nat.not_lt.mp hshort⟩ hentry htarget.1 htarget.2 (ih h)
  all_goals cases h

/-- Walking succeeds exactly along the rules. -/
theorem walk_eq_ok_iff :
    disk.walk true links here parts = .ok found ↔ Walks disk links here parts found :=
  ⟨walks_of_walk, Walks.walk_eq⟩

/-! ## What stands at a place -/

/-- What was found is what stands there. -/
def Stands (disk : Disk) : Found → Prop
  | .existing place entry => disk.entry? place = some entry
  | .vacant place => disk.entry? place = none

/-- All places on the way to a place are directories, and so is the place itself. -/
def OnDirectories (disk : Disk) (here : Place) : Prop :=
  ∀ above, above <+: here → disk.entry? above = some .directory

/-- The root is a directory. -/
theorem on_directories_root (disk : Disk) : OnDirectories disk [] := by
  intro above habove
  rw [List.prefix_nil.mp habove]
  rfl

/-- The way to the directory above goes over directories. -/
theorem OnDirectories.up (h : OnDirectories disk here) : OnDirectories disk here.dropLast :=
  fun above habove => h above (habove.trans (List.dropLast_prefix here))

/-- The way to a directory in a directory goes over directories. -/
theorem OnDirectories.enter (h : OnDirectories disk here) {part : String}
    (hentry : disk.entry? (here ++ [part]) = some .directory) :
    OnDirectories disk (here ++ [part]) := by
  intro above habove
  rcases List.prefix_concat_iff.mp habove with rfl | habove
  · exact hentry
  · exact h above habove

/-- What is found at the end of a path stands there. -/
theorem Walks.stands (h : Walks disk links here parts found) (hhere : OnDirectories disk here) :
    Stands disk found := by
  induction h with
  | done links here => exact hhere here (List.prefix_refl here)
  | stay h ih => exact ih hhere
  | up h ih => exact ih hhere.up
  | vacant links hname hentry => exact hentry
  | file links hname hentry => exact hentry
  | enter hname hentry h ih => exact ih (hhere.enter hentry)
  | follow hname hentry htarget hrelative h ih => exact ih hhere

/-- What is put at a place stands there. -/
theorem entry_put_same (hplace : place ≠ []) (entry : Entry) :
    entry? (disk.put place entry) place = some entry := by
  have hne : place.isEmpty = false := List.isEmpty_eq_false_iff.mpr hplace
  unfold entry?
  rw [hne, put, if_neg (by simp), lookup_replaced, if_pos rfl]

/-- Other places are left as they are. -/
theorem entry_put_other {other : Place} (h : other ≠ place) (entry : Entry) :
    entry? (disk.put place entry) other = disk.entry? other := by
  unfold entry?
  split
  · rfl
  · rw [put, lookup_replaced, if_neg h]

/-! ## Writing -/

/-- Whether a file can be written at a place: there is a file or nothing at all. -/
def Takes (disk : Disk) (place : Place) : Prop :=
  disk.entry? place = none ∨ ∃ bytes, disk.entry? place = some (.file bytes)

/-- A file is written at no directory. -/
theorem Takes.ne_directory (h : Takes disk place) {other : Place}
    (hother : disk.entry? other = some .directory) : other ≠ place := by
  rintro rfl
  rcases h with h | ⟨bytes, h⟩
  · rw [hother] at h
    cases h
  · rw [hother] at h
    cases h

/-- A file is written at no link. -/
theorem Takes.ne_link (h : Takes disk place) {other : Place} {target : String}
    (hother : disk.entry? other = some (.link target)) : other ≠ place := by
  rintro rfl
  rcases h with h | ⟨bytes, h⟩
  · rw [hother] at h
    cases h
  · rw [hother] at h
    cases h

/-- A path leads where it led before a file was written, which is found where it was written. -/
theorem Walks.put (h : Walks disk links here parts found) (hhere : OnDirectories disk here)
    (hplace : Takes disk place) (bytes : List UInt8) :
    Walks (disk.put place (.file bytes)) links here parts (found.written place bytes) := by
  induction h with
  | done links here =>
      have hne := hplace.ne_directory (hhere here (List.prefix_refl here))
      have hsame : (Found.existing here .directory).written place bytes =
          .existing here .directory := if_neg hne
      rw [hsame]
      exact .done links here
  | stay h ih => exact .stay (ih hhere)
  | up h ih => exact .up (ih hhere.up)
  | @vacant links here part hname hentry =>
      unfold Found.written
      split
      · next hsame =>
          obtain rfl : here ++ [part] = place := hsame
          exact .file links hname (entry_put_same (by simp) _)
      · next hother => exact .vacant links hname ((entry_put_other hother _).trans hentry)
  | @file links here part old hname hentry =>
      unfold Found.written
      split
      · next hsame =>
          obtain rfl : here ++ [part] = place := hsame
          exact .file links hname (entry_put_same (by simp) _)
      · next hother => exact .file links hname ((entry_put_other hother _).trans hentry)
  | enter hname hentry h ih =>
      exact .enter hname ((entry_put_other (hplace.ne_directory hentry) _).trans hentry)
        (ih (hhere.enter hentry))
  | follow hname hentry htarget hrelative h ih =>
      have hlink := (entry_put_other (hplace.ne_link hentry) (.file bytes)).trans hentry
      exact .follow hname hlink htarget hrelative (ih hhere)

/-- What a path leads to stands there. -/
theorem stands_of_locate {path : String} (h : disk.locate true path = .ok found) :
    Stands disk found := by
  unfold locate at h
  iterate 4
    split at h
    · cases h
  exact (walks_of_walk h).stands (on_directories_root disk)

/-- After a file was written, a path leads where it led before. -/
theorem locate_put {path : String} (h : disk.locate true path = .ok found)
    (hplace : Takes disk place) (bytes : List UInt8) :
    (disk.put place (.file bytes)).locate true path = .ok (found.written place bytes) := by
  unfold locate at h ⊢
  split at h
  · cases h
  · next hnul =>
      split at h
      · cases h
      · next hempty =>
          split at h
          · cases h
          · next hlong =>
              split at h
              · cases h
              · next habsolute =>
                  rw [if_neg hnul, if_neg hempty, if_neg hlong, if_neg habsolute]
                  exact ((walks_of_walk h).put (on_directories_root disk) hplace bytes).walk_eq

/-- Whether a path leads to a place where a file is or can be. -/
inductive LeadsTo (disk : Disk) (path : String) : Place → Prop where
  | vacant {place : Place} (h : disk.locate true path = .ok (.vacant place)) :
      LeadsTo disk path place
  | file {place : Place} {bytes : List UInt8}
      (h : disk.locate true path = .ok (.existing place (.file bytes))) : LeadsTo disk path place

section LeadsTo

variable {path : String}

/-- A path that leads to a file or to nothing leads to where a file can be written. -/
theorem LeadsTo.takes (h : LeadsTo disk path place) : Takes disk place := by
  cases h with
  | vacant h => exact Or.inl (stands_of_locate h)
  | file h => exact Or.inr ⟨_, stands_of_locate h⟩

/-- A file is written where the path leads. -/
theorem LeadsTo.write (h : LeadsTo disk path place) (bytes : List UInt8) :
    disk.write path bytes = .ok (disk.put place (.file bytes)) := by
  unfold Disk.write
  cases h with
  | vacant h => rw [h]
  | file h => rw [h]

/-- A file that was written was written where the path leads. -/
theorem leads_to_of_write {bytes : List UInt8} {after : Disk}
    (h : disk.write path bytes = .ok after) :
    ∃ place, LeadsTo disk path place ∧ after = disk.put place (.file bytes) := by
  unfold Disk.write at h
  split at h
  · next place old hlocate =>
      cases h
      exact ⟨place, .file hlocate, rfl⟩
  · cases h
  · next place hlocate =>
      cases h
      exact ⟨place, .vacant hlocate, rfl⟩
  · cases h

/-- A file that was written is found at its path. -/
theorem LeadsTo.locate_put (h : LeadsTo disk path place) (bytes : List UInt8) :
    (disk.put place (.file bytes)).locate true path = .ok (.existing place (.file bytes)) := by
  have hplace := h.takes
  have hwritten {found : Found} (h : disk.locate true path = .ok found)
      (hfound : found.place = place) :
      (disk.put place (.file bytes)).locate true path = .ok (.existing place (.file bytes)) := by
    rw [Disk.locate_put h hplace bytes, Found.written, if_pos hfound]
  cases h with
  | vacant h => exact hwritten h rfl
  | file h => exact hwritten h rfl

/-- Writing a file elsewhere or at the same place does not change where a path leads. -/
theorem LeadsTo.put (h : LeadsTo disk path place) {other : Place} (hother : Takes disk other)
    (bytes : List UInt8) : LeadsTo (disk.put other (.file bytes)) path place := by
  by_cases hsame : place = other
  · subst hsame
    exact .file (h.locate_put bytes)
  · cases h with
    | vacant h =>
        exact .vacant ((Disk.locate_put h hother bytes).trans (congrArg _ (if_neg hsame)))
    | file h =>
        exact .file ((Disk.locate_put h hother bytes).trans (congrArg _ (if_neg hsame)))

/-- A file at the place where a path leads is read at the path. -/
theorem LeadsTo.read (h : LeadsTo disk path place) {bytes : List UInt8}
    (hentry : disk.entry? place = some (.file bytes)) : disk.read path = .ok bytes := by
  cases h with
  | vacant h =>
      have hnone : disk.entry? place = none := stands_of_locate h
      rw [hentry] at hnone
      cases hnone
  | @file old h =>
      have hold : disk.entry? place = some (.file old) := stands_of_locate h
      rw [hentry] at hold
      cases hold
      rw [Disk.read, h]

end LeadsTo

/-! ## Several entries -/

/-- Put entries at their places, one after the other. -/
def putAll (disk : Disk) (files : List (Place × Entry)) : Disk :=
  files.foldl (fun disk file => disk.put file.1 file.2) disk

section Several

variable {files others : List (Place × Entry)}

/-- Entries are put behind others. -/
theorem put_all_append (disk : Disk) (files others : List (Place × Entry)) :
    disk.putAll (files ++ others) = (disk.putAll files).putAll others :=
  List.foldl_append

/-- Places without a new entry are left as they are. -/
theorem entry_put_all_other (disk : Disk) (h : place ∉ files.map (·.1)) :
    entry? (disk.putAll files) place = disk.entry? place := by
  induction files generalizing disk with
  | nil => rfl
  | cons file files ih =>
      rw [List.map_cons, List.mem_cons, not_or] at h
      exact (ih (disk.put file.1 file.2) h.2).trans (entry_put_other h.1 file.2)

/-- Where each place is given one entry, it stands there. -/
theorem entry_put_all_mem (disk : Disk) (hnodup : (files.map (·.1)).Nodup) {entry : Entry}
    (hplace : place ≠ []) (h : (place, entry) ∈ files) :
    entry? (disk.putAll files) place = some entry := by
  induction files generalizing disk with
  | nil => exact absurd h List.not_mem_nil
  | cons file files ih =>
      obtain ⟨hfirst, hrest⟩ := List.nodup_cons.mp hnodup
      rcases List.mem_cons.mp h with rfl | hlater
      · exact (entry_put_all_other (disk.put place entry) hfirst).trans
          (entry_put_same hplace entry)
      · exact ih (disk.put file.1 file.2) hrest hlater

/-- Where each place is given one entry, the order does not matter. -/
theorem entry_put_all_perm (disk : Disk) (hperm : files.Perm others)
    (hnodup : (files.map (·.1)).Nodup) (hplaces : ∀ file ∈ files, file.1 ≠ []) (place : Place) :
    entry? (disk.putAll files) place = entry? (disk.putAll others) place := by
  -- each place has the one entry that either list has for it, or none
  have hkeys : (files.map (·.1)).Perm (others.map (·.1)) := hperm.map _
  by_cases hplace : place ∈ files.map (·.1)
  · obtain ⟨⟨place, entry⟩, hfile, rfl⟩ := List.mem_map.mp hplace
    rw [entry_put_all_mem disk hnodup (hplaces _ hfile) hfile,
      entry_put_all_mem disk (hkeys.nodup_iff.mp hnodup) (hplaces _ hfile) (hperm.mem_iff.mp hfile)]
  · rw [entry_put_all_other disk hplace,
      entry_put_all_other disk (fun hother => hplace (hkeys.mem_iff.mpr hother))]

end Several

end Disk

end CallProfile
