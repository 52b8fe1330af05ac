import CallProfile.Proofs.Disk.Writing

/-!
# Files in a directory

Where a path leads to a directory, the path of a name in it leads to the place of the name there, as
long as no directory and no link has the name (`leads_to_join`).
-/

namespace CallProfile

namespace Path

variable {directory name : String}

/-- The parts of a path without slashes at its end are its only part. -/
theorem parts_name (hname : name ≠ "") (hplain : '/' ∉ name.toList) : parts name = [name] := by
  have hsingle : name.toList.splitOnP (· == '/') = [name.toList] :=
    List.splitOnP_eq_singleton fun c hc => beq_false_of_ne fun heq => hplain (heq ▸ hc)
  simp [parts, hsingle, hname]

/-- The parts of a path behind a slash follow those in front of it. -/
theorem parts_slash (front back : List Char) :
    parts (String.ofList (front ++ '/' :: back)) =
      parts (String.ofList front) ++ parts (String.ofList back) := by
  simp [parts, List.splitOnP_append_cons]

/-- A name without slashes is not absolute. -/
theorem is_absolute_name (hplain : '/' ∉ name.toList) : isAbsolute name = false := by
  unfold isAbsolute
  refine beq_false_of_ne fun hhead => hplain ?_
  exact List.mem_of_head? hhead

/-- A name in a directory stands behind the directory and at most a slash. -/
theorem to_list_join (directory : String) (hplain : '/' ∉ name.toList) :
    ∃ middle, (middle = [] ∨ middle = ['/']) ∧
      (join directory name).toList = directory.toList ++ middle ++ name.toList := by
  unfold join
  rw [is_absolute_name hplain, if_neg Bool.false_ne_true]
  split
  · exact ⟨[], Or.inl rfl, by simp⟩
  · exact ⟨['/'], Or.inr rfl, by simp⟩

/-- A name in a directory is the part behind those of the directory. -/
theorem parts_join (hname : name ≠ "") (hplain : '/' ∉ name.toList) :
    parts (join directory name) = parts directory ++ [name] := by
  have hname' := parts_name hname hplain
  unfold join
  rw [is_absolute_name hplain, if_neg Bool.false_ne_true]
  split
  · next hend =>
      rw [Bool.or_eq_true, decide_eq_true_eq] at hend
      rcases hend with rfl | hslash
      · rw [String.empty_append, hname']
        rfl
      · -- the slash at the end of the directory is in front of the name
        have hlast : directory.toList.getLast? = some '/' := by simpa [endsInSlash] using hslash
        obtain ⟨front, hfront⟩ := List.getLast?_eq_some_iff.mp hlast
        have hdirectory : directory = String.ofList (front ++ '/' :: []) := by
          rw [← hfront, String.ofList_toList]
        have hjoined : directory ++ name = String.ofList (front ++ '/' :: name.toList) := by
          rw [← String.toList_inj]
          simp [hfront]
        rw [hjoined, hdirectory, parts_slash, parts_slash, String.ofList_toList, hname']
        simp [parts]
  · have hjoined : directory ++ "/" ++ name =
        String.ofList (directory.toList ++ '/' :: name.toList) := by
      rw [← String.toList_inj]
      simp
    rw [hjoined, parts_slash, String.ofList_toList, String.ofList_toList, hname']

end Path

namespace Disk

variable {disk : Disk} {links : Nat} {here home : Place} {parts : List String} {found : Found}

/-- Where parts lead to a directory, a name behind them leads where it leads from there. -/
theorem Walks.behind (h : Walks disk links here parts (.existing home .directory)) {name : String}
    (hlast : ∀ links, Walks disk links home [name] found) :
    Walks disk links here (parts ++ [name]) found := by
  generalize htarget : Found.existing home .directory = target at h
  induction h with
  | done links here =>
      cases htarget
      exact hlast links
  | stay h ih => exact .stay (ih htarget)
  | up h ih => exact .up (ih htarget)
  | vacant links hname hentry => cases htarget
  | file links hname hentry => cases htarget
  | enter hname hentry h ih => exact .enter hname hentry (ih htarget)
  | follow hname hentry hne hrelative h ih =>
      have hrest := ih htarget
      rw [List.append_assoc] at hrest
      exact .follow hname hentry hne hrelative hrest

/-- A part that stays where it is can be left out. -/
theorem Walks.without_stay {front rest : List String}
    (h : Walks disk links here (front ++ "." :: rest) found) :
    Walks disk links here (front ++ rest) found := by
  generalize hparts : front ++ "." :: rest = parts at h
  induction h generalizing front with
  | done links here => simp at hparts
  | stay h ih =>
      cases front with
      | nil =>
          cases hparts
          exact h
      | cons part front =>
          cases hparts
          exact .stay (ih rfl)
  | up h ih =>
      cases front with
      | nil => exact absurd (List.cons.inj hparts).1 (by decide)
      | cons part front =>
          cases hparts
          exact .up (ih rfl)
  | vacant links hname hentry =>
      cases front with
      | nil => exact absurd (List.cons.inj hparts).1.symm hname.ne_here
      | cons part front => simp at hparts
  | file links hname hentry =>
      cases front with
      | nil => exact absurd (List.cons.inj hparts).1.symm hname.ne_here
      | cons part front => simp at hparts
  | enter hname hentry h ih =>
      cases front with
      | nil => exact absurd (List.cons.inj hparts).1.symm hname.ne_here
      | cons part front =>
          cases hparts
          exact .enter hname hentry (ih rfl)
  | follow hname hentry hne hrelative h ih =>
      cases front with
      | nil => exact absurd (List.cons.inj hparts).1.symm hname.ne_here
      | cons part front =>
          cases hparts
          have hrest := ih (List.append_assoc _ _ _)
          rw [List.append_assoc] at hrest
          exact .follow hname hentry hne hrelative hrest

/-- A name that can be given to a file in a directory. -/
structure IsFileName (name : String) : Prop extends IsName name where
  named : name ≠ ""
  plain : '/' ∉ name.toList
  noNul : Char.ofNat 0 ∉ name.toList

section Joined

variable {directory name : String}

/-- Where a path leads to a directory, the walk to it goes on to a name in it, if the path is not
too long. -/
theorem locate_join (hdirectory : disk.locate true directory = .ok (.existing home .directory))
    (hname : IsFileName name) (hlength : (Path.join directory name).utf8ByteSize ≤ pathLimit)
    (hlast : ∀ links, Walks disk links home [name] found) :
    disk.locate true (Path.join directory name) = .ok found := by
  obtain ⟨middle, hmiddle, hjoin⟩ := Path.to_list_join directory hname.plain
  unfold locate at hdirectory ⊢
  iterate 4
    split at hdirectory
    · cases hdirectory
  next hnul hempty _ habsolute =>
    have hnonempty : directory.toList ≠ [] := by simpa using hempty
    have hnul' : ¬(Path.join directory name).toList.contains (Char.ofNat 0) = true := by
      have hdirectoryNul : Char.ofNat 0 ∉ directory.toList := by simpa using hnul
      rw [hjoin, List.contains_iff_mem]
      rcases hmiddle with rfl | rfl
      · simp [hdirectoryNul, hname.noNul]
      · simp [hdirectoryNul, hname.noNul]
    have hempty' : ¬Path.join directory name = "" := by
      rw [← String.toList_inj, hjoin]
      simp [hempty]
    have habsolute' : ¬Path.isAbsolute (Path.join directory name) = true := by
      rw [Path.isAbsolute, hjoin, List.append_assoc, List.head?_append_of_ne_nil _ hnonempty]
      exact habsolute
    have hslash' : Path.endsInSlash (Path.join directory name) = false := by
      have hlast : name.toList ≠ [] := by simpa using hname.named
      rw [Path.endsInSlash, hjoin, List.getLast?_append_of_ne_nil _ hlast]
      exact beq_false_of_ne fun hslash => hname.plain (List.mem_of_getLast? hslash)
    rw [if_neg hnul', if_neg hempty', if_neg (Nat.not_lt.mpr hlength), if_neg habsolute', hslash',
      Path.parts_join hname.named hname.plain]
    have hbehind := (walks_of_walk hdirectory).behind hlast
    refine Walks.walk_eq ?_
    simp only [Bool.and_false, Bool.false_eq_true, if_false, List.append_nil]
    -- a slash at the end of the directory stands for a part that stays where it is
    cases hend : Path.endsInSlash directory with
    | true =>
        simp only [hend, Bool.and_true, if_true, List.append_assoc] at hbehind
        exact hbehind.without_stay
    | false =>
        simpa only [hend, Bool.and_false, Bool.false_eq_true, if_false, List.append_nil]
          using hbehind

/-- Where a path leads to a directory, the path of a name in it leads to the place of the name, if a
file can be written there and the path is not too long. -/
theorem leads_to_join (hdirectory : disk.locate true directory = .ok (.existing home .directory))
    (hname : IsFileName name) (hlength : (Path.join directory name).utf8ByteSize ≤ pathLimit)
    (hplace : Takes disk (home ++ [name])) :
    LeadsTo disk (Path.join directory name) (home ++ [name]) := by
  rcases hplace with hnone | ⟨bytes, hfile⟩
  · exact .vacant (locate_join hdirectory hname hlength fun links =>
      .vacant links hname.toIsName hnone)
  · exact .file (locate_join hdirectory hname hlength fun links =>
      .file links hname.toIsName hfile)

end Joined

end Disk

end CallProfile
