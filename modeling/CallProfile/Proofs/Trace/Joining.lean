import CallProfile.Proofs.Trace.Loading
import CallProfile.Proofs.Trace.Order

/-!
# Logs in parts

Several texts make the same trace as one text in which they stand one after the other with a line
feed between each two. The texts need not end in a line feed: a carriage return at the end of one
then stands before the line feed that joins them, and a line feed at its end makes a blank line.
Neither says anything, so what the lines of the joined text say is what the lines of the texts say
(`LineReport.outcomes_intercalate`), and a trace depends on nothing else. The main result is
`of_texts_eq_joined`.
-/

namespace CallProfile.Trace

/-- The texts as one, with a line feed between each two. -/
def joined (texts : List (String × String)) : String :=
  "\n".intercalate (texts.map (·.2))

/-- The lines of the joined texts say what the lines of the texts say. -/
theorem outcomes_joined (texts : List (String × String)) :
    LineReport.outcomes (joined texts) = texts.flatMap fun text => LineReport.outcomes text.2 := by
  rw [joined, LineReport.outcomes_intercalate, List.flatMap_map]

/-- A trace counts the lines of all texts that hold no record. -/
theorem skipped_of_texts (texts : List (String × String)) :
    (ofTexts texts).skipped =
      (texts.flatMap fun text => LineReport.outcomes text.2).countP (!·.isOk) := by
  induction texts with
  | nil => rfl
  | cons text texts ih =>
      have hstep : (ofTexts (text :: texts)).skipped =
          (LineReport.ofText text.2).skipped + (ofTexts texts).skipped := rfl
      rw [hstep, ih, LineReport.skipped_of_text, List.flatMap_cons, List.countP_append]

/-- The records, the events and the number of dropped lines of a trace are those of the joined
texts. -/
theorem of_texts_joined (texts : List (String × String)) (name : String) :
    (ofTexts texts).records = (ofText name (joined texts)).records ∧
      (ofTexts texts).events = (ofText name (joined texts)).events ∧
      (ofTexts texts).skipped = (ofText name (joined texts)).skipped := by
  have hrecords : inputRecords [(name, joined texts)] = inputRecords texts := by
    rw [input_records_eq, input_records_eq, List.flatMap_singleton, outcomes_joined]
  rw [ofText, (of_texts_eq texts).1, (of_texts_eq texts).2, (of_texts_eq [_]).1,
    (of_texts_eq [_]).2, hrecords, skipped_of_texts, skipped_of_texts, List.flatMap_singleton,
    outcomes_joined]
  exact ⟨rfl, rfl, rfl⟩

/-- A trace holds no record exactly if no line of the input holds one. -/
theorem is_empty_of_texts_iff (texts : List (String × String)) :
    (ofTexts texts).isEmpty = true ↔
      ∀ line ∈ inputLines texts, ∀ r, Record.ofLine line ≠ .ok r := by
  have hperm := (in_time_order_of_texts texts).perm
  rw [isEmpty, List.isEmpty_iff_length_eq_zero, hperm.length_eq, List.length_eq_zero_iff,
    inputRecords, List.filterMap_eq_nil_iff]
  refine forall₂_congr fun line _ => ?_
  cases Record.ofLine line <;> simp [Except.toOption]

/-- The loading of texts fails exactly if no line of theirs holds a record, and tells how many lines
of the joined texts hold none. -/
theorem or_no_records_of_texts (texts : List (String × String)) (name source : String) :
    (orNoRecords source (ofTexts texts) =
        .error (.noRecords source (ofText name (joined texts)).skipped) ↔
      ∀ line ∈ inputLines texts, ∀ r, Record.ofLine line ≠ .ok r) ∧
      ((∃ line ∈ inputLines texts, ∃ r, Record.ofLine line = .ok r) →
        orNoRecords source (ofTexts texts) = .ok (ofTexts texts)) := by
  rw [← is_empty_of_texts_iff, ← (of_texts_joined texts name).2.2, orNoRecords]
  refine ⟨?_, fun ⟨line, hline, r, hr⟩ => ?_⟩
  · cases (ofTexts texts).isEmpty <;> simp
  · have hempty : (ofTexts texts).isEmpty ≠ true := fun h =>
      (is_empty_of_texts_iff texts).mp h line hline r hr
    simp [hempty]

/-- Loading several texts is loading them as one, with a line feed between each two: the records,
the events and the number of dropped lines are the same, and it fails, telling this number, exactly
if no line holds a record. Loading a directory is loading the texts of its files. -/
theorem of_texts_eq_joined :
    (∀ (texts : List (String × String)) (name : String),
      (ofTexts texts).records = (ofText name (joined texts)).records ∧
        (ofTexts texts).events = (ofText name (joined texts)).events ∧
        (ofTexts texts).skipped = (ofText name (joined texts)).skipped ∧
        ∀ source,
          (orNoRecords source (ofTexts texts) =
              .error (.noRecords source (ofText name (joined texts)).skipped) ↔
            ∀ line ∈ inputLines texts, ∀ r, Record.ofLine line ≠ .ok r) ∧
          ((∃ line ∈ inputLines texts, ∃ r, Record.ofLine line = .ok r) →
            orNoRecords source (ofTexts texts) = .ok (ofTexts texts))) ∧
      ∀ (console : Console) (directory : String) (s : Session) (contents : String → List UInt8),
        (∀ path ∈ filePaths directory (s.disk.filesUnder directory),
          s.disk.read path = .ok (contents path)) →
        ((loadDirectory console directory : StateM Session _) s).1 =
          orNoRecords directory
            (ofTexts (textsOf contents (filePaths directory (s.disk.filesUnder directory)))) := by
  refine ⟨fun texts name => ?_, fun console directory s contents hread => ?_⟩
  · obtain ⟨hrecords, hevents, hskipped⟩ := of_texts_joined texts name
    exact ⟨hrecords, hevents, hskipped, fun source => or_no_records_of_texts texts name source⟩
  · obtain ⟨error, hrun⟩ := load_directory_run console hread
    rw [hrun]

/-- A disk with two files in a directory. -/
def partDisk (a b : List UInt8) : Disk :=
  ⟨[(["run"], .directory), (["run", "a.log"], .file a), (["run", "b.log"], .file b)]⟩

/-- The paths of the two files lead to them, and they are all files of the directory. -/
theorem part_disk_files (a b : List UInt8) :
    (partDisk a b).read "run/a.log" = .ok a ∧ (partDisk a b).read "run/b.log" = .ok b ∧
      filePaths "run" ((partDisk a b).filesUnder "run") = ["run/a.log", "run/b.log"] := by
  have hparts : Path.parts "run" = ["run"] ∧ Path.parts "run/a.log" = ["run", "a.log"] ∧
      Path.parts "run/b.log" = ["run", "b.log"] := by
    decide +kernel
  have hsizes : "run".utf8ByteSize = 3 ∧ "a.log".utf8ByteSize = 5 ∧ "b.log".utf8ByteSize = 5 ∧
      "run/a.log".utf8ByteSize = 9 ∧ "run/b.log".utf8ByteSize = 9 := by
    decide +kernel
  have hplain : ∀ path ∈ ["run", "run/a.log", "run/b.log"],
      Path.isAbsolute path = false ∧ Path.endsInSlash path = false := by
    decide +kernel
  have hfiles : (partDisk a b).filesUnder "run" = [["a.log"], ["b.log"]] := by
    simp [Disk.filesUnder, Disk.locate, hparts, hsizes, hplain, Disk.pathLimit, Disk.nameLimit,
      Disk.walk, Disk.entry?, partDisk, List.isPrefixOf?]
  refine ⟨?_, ?_, ?_⟩
  · simp [Disk.read, Disk.locate, hparts, hsizes, hplain, Disk.pathLimit, Disk.nameLimit,
      Disk.walk, Disk.entry?, partDisk, List.lookup_cons]
  · simp [Disk.read, Disk.locate, hparts, hsizes, hplain, Disk.pathLimit, Disk.nameLimit,
      Disk.walk, Disk.entry?, partDisk, List.lookup_cons]
  · rw [hfiles, filePaths, List.mergeSort_of_pairwise (by decide +kernel)]
    decide +kernel

/-- The text of the first file. It ends in a carriage return. -/
def firstPart : String := "2 1 | TXEnd\r"

/-- The text of the second file. Its first line is malformed. -/
def secondPart : String := "bad\n1 1 | TXBegin\n"

/-- The bytes of the two files. -/
def partBytes (path : String) : List UInt8 :=
  Text.Utf8.encode (if path = "run/a.log" then firstPart else secondPart)

/-- A session on a disk with the two files. -/
def partSession : Session :=
  .start (partDisk (partBytes "run/a.log") (partBytes "run/b.log")) []

/-- The two files are loaded as the text that joins them. -/
theorem parts_load_joined :
    (∀ path ∈ filePaths "run" (partSession.disk.filesUnder "run"),
        partSession.disk.read path = .ok (partBytes path)) ∧
      ((loadDirectory .quiet "run" : StateM Session _) partSession).1 =
        .ok (ofTexts [("run/a.log", firstPart), ("run/b.log", secondPart)]) ∧
      (ofTexts [("run/a.log", firstPart), ("run/b.log", secondPart)]).records =
        (ofText "run.log" "2 1 | TXEnd\r\nbad\n1 1 | TXBegin\n").records ∧
      (ofText "run.log" "2 1 | TXEnd\r\nbad\n1 1 | TXBegin\n").skipped = 1 := by
  obtain ⟨hfirst, hsecond, hpaths⟩ :=
    part_disk_files (partBytes "run/a.log") (partBytes "run/b.log")
  have hread : ∀ path ∈ filePaths "run" (partSession.disk.filesUnder "run"),
      partSession.disk.read path = .ok (partBytes path) := by
    show ∀ path ∈ filePaths "run" ((partDisk _ _).filesUnder "run"), _
    rw [hpaths]
    simpa using ⟨hfirst, hsecond⟩
  have htexts : textsOf partBytes (filePaths "run" (partSession.disk.filesUnder "run")) =
      [("run/a.log", firstPart), ("run/b.log", secondPart)] := by
    show textsOf partBytes (filePaths "run" ((partDisk _ _).filesUnder "run")) = _
    rw [hpaths]
    decide +kernel
  have hload := of_texts_eq_joined.2 .quiet "run" partSession partBytes hread
  obtain ⟨hrecords, -, hskipped, hresult⟩ :=
    of_texts_eq_joined.1 [("run/a.log", firstPart), ("run/b.log", secondPart)] "run.log"
  have hparsed : ∃ line ∈ inputLines [("run/a.log", firstPart), ("run/b.log", secondPart)],
      ∃ r, Record.ofLine line = .ok r :=
    ⟨"2 1 | TXEnd\r", by decide +kernel, ⟨2, 1, "TXEnd", none, none, [], false⟩, by decide +kernel⟩
  rw [htexts] at hload
  refine ⟨hread, hload.trans ((hresult "run").2 hparsed), hrecords, ?_⟩
  exact hskipped.symm.trans (by decide +kernel)

end CallProfile.Trace
