import CallProfile.Program
import CallProfile.Session
import Mathlib.Tactic.Choose

/-!
# Remarks and inquiries

What is told during a run without being a failure (`Remarks`), and the actions that do nothing but
ask and remark (`Inquires`): what they find out follows from the disk and the input alone, and they
leave both as they are.
-/

namespace CallProfile

/-- A line on the error output that tells of no failure. -/
inductive Remark (console : Console) : String → Prop where
  /-- A log message that the filter lets through. -/
  | log (topic : LogTopic) (level : Log.Level) (message : String)
      (h : console.filter.admits topic.name level message = true) :
      Remark console
        (Console.shown console.styledLog (Terminal.dim "[a]" ++ " " ++ message ++ "\n"))
  /-- The warning that a chart is left out for want of a table. -/
  | leftOut (kind : ChartKind) (h : kind.needsTable = true) :
      Remark console (Console.shown console.styled (PlotRequest.warning kind ++ "\n"))
  /-- The warning that lines hold no record. -/
  | skipped (count : Nat) (h : 0 < count) :
      Remark console (Console.shown console.styled (Program.skippedWarning count ++ "\n"))
  /-- What is wrong in the filter of log messages, as it was given. -/
  | complaint (given complaint : String) (hgiven : (Log.Filter.read given).1 = console.filter)
      (h : complaint ∈ (Log.Filter.read given).2) :
      Remark console ("warning: " ++ complaint ++ ", ignoring it\n")

/-- Some remarks, one after the other. -/
inductive Remarks (console : Console) : String → Prop where
  | none : Remarks console ""
  | more {first rest : String} (hfirst : Remark console first) (hrest : Remarks console rest) :
      Remarks console (first ++ rest)

/-- A single remark. -/
theorem Remark.alone {console : Console} {text : String} (h : Remark console text) :
    Remarks console text := by
  have hone := Remarks.more h .none
  rwa [String.append_empty] at hone

/-- Remarks after remarks are remarks. -/
theorem Remarks.append {console : Console} {text further : String} (h : Remarks console text)
    (hfurther : Remarks console further) : Remarks console (text ++ further) := by
  induction h with
  | none => rwa [String.empty_append]
  | more hfirst hrest ih =>
      rw [String.append_assoc]
      exact .more hfirst ih

variable {α β : Type} {console : Console}

/-- The second of two actions starts from what the first one gave and left. -/
theorem bind_run (action : StateM Session α) (next : α → StateM Session β) (s : Session) :
    (action >>= next) s = next (action s).1 (action s).2 :=
  rfl

/-- From the session, the action gives the result, leaves the disk, and adds remarks at most. -/
def Does (console : Console) (s : Session) (action : StateM Session α) (result : α) (disk : Disk) :
    Prop :=
  ∃ remarks, Remarks console remarks ∧
    action s = (result, { s with disk, error := s.error ++ remarks })

/-- An action that does nothing. -/
theorem Does.pure {s : Session} (result : α) : Does console s (pure result) result s.disk := by
  refine ⟨"", .none, ?_⟩
  rw [String.append_empty]
  rfl

/-- The second of two actions begins with the disk that the first one leaves. -/
theorem Does.bind {s : Session} {action : StateM Session α} {next : α → StateM Session β}
    {result : α} {last : β} {disk final : Disk} (h : Does console s action result disk)
    (hnext : ∀ error, Does console { s with disk, error } (next result) last final) :
    Does console s (action >>= next) last final := by
  obtain ⟨remarks, hremarks, haction⟩ := h
  obtain ⟨further, hfurther, hrest⟩ := hnext (s.error ++ remarks)
  refine ⟨remarks ++ further, hremarks.append hfurther, ?_⟩
  rw [bind_run, haction, ← String.append_assoc]
  exact hrest

/-- A remark is made. -/
theorem does_print_error {s : Session} {text : String} (h : Remarks console text) :
    Does console s (Host.printError text) () s.disk :=
  ⟨text, h, rfl⟩

/-- Logging makes a remark at most. -/
theorem does_log {s : Session} (console : Console) (topic : LogTopic) (level : Log.Level)
    (message : String) : Does console s (console.log topic level message) () s.disk := by
  unfold Console.log
  split
  · next hadmits => exact does_print_error (Remark.log topic level message hadmits).alone
  · exact .pure ()

/-- An action that changes the disk leaves the changed disk unless there is a fault. -/
theorem does_change {s : Session} {action : StateM Session (Except Fault Unit)}
    {changed : Except Fault Disk} {next : Disk} (haction : action s = Session.change changed s)
    (h : changed = .ok next) : Does console s action (.ok ()) next := by
  refine ⟨"", .none, ?_⟩
  rw [String.append_empty, haction, h]
  rfl

/-- Remarking on each of several things. -/
theorem does_each {γ : Type} {s : Session} (items : List γ) {tell : γ → StateM Session Unit}
    (htell : ∀ s, ∀ item ∈ items, Does console s (tell item) () s.disk) :
    Does console s (items.forM tell) () s.disk := by
  induction items generalizing s with
  | nil => exact .pure ()
  | cons item items ih =>
      refine (htell s item List.mem_cons_self).bind fun _ => ih fun s other hother => ?_
      exact htell s other (List.mem_cons_of_mem item hother)

/-! ## Inquiries -/

/-- An action that asks and remarks only. What it finds out follows from the disk and the input. -/
def Inquires (console : Console) (action : StateM Session α) : Prop :=
  ∃ answer : Disk → List UInt8 → α, ∀ s, Does console s action (answer s.disk s.input) s.disk

namespace Inquires

/-- An inquiry finds out the same from sessions that differ in what was written only. -/
theorem does {action : StateM Session α} (h : Inquires console action) (s t : Session)
    (hdisk : t.disk = s.disk) (hinput : t.input = s.input) :
    Does console t action (action s).1 s.disk := by
  obtain ⟨answer, hanswer⟩ := h
  obtain ⟨_, -, hresult⟩ := hanswer s
  rw [hresult]
  have ht := hanswer t
  rwa [hdisk, hinput] at ht

/-- Asking nothing. -/
theorem pure (result : α) : Inquires console (pure result : StateM Session α) :=
  ⟨fun _ _ => result, fun _ => .pure result⟩

/-- Asking one thing after the other. -/
theorem bind {action : StateM Session α} {next : α → StateM Session β}
    (h : Inquires console action) (hnext : ∀ a, Inquires console (next a)) :
    Inquires console (action >>= next) := by
  obtain ⟨answer, hanswer⟩ := h
  -- each answer of the first question has a question of its own behind it
  choose further hfurther using hnext
  exact ⟨fun disk input => further (answer disk input) disk input, fun s =>
    (hanswer s).bind fun _ => hfurther _ _⟩

/-- A question that the disk and the input answer. -/
theorem ask (answer : Disk → List UInt8 → α) :
    Inquires console (fun s => (answer s.disk s.input, s) : StateM Session α) := by
  refine ⟨answer, fun s => ⟨"", .none, ?_⟩⟩
  rw [String.append_empty]

/-- Reading a file. -/
theorem read_file (path : String) :
    Inquires console (Host.readFile path : StateM Session (Except Fault (List UInt8))) :=
  ask fun disk _ => disk.read path

/-- Asking whether there is a directory. -/
theorem is_directory (path : String) :
    Inquires console (Host.isDirectory path : StateM Session Bool) :=
  ask fun disk _ => disk.isDirectory path

/-- Asking whether there is anything. -/
theorem is_present (path : String) :
    Inquires console (Host.isPresent path : StateM Session Bool) :=
  ask fun disk _ => disk.isPresent path

/-- Listing the files below a directory. -/
theorem files_under (path : String) :
    Inquires console
      (Host.filesUnder path : StateM Session (Except Fault (List (List String)))) :=
  ask fun disk _ => Except.ok (disk.filesUnder path)

/-- Reading the standard input. -/
theorem read_input : Inquires console (Host.readInput : StateM Session (List UInt8)) :=
  ask fun _ input => input

/-- Logging. -/
theorem log (console : Console) (topic : LogTopic) (level : Log.Level) (message : String) :
    Inquires console (console.log topic level message : StateM Session Unit) :=
  ⟨fun _ _ => (), fun _ => does_log console topic level message⟩

/-- Remarking on each of several things. -/
theorem each {γ : Type} (items : List γ) {tell : γ → StateM Session Unit}
    (htell : ∀ s, ∀ item ∈ items, Does console s (tell item) () s.disk) :
    Inquires console (items.forM tell) :=
  ⟨fun _ _ => (), fun _ => does_each items htell⟩

end Inquires

end CallProfile
