/-
Module: NodeGauge.Proofs.Launch.Startup
Purpose: The program serves where its command line can be read and requests can be taken.  Where the
  command line stops it, nothing that it was given steers the terminal.
Main exports: Launch.start_serves_iff, Launch.harmless_of_stopped, Launch.start_of_plain
-/
import Mathlib.Data.List.Basic
import NodeGauge.Launch.Startup
import NodeGauge.Proofs.Text.Terminal
import NodeGauge.Proofs.Text.Words

namespace NodeGauge.Launch

open Terminal (Harmless isShown marked visibleInStream)

/-- The program serves under the settings that it is given, if requests can be taken there. -/
theorem start_serves_iff {environment : Environment} {arguments : List Text} {s : Settings} :
    (start environment arguments).ending = .ok s ↔
      readArguments environment arguments = .ok s ∧ listen s.listenAddress = .ok () := by
  rw [start]
  cases readArguments environment arguments with
  | error stop => cases stop <;> simp
  | ok settings =>
      simp only [startUnder]
      cases taken : listen settings.listenAddress with
      | error fault =>
          constructor
          · intro serves
            cases serves
          · rintro ⟨same, taken'⟩
            obtain rfl := Except.ok.inj same
            rw [taken] at taken'
            cases taken'
      | ok _ =>
          simp only [Except.ok.injEq]
          constructor
          · rintro rfl
            exact ⟨rfl, taken⟩
          · rintro ⟨rfl, -⟩
            rfl

/-! ### What is written where the command line stops the program -/

theorem mem_intercalate_of_mem {mark c : Char} {pieces : List Text} {piece : Text}
    (among : piece ∈ pieces) (inside : c ∈ piece) : c ∈ [mark].intercalate pieces := by
  induction pieces with
  | nil => cases among
  | cons first pieces ih =>
      cases pieces with
      | nil =>
          rw [List.mem_singleton.1 among] at inside
          simpa using inside
      | cons next pieces =>
          rw [List.intercalate_cons_cons]
          rcases List.mem_cons.1 among with rfl | later
          · exact List.mem_append_left _ (List.mem_append_left _ inside)
          · exact List.mem_append_right _ (ih later)

theorem mem_of_mem_withoutReturn {line : Text} {c : Char} (inside : c ∈ Text.withoutReturn line) :
    c ∈ line := by
  rw [Text.withoutReturn] at inside
  split at inside
  · exact (List.dropLast_sublist line).subset inside
  · exact inside

/-- The lines of a text hold its characters only. -/
theorem mem_of_mem_lines {s line : Text} {c : Char} (among : line ∈ Text.lines s)
    (inside : c ∈ line) : c ∈ s := by
  suffices ∃ piece ∈ s.splitOn '\n', c ∈ piece by
    obtain ⟨piece, member, within⟩ := this
    have joined : ['\n'].intercalate (s.splitOn '\n') = s := List.intercalate_splitOn '\n'
    rw [← joined]
    exact mem_intercalate_of_mem member within
  rw [Text.lines] at among
  rcases List.mem_append.1 among with ended | last
  · obtain ⟨piece, member, rfl⟩ := List.mem_map.1 ended
    exact ⟨piece, (List.dropLast_sublist _).subset member, mem_of_mem_withoutReturn inside⟩
  · split at last
    · cases last
    · rw [List.mem_singleton.1 last] at inside
      rcases List.eq_nil_or_concat' (s.splitOn '\n') with none | ⟨front, piece, whole⟩
      · simp [none] at inside
      · rw [whole] at inside ⊢
        exact ⟨piece, by simp, by simpa using inside⟩

theorem harmless_lines {s line : Text} (harmless : Harmless s) (among : line ∈ Text.lines s) :
    Harmless line :=
  fun c inside => harmless c (mem_of_mem_lines among inside)

/-- Whatever the arguments and the environment hold, where the program asks for another command line
or tells about itself it writes nothing that steers the terminal. -/
theorem harmless_of_stopped {environment : Environment} {arguments : List Text} {stop : Stop}
    (stopped : readArguments environment arguments = .error stop) :
    (∀ line ∈ (start environment arguments).lines, Harmless line) ∧
      Harmless (start environment arguments).errors := by
  rw [start, stopped]
  cases stop with
  | showHelp =>
      refine ⟨fun line among => ?_, Terminal.harmless_nil⟩
      exact harmless_lines (Terminal.harmless_visibleInStream _) among
  | showVersion =>
      refine ⟨fun line among => ?_, Terminal.harmless_nil⟩
      have harmless : Harmless versionText := by decide
      exact harmless_lines harmless among
  | refuse fault =>
      refine ⟨by simp, ?_⟩
      exact Terminal.harmless_visibleInStream _

/-- What is said of an argument that is no option, in three parts with an empty line between. -/
def plainReport (shown : Text) : Text :=
  ['\n', '\n'].intercalate
    ["error: unexpected argument '".toList ++ shown ++ "' found".toList,
     "Usage: slurm-exporter [OPTIONS]".toList,
     "For more information, try '--help'.".toList] ++ ['\n']

theorem markedReport_unknown (argument : Text) :
    UsageFault.markedReport (.unknown argument none []) = plainReport (marked argument) := by
  have usage : "Usage: ".toList ++ [' '].intercalate [programName, "[OPTIONS]".toList] =
      "Usage: slurm-exporter [OPTIONS]".toList := by decide
  rw [plainReport, ← usage]
  rfl

theorem visibleInStream_plainReport {argument : Text} (harmless : Harmless argument) :
    visibleInStream (plainReport (marked argument)) = plainReport argument := by
  have split (shown : Text) : plainReport shown =
      "error: unexpected argument '".toList ++ shown ++ ("' found".toList ++ (['\n', '\n'] ++
        ("Usage: slurm-exporter [OPTIONS]".toList ++ (['\n', '\n'] ++
          ("For more information, try '--help'.".toList ++ ['\n']))))) := by
    simp only [plainReport, List.intercalate_cons_cons, List.intercalate_singleton,
      List.append_assoc]
  have inFront : Harmless "error: unexpected argument '".toList := by decide
  have found : Harmless "' found".toList := by decide
  have usage : Harmless "Usage: slurm-exporter [OPTIONS]".toList := by decide
  have help : Harmless "For more information, try '--help'.".toList := by decide
  have feed : isShown '\n' = true := by decide
  rw [split, split, Terminal.visibleInStream_marked inFront harmless]
  simp only [Terminal.harmless_append, Terminal.harmless_cons, Terminal.harmless_nil, found, usage,
    help, feed, and_self]

/-- An argument that is no option stops the program, whatever follows it, and is told as it is. -/
theorem start_of_plain (environment : Environment) {argument : Text}
    (plain : argument.head? ≠ some '-') (harmless : Harmless argument) (rest : List Text) :
    start environment (argument :: rest) = ⟨[], plainReport argument, .error 2⟩ := by
  have stopped : readArguments environment (argument :: rest) =
      .error (.refuse (.unknown argument none [])) := by
    have goesOn : argument ≠ ['-', '-'] := by
      rintro rfl
      exact plain rfl
    have read : Progress.start.readArgument argument =
        .error (.refuse (.unknown argument none [])) := by
      cases argument with
      | nil => rfl
      | cons c rest =>
          have other : c ≠ '-' := by simpa using plain
          simp [Progress.readArgument, Progress.readPlain, Progress.start, other]
    simp only [readArguments, Progress.readAll, if_neg goesOn, read]
    rfl
  rw [start, stopped]
  simp only [markedReport_unknown, visibleInStream_plainReport harmless]

end NodeGauge.Launch
