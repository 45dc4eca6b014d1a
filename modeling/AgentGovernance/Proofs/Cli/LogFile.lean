-- SUMMARY: Which file a run logs to, and when that is the first that is named.
import AgentGovernance.Cli.Program
import AgentGovernance.Proofs.Act
import AgentGovernance.Proofs.Cli.Arguments

/-!
# The log file of a run

A log file can be named on the command line, by a variable and in the settings, and in this order
they are looked at when a log file is resolved. A run folds its flags into the settings first, and so
a variable comes before the command line. Main statement: a run that logs to a file opens the first
that is named, unless the command line names one and a variable names another.
-/

namespace AgentGovernance

/-! ## Naming log files -/

namespace Log

/-- The first log file that is named: by a flag, by a variable or in the settings. -/
def firstNamed? (env : Environment) (flag configured : Option Path) : Option Path :=
  (filledPath? flag).or (((env.filled? "WARDEN_LOG_FILE").map Path.mk).or (filledPath? configured))

variable {env : Environment} {p : Path} {s : LogSettings}

theorem resolveFile_of_named {flag configured : Option Path}
    (h : firstNamed? env flag configured = some p) (home workspace : Option Path) (disk : Disk) :
    resolveFile env home flag configured workspace disk = .ok p := by
  unfold firstNamed? at h
  unfold resolveFile
  cases hflag : filledPath? flag with
  | some q => simpa [hflag] using h
  | none =>
    cases henv : env.filled? "WARDEN_LOG_FILE" with
    | some q => simpa [hflag, henv] using h
    | none =>
      cases hconfigured : filledPath? configured with
      | some q => simpa [hflag, henv, hconfigured] using h
      | none => simp [hflag, henv, hconfigured] at h

/-- Loggers with these settings write to a file: they are enabled, their words can be read, and a
file is among the places they name. -/
structure ToFile (env : Environment) (s : LogSettings) : Prop where
  enabled : s.enabled = true
  filter : ∃ f, Filter.resolve env s = .ok f
  format : ∃ f, Format.parse ((env.get? "WARDEN_LOG_FORMAT").getD s.format) = .ok f
  places : ∃ d, Destinations.parse ((env.get? "WARDEN_LOG_OUTPUT").getD s.output) = .ok d ∧
    d.file = true

/-- Starting a logger that writes to a file opens the one that the variable names, or else that of
the settings. -/
theorem ToFile.start_eq (h : ToFile env s) (home : Option Path)
    (hnamed : firstNamed? env none s.file = some p) :
    ∃ l : Logger, l.file = some p ∧
      Logger.start env home s = (do Logger.openFile p; return l) := by
  obtain ⟨filter, hfilter⟩ := h.filter
  obtain ⟨format, hformat⟩ := h.format
  obtain ⟨places, hplaces, hfile⟩ := h.places
  refine ⟨{ filter, format, destinations := places, file := some p }, rfl, funext fun j => ?_⟩
  have hresolve : resolveFile env home none s.file none j.world = .ok p :=
    resolveFile_of_named hnamed home none j.world
  simp only [Logger.start, h.enabled, hfilter, hformat, hplaces, hfile, Act.ofExcept_ok_bind,
    Bool.not_true, Bool.and_false, Bool.false_eq_true, if_false, if_true]
  rw [Act.bind_of_ok (rfl : Act.world j = .ok j.world j), hresolve]
  rfl

/-- A filter can be made if no levels are given to single modules. -/
theorem exists_filter (hmodules : s.modules = [])
    (henv : env.get? "WARDEN_LOG_MODULES" = none) : ∃ f, Filter.resolve env s = .ok f := by
  have hsplit : "".splitOn "," = [""] := by
    rw [String.splitOn, if_neg (by decide), String.splitOnAux, if_pos (by decide)]
    rfl
  have hnone : Filter.moduleLevels "" = [] := by
    rw [Filter.moduleLevels, hsplit]
    rfl
  unfold Filter.resolve
  split
  · exact ⟨_, rfl⟩
  split
  · exact ⟨_, rfl⟩
  · rw [hmodules, henv, Option.getD_none, hnone]
    exact ⟨_, rfl⟩

/-- The usual settings log to a file. -/
theorem toFile_default (value : String) (file : Option Path) :
    ToFile [("WARDEN_LOG_FILE", value)] { file } := by
  have hformat : Format.parse "text" = .ok .text := by rfl
  have hplaces : Destinations.parse "file" = .ok { file := true } := by rfl
  exact {
    enabled := rfl
    filter := exists_filter rfl rfl
    format := ⟨.text, hformat⟩
    places := ⟨{ file := true }, hplaces, rfl⟩ }

/-- A flag that is folded into the settings is still what is named first, unless a variable names
another file. -/
theorem exists_firstNamed?_folded {flag configured : Option Path}
    (hflag : ∀ file ∈ flag, file.isEmpty = false)
    (hnamed : firstNamed? env flag configured = some p) :
    ∃ opened, firstNamed? env none (flag.or configured) = some opened ∧
      (opened = p ↔ ¬ ∃ file value, flag = some file ∧
        env.filled? "WARDEN_LOG_FILE" = some value ∧ value ≠ file.text) := by
  cases flag with
  | none => exact ⟨p, hnamed, by simp⟩
  | some file =>
    have hfilled : filledPath? (some file) = some file := by
      simp [filledPath?, hflag file rfl]
    obtain rfl : file = p := by simpa [firstNamed?, hfilled] using hnamed
    cases henv : env.filled? "WARDEN_LOG_FILE" with
    | none =>
      refine ⟨file, ?_, by simp⟩
      rw [Option.some_or, firstNamed?, henv, hfilled]
      rfl
    | some value =>
      refine ⟨⟨value⟩, by simp [firstNamed?, henv, filledPath?], ?_⟩
      obtain ⟨text⟩ := file
      simp

end Log

/-! ## Runs -/

namespace Cli

theorem LogFlags.apply_file (flags : LogFlags) (s : LogSettings) :
    (flags.apply s).file = flags.file.or s.file := by
  unfold LogFlags.apply
  split <;> rfl

/-- Where a log file is named on an accepted command line, by the variable or in the settings, the
first of these is what resolving gives, with the command line in front. A run that logs to a file
opens that file exactly if the variable does not name another one than the command line. -/
theorem opens_first_named_iff {args : List String} {i : Invocation}
    (hargs : Invocation.parse args = .ok i) {env : Environment} {s : LogSettings}
    (hfile : Log.ToFile env (i.logging.apply s)) {p : Path}
    (hnamed : Log.firstNamed? env i.logging.file s.file = some p)
    (home workspace : Option Path) (disk : Disk) :
    Log.resolveFile env home i.logging.file s.file workspace disk = .ok p ∧
    ∃ (opened : Path) (l : Log.Logger), l.file = some opened ∧
      Log.Logger.start env home (i.logging.apply s) = (do Log.Logger.openFile opened; return l) ∧
      (opened = p ↔ ¬ ∃ file value, i.logging.file = some file ∧
        env.filled? "WARDEN_LOG_FILE" = some value ∧ value ≠ file.text) := by
  refine ⟨Log.resolveFile_of_named hnamed home workspace disk, ?_⟩
  obtain ⟨opened, hopened, hiff⟩ :=
    Log.exists_firstNamed?_folded (logFile_filled_of_parse hargs) hnamed
  rw [← LogFlags.apply_file] at hopened
  obtain ⟨l, hl, hstart⟩ := hfile.start_eq home hopened
  exact ⟨opened, l, hl, hstart, hiff⟩

private theorem parse_flag : Invocation.parse ["--log-file", "/flag.log", "status"] =
    .ok { logging := { file := some ⟨"/flag.log"⟩ }, command := .status .text } := by
  rfl

/-- A file on the command line comes before the one in the settings, and a variable that is set to
the empty text names nothing. -/
theorem opens_first_named_iff_flag :
    let env : Environment := [("WARDEN_LOG_FILE", "")]
    let s : LogSettings := { file := some ⟨"/configured.log"⟩ }
    ∃ i, Invocation.parse ["--log-file", "/flag.log", "status"] = .ok i ∧
      Log.ToFile env (i.logging.apply s) ∧
      Log.firstNamed? env i.logging.file s.file = some ⟨"/flag.log"⟩ ∧
      ∃ l : Log.Logger, l.file = some ⟨"/flag.log"⟩ ∧
        Log.Logger.start env none (i.logging.apply s) =
          (do Log.Logger.openFile ⟨"/flag.log"⟩; return l) := by
  intro env s
  have hfile := Log.toFile_default "" (some ⟨"/flag.log"⟩)
  have hnamed : Log.firstNamed? env (some ⟨"/flag.log"⟩) s.file = some ⟨"/flag.log"⟩ := by decide
  obtain ⟨-, opened, l, hl, hstart, hiff⟩ :=
    opens_first_named_iff parse_flag hfile hnamed none none { tree := .empty }
  obtain rfl := hiff.2 (by rintro ⟨_, value, -, hvalue, -⟩; cases hvalue)
  exact ⟨_, parse_flag, hfile, hnamed, l, hl, hstart⟩

/-- The command line names one file and a variable another: resolving gives the former and the run
opens the latter. -/
theorem variable_beats_flag :
    let env : Environment := [("WARDEN_LOG_FILE", "/env.log")]
    let disk : Disk := { tree := .empty }
    ∃ i, Invocation.parse ["--log-file", "/flag.log", "status"] = .ok i ∧
      Log.ToFile env (i.logging.apply {}) ∧
      Log.resolveFile env none i.logging.file none none disk = .ok ⟨"/flag.log"⟩ ∧
      ((Log.Logger.start env none (i.logging.apply {})).run disk).outcome.map (·.file) =
        .ok (some ⟨"/env.log"⟩) := by
  intro env disk
  have hfile := Log.toFile_default "/env.log" (some ⟨"/flag.log"⟩)
  have hnamed : Log.firstNamed? env none (some ⟨"/flag.log"⟩) = some ⟨"/env.log"⟩ := by decide
  obtain ⟨l, hl, hstart⟩ := hfile.start_eq none hnamed
  have hopen : ((Log.Logger.openFile ⟨"/env.log"⟩).run disk).outcome = .ok () := rfl
  refine ⟨_, parse_flag, hfile, Log.resolveFile_of_named (by decide) none none disk, ?_⟩
  change ((Log.Logger.start env none { file := some ⟨"/flag.log"⟩ }).run disk).outcome.map _ = _
  rw [hstart, (Act.run_then_pure _ l disk).1, hopen, ← hl]
  rfl

end Cli

end AgentGovernance
