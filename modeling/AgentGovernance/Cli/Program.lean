-- SUMMARY: The whole program: from an invocation to what is printed, logged and returned.
import AgentGovernance.Cli.Execute
import AgentGovernance.Log.Logger

/-!
# The program

A run loads the settings, starts the logger, opens the workspace and carries out the command.
Nothing is logged before the logger has started. Each of these steps can fail; what is printed then
says which one it was, and the exit code is one.
-/

namespace AgentGovernance.Cli

/-- What a run leaves behind, the disk apart. -/
structure Transcript where
  stdout : String := ""
  stderr : String := ""
  exitCode : Nat := 0
  deriving DecidableEq, Repr

/-- The wording of an error with that of its cause, if it has one of its own. -/
def errorChain (e : GovernanceError) : String :=
  match e with
  | .io cause => s!"{e.message}: {cause.message}"
  | _ => e.message

/-- The log settings with the flags of a command line. -/
def LogFlags.apply (flags : LogFlags) (s : LogSettings) : LogSettings :=
  let s := if flags.verbose then { s with level := "debug", output := "stderr" } else s
  { s with
    level := flags.level.getD s.level
    format := flags.format.getD s.format
    output := flags.output.getD s.output
    file := flags.file.or s.file }

/-- What is printed when a step fails. -/
def failed (step : Option String) (e : GovernanceError) : Transcript :=
  let context := match step with
    | some step => step ++ ": "
    | none => ""
  { stderr := s!"Error: {context}{errorChain e}\n", exitCode := 1 }

/-- A text as lines, and nothing for the empty text. -/
def CommandOutput.transcript (o : CommandOutput) : Transcript :=
  { stdout := if o.text.isEmpty then "" else o.text ++ "\n"
    stderr := match o.notice with
      | some notice => notice ++ "\n"
      | none => ""
    exitCode := o.exitCode }

/-- Puts the lines of the log in front of what is printed. -/
def Transcript.withLog (t : Transcript) (places : Log.Destinations) (lines : String) : Transcript :=
  { t with
    stdout := (if places.stdout then lines else "") ++ t.stdout
    stderr := (if places.stderr then lines else "") ++ t.stderr }

/-- Writes the lines of the log to its file. A file that cannot be written any more is let be. -/
def keepLog (l : Log.Logger) (lines : String) (disk : Disk) : Disk :=
  match l.file with
  | some path => match disk.appendFile path lines.toUTF8 with
    | .ok disk => disk
    | .error _ => disk
  | none => disk

namespace Invocation

/-- Opens the workspace and carries out the command. A failure says which of the two it was. -/
def work (i : Invocation) (host : Host) (settings : Settings) : Act Disk Transcript := do
  match ← Act.attempt (Workspace.load host i.workspace settings) with
  | .error e => return failed (some s!"initializing workspace {i.workspace.text}") e
  | .ok w => match ← Act.attempt (w.execute host i.command) with
    | .error e => return failed none e
    | .ok output => return output.transcript

/-- Works with a logger. -/
def workLogged (i : Invocation) (host : Host) (settings : Settings) (l : Log.Logger)
    (disk : Disk) : Disk × Transcript :=
  let run := (i.work host settings).run disk
  let lines := l.lines host.now run.events
  let transcript := match run.outcome with
    | .ok t => t
    | .error e => failed none e
  (keepLog l lines run.world, transcript.withLog l.destinations lines)

/-- Runs the program. -/
def run (i : Invocation) (host : Host) (disk : Disk) : Disk × Transcript :=
  let loading := (Settings.loadFor host.environment i.workspace i.config).run disk
  match loading.outcome with
  | .error e =>
    (loading.world, failed (some s!"loading configuration for {i.workspace.text}") e)
  | .ok settings =>
    let logging := i.logging.apply settings.logging
    let complaints := if logging.enabled then Log.Filter.complaints host.environment logging else []
    let before := String.join (complaints.map (· ++ "\n"))
    let starting :=
      (Log.Logger.start host.environment host.accountHome logging).run loading.world
    let (disk, t) := match starting.outcome with
      | .error e => (starting.world, failed (some "initializing logging") e)
      | .ok l => i.workLogged host settings l starting.world
    (disk, { t with stderr := before ++ t.stderr })

end Invocation

end AgentGovernance.Cli
