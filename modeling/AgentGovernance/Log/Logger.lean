-- SUMMARY: Loggers: a filter, a format and the places that lines are written to.
import AgentGovernance.Log.File
import AgentGovernance.Log.Filter
import AgentGovernance.Log.Line

/-!
# Loggers

Variables of the environment come before the settings. Setting up a logger creates the log file and
the directories above it, if a file is written at all.
-/

namespace AgentGovernance.Log

/-- A format of log lines. -/
inductive Format where
  | text
  | json
  deriving DecidableEq, Repr

/-- Where lines are written. -/
structure Destinations where
  stdout : Bool := false
  stderr : Bool := false
  file : Bool := false
  deriving DecidableEq, Repr

/-- The format that a word names. -/
def Format.parse (word : String) : Except GovernanceError Format :=
  match Text.trim word with
  | "text" => .ok .text
  | "json" => .ok .json
  | other => .error (.configuration (.logFormat other))

/-- The destinations that a word names. -/
def Destinations.parse (word : String) : Except GovernanceError Destinations :=
  match Text.trim word with
  | "stdout" => .ok { stdout := true }
  | "stderr" => .ok { stderr := true }
  | "file" => .ok { file := true }
  | "file+stderr" => .ok { file := true, stderr := true }
  | "both" => .ok { stdout := true, stderr := true }
  | other => .error (.configuration (.logOutput other))

/-- A logger that is ready to write. -/
structure Logger where
  filter : Filter := {}
  format : Format := .text
  destinations : Destinations := {}
  style : LineStyle := .plain
  /-- The log file, if one is written. -/
  file : Option Path := none

namespace Logger

/-- Creates a log file, unless it is there. -/
def openFile (path : Path) : Act Disk Unit := do
  match path.parent? with
  | some dir =>
    let (disk, outcome) := (← Act.world).createDirectories dir
    Act.setWorld disk
    if let .error cause := outcome then Act.fail (.configuration (.logDirectory dir cause))
  | none => pure ()
  match (← Act.world).appendFile path .empty with
  | .ok disk => Act.setWorld disk
  | .error cause => Act.fail (.configuration (.logFile path cause))

/-- Sets up a logger. Files never get colours, and neither does what is written beside one. -/
def start (env : Environment) (accountHome : Option Path) (s : LogSettings) :
    Act Disk Logger := do
  if !s.enabled then return {}
  let filter ← Act.ofExcept (Filter.resolve env s)
  let format ← Act.ofExcept (Format.parse ((env.get? "WARDEN_LOG_FORMAT").getD s.format))
  let destinations ←
    Act.ofExcept (Destinations.parse ((env.get? "WARDEN_LOG_OUTPUT").getD s.output))
  let style := if s.color && !destinations.file then .colored else .plain
  if destinations.file then
    let path ← Act.ofExcept (resolveFile env accountHome none s.file none (← Act.world))
    openFile path
    return { filter, format, destinations, style, file := some path }
  else return { filter, format, destinations, style }

/-- The line of an event. -/
def line (l : Logger) (time : Instant) (e : LogEvent) : String :=
  match l.format with
  | .text => e.textLine l.style time
  | .json => e.jsonLine time

/-- The lines of those events that are logged. -/
def lines (l : Logger) (time : Instant) (events : Array LogEvent) : String :=
  String.join ((events.toList.filter l.filter.admits).map fun e => l.line time e ++ "\n")

end Logger

end AgentGovernance.Log
