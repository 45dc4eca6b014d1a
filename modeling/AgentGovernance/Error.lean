-- SUMMARY: Causes of failure across the library, each with its wording in one place.
import AgentGovernance.FileTree

/-!
# Errors

Structural problems travel as errors: descriptors that conflict, settings that make no sense, files
that cannot be read or written. A blocked action or an escalated finding is not an error but a
result. Every cause has a constructor, and `GovernanceError.message` gives the wording of all of
them.
-/

namespace AgentGovernance

/-! ## Persistence -/

/-- Which step of replacing a snapshot failed. -/
inductive PersistenceFault where
  | directory (dir : Path) (cause : FileError)
  | staging (dir : Path) (temp : Path) (cause : FileError)
  | replace (path : Path) (cause : FileError)
  | remove (path : Path) (cause : FileError)
  deriving DecidableEq, Repr

/-- A text in quotation marks, as a path stands in a message. -/
def quotedPath (p : Path) : String := "\"" ++ p.text ++ "\""

def PersistenceFault.message : PersistenceFault → String
  | .directory dir cause => s!"Failed to create directory {dir.text}: {cause.message}"
  | .staging dir temp cause =>
    s!"Failed to create temp file in {dir.text}: {cause.message} at path " ++ quotedPath temp
  | .replace path cause => s!"Failed to replace {path.text}: {cause.message}"
  | .remove path cause => s!"Failed to remove {path.text}: {cause.message}"

/-! ## Descriptors -/

/-- Why a file is no descriptor. -/
inductive DescriptorFault where
  | unreadable (cause : FileError)
  | noBlock
  | malformed
  | missingId
  | blankInId (id : String)
  deriving DecidableEq, Repr

def DescriptorFault.message : DescriptorFault → String
  | .unreadable cause => s!"unreadable: {cause.message}"
  | .noBlock => "no structured descriptor block found"
  | .malformed => "invalid descriptor block: <yaml error>"
  | .missingId => "descriptor is missing required field 'id'"
  | .blankInId id => s!"descriptor id '{id}' must not contain whitespace"

/-! ## Configuration -/

/-- What is wrong with a compound rule. -/
inductive RuleFault where
  | blankId
  | tooFewValidators (rule : String) (count : Nat)
  deriving DecidableEq, Repr

def RuleFault.message : RuleFault → String
  | .blankId => "compound rule id cannot be empty"
  | .tooFewValidators rule count =>
    s!"compound rule '{rule}' needs at least two validators, has {count}"

/-- What is wrong with a set of settings. -/
inductive SettingsFault where
  | noHistory
  | noValidatorTime
  | noAttemptTime
  | noRequiredAction
  | incompleteValidator
  | repeatedValidator (id : String)
  | rule (fault : RuleFault)
  | incompleteStrategy
  | repeatedStrategy (name : String)
  deriving DecidableEq, Repr

def SettingsFault.message : SettingsFault → String
  | .noHistory => "session.history_limit must be at least 1"
  | .noValidatorTime => "audit.validator_timeout_ms must be greater than 0"
  | .noAttemptTime => "remediation.attempt_timeout_ms must be greater than 0"
  | .noRequiredAction => "audit.required_action cannot be empty"
  | .incompleteValidator => "audit validators need both id and command"
  | .repeatedValidator id => s!"duplicate audit validator id '{id}'"
  | .rule fault => fault.message
  | .incompleteStrategy => "remediation strategies need both name and command"
  | .repeatedStrategy name => s!"duplicate remediation strategy '{name}'"

/-- Why a configuration, or a request that depends on it, cannot be served. -/
inductive Misconfiguration where
  | neverLoaded
  | noIdentityGuard
  | noActiveAgent
  | noHome (kind : String)
  | lostWorkspace (path : Path) (cause : FileError)
  | repeatedValidator (id : String)
  | rule (fault : RuleFault)
  | runId (id : String)
  | settings (faults : List SettingsFault)
  | sources
  | unprintable (reason : String)
  | logStateDirectory
  | logFormat (given : String)
  | logOutput (given : String)
  | logDirectory (dir : Path) (cause : FileError)
  | logFile (path : Path) (cause : FileError)
  | logDirective (target level reason : String)
  deriving DecidableEq, Repr

def Misconfiguration.message : Misconfiguration → String
  | .neverLoaded => "Descriptor store was never loaded from disk"
  | .noIdentityGuard => "Scope enforcer has no identity guard"
  | .noActiveAgent => "No agent is active; pass --agent"
  | .noHome kind => s!"Could not determine XDG {kind} home directory (HOME not set)"
  | .lostWorkspace path cause =>
    s!"Failed to canonicalize workspace path {path.text}: {cause.message}"
  | .repeatedValidator id => s!"Validator '{id}' is already registered"
  | .rule fault => fault.message
  | .runId id => s!"Invalid audit run id '{id}'"
  | .settings faults => "; ".intercalate (faults.map SettingsFault.message)
  | .sources => "<config error>"
  | .unprintable reason => s!"Failed to render configuration: {reason}"
  | .logStateDirectory => "Could not determine platform state directory for log file"
  | .logFormat given => s!"Invalid log format '{given}': expected 'text' or 'json'"
  | .logOutput given =>
    s!"Invalid log output '{given}': expected stdout, stderr, file, file+stderr or both"
  | .logDirectory dir cause => s!"Failed to create log directory {dir.text}: {cause.message}"
  | .logFile path cause => s!"Failed to open log file {path.text}: {cause.message}"
  | .logDirective target level reason => s!"Invalid log directive '{target}={level}': {reason}"

/-! ## External commands -/

/-- How a process ended. -/
inductive ExitStatus where
  | exited (code : Nat)
  | signaled (number : Nat)
  deriving DecidableEq, Repr, Inhabited

def ExitStatus.succeeded : ExitStatus → Bool
  | .exited 0 => true
  | _ => false

/-- Names of the signals, by number. -/
def signalNames : List (Nat × String) :=
  [(1, "SIGHUP"), (2, "SIGINT"), (3, "SIGQUIT"), (4, "SIGILL"), (5, "SIGTRAP"), (6, "SIGABRT"),
   (7, "SIGBUS"), (8, "SIGFPE"), (9, "SIGKILL"), (10, "SIGUSR1"), (11, "SIGSEGV"),
   (12, "SIGUSR2"), (13, "SIGPIPE"), (14, "SIGALRM"), (15, "SIGTERM"), (16, "SIGSTKFLT"),
   (17, "SIGCHLD"), (18, "SIGCONT"), (19, "SIGSTOP"), (20, "SIGTSTP"), (21, "SIGTTIN"),
   (22, "SIGTTOU"), (23, "SIGURG"), (24, "SIGXCPU"), (25, "SIGXFSZ"), (26, "SIGVTALRM"),
   (27, "SIGPROF"), (28, "SIGWINCH"), (29, "SIGIO"), (30, "SIGPWR"), (31, "SIGSYS")]

def ExitStatus.message : ExitStatus → String
  | .exited code => s!"exit status: {code}"
  | .signaled number => match signalNames.lookup number with
    | some name => s!"signal: {number} ({name})"
    | none => s!"signal: {number}"

/-- Why an external command did not do its job. -/
inductive CommandFault where
  | notStarted (command : String) (cause : FileError)
  | exited (command : String) (status : ExitStatus) (stderr : String)
  | badFindings (command : String)
  | stated (reason : String)
  deriving DecidableEq, Repr

def CommandFault.message : CommandFault → String
  | .notStarted command cause => s!"failed to start '{command}': {cause.message}"
  | .exited command status stderr => s!"'{command}' exited with {status.message}: {stderr}"
  | .badFindings command => s!"'{command}' printed invalid findings JSON: <json error>"
  | .stated reason => reason

/-! ## All errors -/

/-- Why an operation of the library failed. -/
inductive GovernanceError where
  | descriptorConflict (tag first second : String)
  | descriptorNotFound (id : String)
  | invalidDescriptor (path : Path) (fault : DescriptorFault)
  | descriptorDirMissing (dir : Path)
  | identityConflict (active requested : String)
  | sessionPersistence (fault : PersistenceFault)
  | configuration (cause : Misconfiguration)
  | validator (fault : CommandFault)
  | remediation (fault : CommandFault)
  | serialization
  | io (cause : FileError)
  deriving DecidableEq, Repr

/-- The wording of an error. What a document's reader has to say about a malformed text is not part
of the wording. -/
def GovernanceError.message : GovernanceError → String
  | .descriptorConflict tag first second =>
    s!"Exclusive action '{tag}' is claimed by both '{first}' and '{second}'"
  | .descriptorNotFound id => s!"Agent descriptor not found: {id}"
  | .invalidDescriptor path fault => s!"Invalid descriptor {path.text}: {fault.message}"
  | .descriptorDirMissing dir => s!"Descriptor directory not found: {dir.text}"
  | .identityConflict active requested =>
    s!"Agent '{active}' is already active; deactivate it before activating '{requested}'"
  | .sessionPersistence fault => s!"Session persistence failed: {fault.message}"
  | .configuration cause => s!"Configuration error: {cause.message}"
  | .validator fault => s!"Validator error: {fault.message}"
  | .remediation fault => s!"Remediation error: {fault.message}"
  | .serialization => "Serialization error: <json error>"
  | .io cause => s!"IO error: {cause.message}"

end AgentGovernance
