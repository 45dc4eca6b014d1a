-- SUMMARY: Loading settings: defaults, the user's file, the workspace's file, the environment.
import AgentGovernance.Settings.Decode
import AgentGovernance.Settings.Place

/-!
# Loading settings

Four layers, later ones winning: the defaults, the configuration file of the user, that of the
workspace, and environment variables. A file that is missing or cannot be read is passed over,
unless it was asked for by name; one that can be read must be well formed.
-/

namespace AgentGovernance

namespace Settings

open LogEvent (shown)

/-- The settings that are always given, so that a source which replaces a whole section by something
else is noticed. -/
def defaultLayer : List (String × Setting) :=
  [("session.history_limit", .integer defaultHistoryLimit),
   ("audit.high_threshold", .integer 3),
   ("audit.validator_timeout_ms", .integer 30000),
   ("audit.required_action", .text defaultAuditAction),
   ("remediation.attempt_timeout_ms", .integer defaultAttemptTimeout),
   ("logging.level", .text "info"),
   ("logging.format", .text "text"),
   ("logging.output", .text "file")]

/-- The text of a configuration file. If there is no such file, one with the ending `.toml` added is
taken. -/
def fileText (path : Path) (disk : Disk) : Except FileError String :=
  let isFile (p : Path) : Bool := disk.has p && !disk.isDirectory p
  if isFile path then disk.readText path
  else match path.parent?, path.fileName? with
    | some dir, some name =>
      let longer := dir.join (name ++ ".toml")
      if isFile longer then disk.readText longer else .error .notFound
    | _, _ => .error .notFound

/-- The layer that a document holds. -/
def documentLayer (text : String) : Except GovernanceError (List (String × Setting)) :=
  match Toml.document? text with
  | some entries => .ok (Setting.ofTomlEntries entries)
  | none => .error (.configuration .sources)

/-- The layer of a file that need not exist. -/
def optionalLayer (path : Path) (disk : Disk) : Except GovernanceError (List (String × Setting)) :=
  match fileText path disk with
  | .ok text => documentLayer text
  | .error _ => .ok []

/-- The layer of a file that must exist. -/
def requiredLayer (path : Path) (disk : Disk) : Except GovernanceError (List (String × Setting)) :=
  match fileText path disk with
  | .ok text => documentLayer text
  | .error _ => .error (.configuration .sources)

/-- The settings that layers make, the first one lowest. -/
def ofLayers (layers : List (List (String × Setting))) : Except GovernanceError Settings :=
  match ofSetting? (layers.foldl Setting.layer (.table [])) with
  | some s => .ok s
  | none => .error (.configuration .sources)

/-- The configuration file of a workspace. -/
def workspaceFile (workspace : Path) : Path := workspace.join "warden.toml"

def mergeTarget : String := "warden::config::merge::service"

/-- The layer of the user's configuration file, if there is a place for one. -/
def globalLayer (env : Environment) : Act Disk (Option Path) := do
  let target := "warden::config::sources::global_file"
  match globalConfigFile env with
  | .ok path =>
    Act.log
      { level := .debug, target, message := "Global config source"
        fields := [shown "path" path.text] }
    return some path
  | .error e =>
    Act.log
      { level := .debug, target, message := "No global config location"
        fields := [shown "error" e.message] }
    return none

/-- Loads the settings of a workspace. -/
def load (env : Environment) (workspace : Path) : Act Disk Settings := do
  let globalFile ← globalLayer env
  let disk ← Act.world
  let fromUser ← Act.ofExcept (match globalFile with
    | some path => optionalLayer path disk
    | none => .ok [])
  let fromWorkspace ← Act.ofExcept (optionalLayer (workspaceFile workspace) disk)
  let s ← Act.ofExcept (ofLayers [defaultLayer, fromUser, fromWorkspace, Setting.ofEnvironment env])
  Act.log
    { level := .debug, target := mergeTarget, message := "Configuration loaded"
      fields := [shown "workspace" workspace.text] }
  Act.ofExcept s.validate
  return s

/-- Loads the settings from one file and the environment. -/
def loadFile (env : Environment) (path : Path) : Act Disk Settings := do
  let disk ← Act.world
  let fromFile ← Act.ofExcept (requiredLayer path disk)
  let s ← Act.ofExcept (ofLayers [defaultLayer, fromFile, Setting.ofEnvironment env])
  Act.log
    { level := .debug, target := mergeTarget, message := "Configuration loaded from file"
      fields := [shown "path" path.text] }
  Act.ofExcept s.validate
  return s

/-- Loads the settings from the given file, or else those of the workspace. -/
def loadFor (env : Environment) (workspace : Path) : Option Path → Act Disk Settings
  | some path => loadFile env path
  | none => load env workspace

end Settings

end AgentGovernance
