-- SUMMARY: Where things live: the user's directories, and the files of a workspace.
import AgentGovernance.Disk
import AgentGovernance.Environment
import AgentGovernance.Settings.Basic

/-!
# Places

The state of a workspace lives in a directory of its own. Unless the settings name one, it is found
below the state directory of the user, under the path of the workspace.
-/

namespace AgentGovernance

/-! ## Directories of the user -/

/-- The home directory of the user, wanted for directories of a kind. -/
def homeFor (kind : String) (env : Environment) : Except GovernanceError Path :=
  match env.get? "HOME" with
  | some home => .ok ⟨home⟩
  | none => .error (.configuration (.noHome kind))

/-- Where the user keeps configuration. -/
def configHome (env : Environment) : Except GovernanceError Path :=
  match env.filled? "XDG_CONFIG_HOME" with
  | some dir => .ok ⟨dir⟩
  | none => do return (← homeFor "config" env).join ".config"

/-- Where the user keeps state. -/
def stateHome (env : Environment) : Except GovernanceError Path :=
  match env.filled? "XDG_STATE_HOME" with
  | some dir => .ok ⟨dir⟩
  | none => do return ((← homeFor "state" env).join ".local").join "state"

/-- The configuration file of the user. -/
def globalConfigFile (env : Environment) : Except GovernanceError Path := do
  return ((← configHome env).join "warden").join "config.toml"

/-! ## Directories of a workspace -/

/-- A directory under which the canonical path of a workspace is repeated. -/
def belowForWorkspace (base workspace : Path) (disk : Disk) : Except GovernanceError Path :=
  match disk.canonicalize workspace with
  | .ok canonical => .ok (canonical.names.foldl Path.join base)
  | .error cause => .error (.configuration (.lostWorkspace workspace cause))

/-- The state directory of a workspace below that of the user. -/
def workspaceStateDir (env : Environment) (workspace : Path) (disk : Disk) :
    Except GovernanceError Path := do
  belowForWorkspace ((← stateHome env).join "warden") workspace disk

/-- The state directory that the settings choose. -/
def SessionSettings.resolveStateDir (s : SessionSettings) (env : Environment) (workspace : Path)
    (disk : Disk) : Except GovernanceError Path :=
  match s.stateDir with
  | some dir => .ok (workspace.join dir.text)
  | none => workspaceStateDir env workspace disk

/-- The places of a workspace. -/
structure StatePaths where
  descriptors : Path
  stateDir : Path
  sessionFile : Path
  audits : Path
  escalations : Path
  deriving DecidableEq, Repr, Inhabited

/-- The places of a workspace under the given settings. -/
def StatePaths.resolve (descriptors : DescriptorSettings) (session : SessionSettings)
    (env : Environment) (workspace : Path) (disk : Disk) : Except GovernanceError StatePaths := do
  let stateDir ← session.resolveStateDir env workspace disk
  return {
    descriptors := workspace.join descriptors.path.text
    stateDir
    sessionFile := stateDir.join SessionStore.fileName
    audits := stateDir.join "audits"
    escalations := stateDir.join "escalations" }

end AgentGovernance
