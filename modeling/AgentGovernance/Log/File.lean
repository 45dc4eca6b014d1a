-- SUMMARY: Which file the log goes to.
import AgentGovernance.Settings.Place

/-!
# The log file

A file given on the command line comes first, then one named by a variable, then the configured one.
The last resort is a file in the state directory of the user, below the path of a workspace if one
is given.
-/

namespace AgentGovernance.Log

/-- A path that is given and not empty. -/
def filledPath? (p : Option Path) : Option Path := p.filter fun p => !p.isEmpty

/-- The state directory of the program. `accountHome` is the home directory that the user's account
names, for want of a variable. A relative directory in the environment does not count. -/
def stateDir? (env : Environment) (accountHome : Option Path) : Option Path := do
  let home ← ((env.filled? "HOME").map Path.mk).or accountHome
  let base := match (env.get? "XDG_STATE_HOME").map Path.mk with
    | some dir => if dir.isAbsolute then dir else (home.join ".local").join "state"
    | none => (home.join ".local").join "state"
  return base.join "warden"

/-- The log file when nobody names one. -/
def defaultFile (env : Environment) (accountHome workspace : Option Path) (disk : Disk) :
    Except GovernanceError Path := do
  match stateDir? env accountHome with
  | none => .error (.configuration .logStateDirectory)
  | some dir =>
    let dir ← match workspace with
      | some w => belowForWorkspace dir w disk
      | none => .ok dir
    return dir.join "warden.log"

/-- The file that a log goes to. -/
def resolveFile (env : Environment) (accountHome flag configured workspace : Option Path)
    (disk : Disk) : Except GovernanceError Path :=
  match filledPath? flag with
  | some p => .ok p
  | none => match env.filled? "WARDEN_LOG_FILE" with
    | some p => .ok ⟨p⟩
    | none => match filledPath? configured with
      | some p => .ok p
      | none => defaultFile env accountHome workspace disk

end AgentGovernance.Log
