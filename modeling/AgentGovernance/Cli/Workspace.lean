-- SUMMARY: A workspace that is ready for commands: settings, places, descriptors, guard and enforcer.
import AgentGovernance.Remediation.Engine
import AgentGovernance.Settings.Load

/-!
# Workspaces

Everything that a command needs is built from the settings: the descriptors are loaded, the guard
stands over the session file, and the enforcer knows what is blocked for everybody. A workspace
without a descriptor directory is one without agents.
-/

namespace AgentGovernance.Cli

/-- What a run of the program takes from its surroundings. -/
structure Host where
  environment : Environment
  now : Instant
  /-- Keeps the run ids of processes apart. -/
  stamp : RunStamp
  /-- Runs external programs. -/
  runner : CommandRunner Disk
  /-- The home directory that the account of the user names. -/
  accountHome : Option Path := none

/-- A workspace with its settings. -/
structure Workspace where
  root : Path
  settings : Settings
  paths : StatePaths
  descriptors : DescriptorStore := {}
  /-- What came of loading the descriptors, if there was a directory. -/
  loadReport : Option LoadReport := none

/-- The world of commands: the disk, and the identity that the guard saw last. -/
abbrev Desk := GuardWorld Disk

namespace Workspace

open LogEvent (shown)

def logTarget : String := "warden::tooling::cli"

/-- An act on the disk. -/
def onDisk {α : Type} (act : Act Disk α) : Act Desk α :=
  Act.onPart (·.session) (fun d w => { w with session := d }) act

/-- An act on a store that starts out as given; the store it ends with is part of the result. -/
def onStore {σ α : Type} (store : DescriptorStore) (act : Act DescriptorStore α) :
    Act σ (DescriptorStore × α) := fun j =>
  match act { world := store, events := j.events } with
  | .ok a k => .ok (k.world, a) { j with events := k.events }
  | .error e k => .error e { j with events := k.events }

/-- Loads the descriptors into a workspace. A missing directory is only noted. -/
def loadDescriptors (w : Workspace) : Act Disk Workspace := do
  let disk ← Act.world
  match ← Act.attempt (onStore w.descriptors (DescriptorStore.load disk w.paths.descriptors)) with
  | .ok (descriptors, report) => return { w with descriptors, loadReport := some report }
  | .error (.descriptorDirMissing dir) =>
    Act.log
      { level := .warn, target := logTarget
        message := "Descriptor directory missing; no agents loaded"
        fields := [shown "directory" dir.text] }
    return w
  | .error e => Act.fail e

/-- Opens a workspace. -/
def load (host : Host) (root : Path) (settings : Settings) : Act Disk Workspace := do
  let paths ← Act.ofExcept (StatePaths.resolve settings.descriptors settings.session
    host.environment root (← Act.world))
  loadDescriptors { root, settings, paths }

/-- The guard of the session. -/
def guard (w : Workspace) : Guard Disk :=
  ({ store := SessionStore.file w.paths.sessionFile } : Guard Disk).withHistoryLimit
    w.settings.session.historyLimit

/-- The enforcer of the scopes. -/
def enforcer (w : Workspace) : Enforcer := .ofBlocks w.settings.scope.globallyBlocked

def index (w : Workspace) : DescriptorIndex := w.descriptors.index

/-- The escalations of the workspace. -/
def escalations (w : Workspace) : EscalationChannel Desk :=
  (EscalationChannel.files w.paths.escalations).onPart (·.session)
    fun d w => { w with session := d }

/-- A runner of external programs in the world of commands. -/
def runnerAtDesk (host : Host) : CommandRunner Desk := fun call limit =>
  onDisk (host.runner call limit)

/-! ## Audits -/

/-- The authorization of a run: for the given agent, or for the active one. -/
def authorization (w : Workspace) : Option String → Authorization Desk
  | some agent => .forAgent w.enforcer w.index agent w.settings.audit.requiredAction
  | none =>
    .forActive id (fun g _ => g) w.enforcer (some w.guard) w.index w.settings.audit.requiredAction

/-- The configured validators and rules, ready to run. -/
def orchestrator (w : Workspace) (host : Host) (agent : Option String) :
    Act Desk (Orchestrator Desk) := do
  let audit := w.settings.audit
  let start : Orchestrator Desk :=
    { validatorTimeout := audit.validatorTimeout, highThreshold := audit.highThreshold
      authorization := some (w.authorization agent) }
  let withValidators ← audit.validators.foldlM (fun o c => do
    let v := c.validator (runnerAtDesk host)
    let o' ← Act.ofExcept (o.register v)
    Act.log (Orchestrator.registeredEvent v)
    return o') start
  audit.compoundRules.foldlM (fun o r => do
    let o' ← Act.ofExcept (o.addRule r)
    (o.strangerEvents r).forM Act.log
    return o') withValidators

/-- The configured strategies, ready to fix what an audit found. -/
def engine (w : Workspace) (host : Host) (o : Orchestrator Desk) (scope : AuditScope) :
    Engine Desk :=
  let start : Engine Desk :=
    ({ scope, escalation := w.escalations
       attemptTimeout := w.settings.remediation.attemptTimeout } : Engine Desk).withValidatorsFrom o
  w.settings.remediation.strategies.foldl
    (fun e c => e.withStrategy (c.strategy (runnerAtDesk host))) start

end Workspace

end AgentGovernance.Cli
