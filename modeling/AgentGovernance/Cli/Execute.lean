-- SUMMARY: Carrying out commands: their output, notices and exit codes.
import AgentGovernance.Cli.Invocation
import AgentGovernance.Cli.Workspace
import AgentGovernance.View.Agents
import AgentGovernance.View.Audit
import AgentGovernance.View.Session

/-!
# Carrying out commands

A command ends with a text, perhaps a notice, and an exit code: two for a blocked action or a claim
of another identity, one for an audit that failed or was blocked and for descriptors that are not
valid. Whatever the command, its notice tells which descriptors were skipped.
-/

namespace AgentGovernance.Cli

/-- What a command yields. -/
structure CommandOutput where
  text : String
  notice : Option String := none
  exitCode : Nat := 0
  deriving DecidableEq, Repr

namespace Workspace

open LogEvent (shown)

/-! ## Agents -/

/-- An agent in the list of agents. -/
def agentJson (active : Option String) (d : AgentDescriptor) : Json :=
  .object
    [("id", .string d.id), ("name", .string d.name), ("can", .strings d.can),
     ("cannot", .strings d.cannot), ("exclusive", .strings d.exclusive),
     ("active", .bool (active == some d.id))]

def agentList (w : Workspace) (format : OutputFormat) : Act Desk CommandOutput := do
  let agents := w.descriptors.all
  let active := (← w.guard.current w.index).map (·.id)
  match format with
  | .json =>
    let j : Json := .object
      [("total", .nat agents.length), ("agents", .list (agentJson active) agents)]
    return { text := j.sorted.pretty }
  | .text => return { text := View.agentList agents active }

def agentShow (w : Workspace) (id : String) (format : OutputFormat) : Act Desk CommandOutput := do
  let d ← Act.ofExcept (w.descriptors.get id)
  match format with
  | .json => return { text := d.toJson.pretty }
  | .text => return { text := View.descriptor d }

/-- One validation in the list of validations. -/
def validationJson (v : Validation) : Json :=
  .object
    [("agent_id", .string v.agentId), ("valid", .bool v.isValid),
     ("checks", .list (fun (check, passed) =>
       .object [("check", .string check), ("passed", .bool passed)]) v.checks),
     ("errors", .strings v.errors)]

/-- The files that were skipped when the descriptors were loaded, with the reasons. -/
def skipped (w : Workspace) : List (Path × String) :=
  match w.loadReport with
  | some report => report.skipped.map fun s => (s.path, s.cause.message)
  | none => []

def agentValidate (w : Workspace) (id : Option String) (format : OutputFormat) :
    Act Desk CommandOutput := do
  let fileExists := (← Act.world).session.has
  let results ← match id with
    | some id => do pure [← Act.ofExcept (w.descriptors.validate fileExists id)]
    | none => pure (w.descriptors.validateAll fileExists)
  let valid := results.all Validation.isValid
  let exitCode := if valid then 0 else 1
  match format with
  | .json =>
    let j : Json := .object
      [("valid", .bool valid), ("results", .list validationJson results),
       ("skipped", .list (fun (path, reason) =>
         .object [("path", path.toJson), ("reason", .string reason)]) w.skipped)]
    return { text := j.sorted.pretty, exitCode }
  | .text => return { text := View.validations results w.skipped, exitCode }

/-! ## Sessions -/

def activate (w : Workspace) (host : Host) (id : String) : Act Desk CommandOutput := do
  let state ← w.guard.activate w.index id host.now
  let active := state.activeAgent.getD id
  return { text := s!"Activated agent: {active}" }

def deactivate (w : Workspace) : Act Desk CommandOutput := do
  let before := (← w.guard.session).activeAgent
  let _ ← w.guard.deactivate
  match before with
  | some agent => return { text := s!"Deactivated agent: {agent}" }
  | none => return { text := "No agent was active" }

def status (w : Workspace) (format : OutputFormat) : Act Desk CommandOutput := do
  let _ ← w.guard.current w.index
  let state ← w.guard.session
  match format with
  | .json => return { text := state.toJson.pretty }
  | .text => return { text := View.session state }

def touch (w : Workspace) (host : Host) (task : Option String) : Act Desk CommandOutput := do
  match (← w.guard.touch task host.now).activeAgent with
  | some agent => return { text := s!"Recorded activity for {agent}" }
  | none => return { text := "No agent is active" }

def reload (w : Workspace) : Act Desk CommandOutput := do
  let disk := (← Act.world).session
  let (store, report) ← onStore w.descriptors (DescriptorStore.load disk w.paths.descriptors)
  let active ← w.guard.current store.index
  let loaded := s!"Loaded {report.loaded} agent descriptor(s), skipped {report.skipped.length}"
  match active with
  | some d => return { text := s!"{loaded}\nActive agent: {d.id}" }
  | none => return { text := s!"{loaded}\nNo agent is active" }

/-! ## Decisions -/

def check (w : Workspace) (action : String) (agent : Option String) (format : OutputFormat) :
    Act Desk CommandOutput := do
  let d ← match agent with
    | some agent => w.enforcer.checkLogged w.index agent action
    | none => w.enforcer.checkActive (some w.guard) w.index action
  let text := match format with
    | .json => d.toJson.pretty
    | .text => View.decision d
  return {
    text
    notice := if d.isWarned then some s!"warning: {d.reason}" else none
    exitCode := d.exitCode }

def blocked (w : Workspace) (agent : Option String) (format : OutputFormat) :
    Act Desk CommandOutput := do
  let id ← match agent with
    | some agent => pure agent
    | none => match ← w.guard.current w.index with
      | some d => pure d.id
      | none => Act.fail (.configuration .noActiveAgent)
  let tags := w.enforcer.blockedActions w.index id
  match format with
  | .json =>
    let j : Json := .object [("agent_id", .string id), ("blocked", .strings tags)]
    return { text := j.sorted.pretty }
  | .text =>
    return { text := View.headed s!"Blocked for {id}" ++
      String.join (tags.map fun t => s!"  {t}\n") }

def bleedCheck (w : Workspace) (text : String) (format : OutputFormat) :
    Act Desk CommandOutput := do
  let c ← w.guard.checkBleed w.index text
  let exitCode := if c.isClean then 0 else 2
  match format with
  | .json =>
    let j : Json := .object
      [("clean", .bool c.isClean), ("active_agent", .optional .string c.activeAgent),
       ("impersonated", .optional .string c.impersonated), ("reason", .string c.reason)]
    return { text := j.sorted.pretty, exitCode }
  | .text => return { text := c.reason, exitCode }

/-! ## Audits -/

/-- Fixes what an audit found, if it got as far as running validators. -/
def remediate (w : Workspace) (host : Host) (o : Orchestrator Desk) (scope : AuditScope)
    (report : AuditReport) : Act Desk (Option (List (Finding × RemediationResult))) := do
  if report.phases.contains .dispatched then
    let results ← Act.onPart (fun g => ({ outer := g } : EngineWorld Desk)) (fun e _ => e.outer)
      ((w.engine host o scope).fixAll report host.now)
    return some results
  else return none

/-- A report and what came of fixing its findings. -/
def auditText (report : AuditReport) (fixes : Option (List (Finding × RemediationResult))) :
    OutputFormat → String
  | .json =>
    let result : Finding × RemediationResult → Json := fun (f, r) =>
      .object [("finding", f.toJson), ("result", r.toJson)]
    let j : Json := .object
      [("report", report.toJson), ("remediation", .optional (Json.list result) fixes)]
    j.sorted.pretty
  | .text =>
    View.report report ++ match fixes with
      | some results => "\n" ++ View.remediation results
      | none => ""

def audit (w : Workspace) (host : Host) (scope : Option Path) (agent : Option String) (fix : Bool)
    (format : OutputFormat) : Act Desk CommandOutput := do
  let root := match scope with
    | some path => w.root.join path.text
    | none => w.root
  let root ← match (← Act.world).session.canonicalize root with
    | .ok canonical => pure canonical
    | .error e => Act.fail (.io e)
  let scope : AuditScope := { root }
  let o ← w.orchestrator host agent
  let report ← o.run scope host.stamp host.now
  let fixes ← if fix then w.remediate host o scope report else pure none
  let stored ← onDisk (ReportStore.save ⟨w.paths.audits⟩ report)
  Act.log
    { level := .info, target := logTarget, message := "Audit report stored"
      fields := [shown "run_id" report.runId, shown "path" stored.text,
        shown "verdict" report.verdict.text] }
  return { text := auditText report fixes format, exitCode := report.verdict.exitCode }

def report (w : Workspace) (run : Option String) (format : OutputFormat) :
    Act Desk CommandOutput := do
  let disk := (← Act.world).session
  let store : ReportStore := ⟨w.paths.audits⟩
  let found ← Act.ofExcept (match run with
    | some id => store.load id disk
    | none => store.latest disk)
  match found with
  | none => return { text := "No audit reports stored", exitCode := 1 }
  | some r =>
    let text := match format with
      | .json => r.toJson.pretty
      | .text => View.report r
    return { text, exitCode := r.verdict.exitCode }

def listEscalations (w : Workspace) (format : OutputFormat) : Act Desk CommandOutput := do
  let records ← Act.ofExcept (EscalationChannel.stored w.paths.escalations (← Act.world).session)
  match format with
  | .json => return { text := (Json.list EscalationRecord.toJson records).pretty }
  | .text => return { text := View.escalations records }

def showSettings (w : Workspace) (format : OutputFormat) : Act Desk CommandOutput := do
  match format with
  | .json => return { text := w.settings.toJson.pretty }
  | .text => return { text := ← Act.ofExcept w.settings.render }

/-! ## All commands -/

/-- Carries out a command. -/
def dispatch (w : Workspace) (host : Host) : Command → Act Desk CommandOutput
  | .agentList format => w.agentList format
  | .agentShow id format => w.agentShow id format
  | .agentValidate id format => w.agentValidate id format
  | .activate id => w.activate host id
  | .deactivate => w.deactivate
  | .status format => w.status format
  | .touch task => w.touch host task
  | .reload => w.reload
  | .check action agent format => w.check action agent format
  | .blocked agent format => w.blocked agent format
  | .bleedCheck text format => w.bleedCheck text format
  | .audit scope agent fix format => w.audit host scope agent fix format
  | .report run format => w.report run format
  | .escalations format => w.listEscalations format
  | .config format => w.showSettings format

/-- The notice about skipped descriptors. -/
def skippedNotice? (w : Workspace) : Option String :=
  if w.skipped.isEmpty then none
  else
    let files := w.skipped.map fun (path, reason) => s!"{path.text} ({reason})"
    let all := "; ".intercalate files
    some s!"warning: {files.length} agent descriptor(s) skipped: {all}"

/-- Carries out a command and adds the notice about skipped descriptors. -/
def execute (w : Workspace) (host : Host) (c : Command) : Act Disk CommandOutput := do
  let output ← Act.onPart (fun d => ({ session := d } : Desk)) (fun g _ => g.session)
    (w.dispatch host c)
  let notice := match w.skippedNotice?, output.notice with
    | some s, some n => some s!"{s}\n{n}"
    | some s, none => some s
    | none, n => n
  return { output with notice }

end Workspace

/-- Carries out a command line from loading the settings on. -/
def Invocation.execute (i : Invocation) (host : Host) : Act Disk CommandOutput := do
  let settings ← Settings.loadFor host.environment i.workspace i.config
  let w ← Workspace.load host i.workspace settings
  w.execute host i.command

end AgentGovernance.Cli
