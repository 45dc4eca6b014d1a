-- SUMMARY: Audit runs: authorization, dispatch of all validators, compound rules and verdict.
import AgentGovernance.Audit.Report
import AgentGovernance.Identity.Guard

/-!
# Audit runs

A run asks for authorization, runs every registered validator under a limit, relabels what they
return, lets the compound rules look at it, and issues a verdict. A validator that fails, breaks
down or is late leaves a finding of its own and does not stop the others. A run always ends with a
report.
-/

namespace AgentGovernance

/-- The action that an agent has to be allowed to run an audit. -/
def defaultAuditAction : String := "run_audit"

/-- Whom a run is for: it yields the decision about that agent. -/
structure Authorization (σ : Type) where
  decide : Act σ Decision

namespace Authorization

variable {σ τ : Type}

/-- Authorization of a given agent. -/
def forAgent (e : Enforcer) (index : DescriptorIndex) (agentId action : String) :
    Authorization σ :=
  ⟨e.checkLogged index agentId action⟩

/-- Authorization of the agent that is active when the run starts. The guard's world is a part of
the world of the run. -/
def forActive (get : σ → GuardWorld τ) (set : GuardWorld τ → σ → σ) (e : Enforcer)
    (guard : Option (Guard τ)) (index : DescriptorIndex) (action : String) : Authorization σ :=
  ⟨Act.onPart get set (e.checkActive guard index action)⟩

end Authorization

/-- Validators and rules, with the limits of a run. -/
structure Orchestrator (σ : Type) where
  validators : List (Validator σ) := []
  rules : List CompoundRule := []
  /-- Milliseconds that each validator has. -/
  validatorTimeout : Nat := 30000
  /-- How many high findings are tolerated. -/
  highThreshold : Nat := 3
  authorization : Option (Authorization σ) := none

/-- What came of one validator. -/
inductive Dispatch where
  | completed (findings : List Finding)
  | failed (reason : String)
  deriving DecidableEq, Repr

namespace Orchestrator

variable {σ : Type}

open LogEvent (shown count)

def logTarget : String := "warden::audit::orchestrator"

def note (level : LogLevel) (message : String) (fields : List (String × FieldValue)) : LogEvent :=
  { level, target := logTarget, message, fields }

/-! ## Registration -/

/-- Registers a validator; its id must be new. -/
def register (o : Orchestrator σ) (v : Validator σ) : Except GovernanceError (Orchestrator σ) :=
  if o.validators.any fun w => w.id == v.id then
    .error (.configuration (.repeatedValidator v.id))
  else .ok { o with validators := o.validators ++ [v] }

/-- The event that a registration leaves. -/
def registeredEvent (v : Validator σ) : LogEvent :=
  note .debug "Registered validator" [shown "validator" v.id]

/-- Adds a rule that has no faults. -/
def addRule (o : Orchestrator σ) (r : CompoundRule) : Except GovernanceError (Orchestrator σ) :=
  match r.fault? with
  | some f => .error (.configuration (.rule f))
  | none => .ok { o with rules := o.rules ++ [r] }

/-- The events about validators that a rule names and nobody registered. -/
def strangerEvents (o : Orchestrator σ) (r : CompoundRule) : List LogEvent :=
  (r.validators.filter fun id => !o.validators.any fun v => v.id == id).map fun id =>
    note .warn "Compound rule references an unregistered validator"
      [shown "rule" r.id, shown "validator" id]

def validatorIds (o : Orchestrator σ) : List String := o.validators.map (·.id)

/-- The validator with the given id. -/
def validator? (o : Orchestrator σ) (id : String) : Option (Validator σ) :=
  o.validators.find? fun v => v.id == id

/-! ## Authorization -/

/-- Why a run is refused, and for whom. -/
structure Refusal where
  agent : Option String
  reason : String

/-- The agent of a decision, if it names one. -/
def decisionAgent (d : Decision) : Option String :=
  if d.agentId.isEmpty then none else some d.agentId

/-- The agent that the run is for, or the reason why there is no run. -/
def authorize (o : Orchestrator σ) : Act σ (Except Refusal (Option String)) := do
  match o.authorization with
  | none => return .ok none
  | some auth =>
    match ← Act.attempt auth.decide with
    | .error e =>
      return .error { agent := none, reason := s!"authorization check failed: {e.message}" }
    | .ok d =>
      if d.isBlocked then
        return .error { agent := decisionAgent d, reason := s!"audit not authorized: {d.reason}" }
      else return .ok (decisionAgent d)

/-! ## Dispatch -/

/-- Outcome of one run of a validator. -/
abbrev RunOutcome := Except GovernanceError (Timed (List Finding))

/-- Runs every validator in order of registration. -/
def runAll (o : Orchestrator σ) (scope : AuditScope) :
    List (Validator σ) → Act σ (List (String × RunOutcome))
  | [] => return []
  | v :: vs => do
    let outcome ← Act.attempt (v.run scope o.validatorTimeout)
    return (v.id, outcome) :: (← o.runAll scope vs)

/-- What the run of a validator amounts to. -/
def dispatchOf (limit : Nat) : RunOutcome → Dispatch
  | .ok (.inTime fs) => .completed fs
  | .error e => .failed e.message
  | .ok .late => .failed s!"timed out after {limit}ms"
  | .ok (.aborted reason) => .failed s!"validator task aborted: {reason}"

/-- The event that the run of a validator leaves. -/
def outcomeEvent (limit : Nat) (id : String) : RunOutcome → LogEvent
  | .ok (.inTime fs) =>
    note .debug "Validator completed"
      [shown "validator" id, count "findings" fs.length, count "duration_ms" 0]
  | .error e => note .warn "Validator failed" [shown "validator" id, shown "error" e.message]
  | .ok .late =>
    note .warn "Validator timed out" [shown "validator" id, count "timeout_ms" limit]
  | .ok (.aborted reason) =>
    note .warn "Validator task aborted" [shown "validator" id, shown "error" reason]

/-- Runs every validator and says what came of it. -/
def dispatch (o : Orchestrator σ) (scope : AuditScope) : Act σ (List (String × Dispatch)) := do
  let outcomes ← o.runAll scope o.validators
  outcomes.forM fun (id, outcome) => Act.log (outcomeEvent o.validatorTimeout id outcome)
  return outcomes.map fun (id, outcome) => (id, dispatchOf o.validatorTimeout outcome)

/-! ## Collection and verdict -/

/-- A finding as it enters the report: it belongs to the validator that returned it. -/
def relabel (id : String) (f : Finding) : Finding := { f with validatorId := id, kind := .reported }

/-- The findings of one validator for the report. -/
def findingsOf (id : String) : Dispatch → List Finding
  | .completed fs => fs.map (relabel id)
  | .failed reason => [.validatorFailed id reason]

/-- The failure of one validator, if it failed. -/
def failureOf? (id : String) : Dispatch → Option ValidatorFailure
  | .completed _ => none
  | .failed reason => some { validatorId := id, reason }

/-- What the rules make of the findings. -/
def crossValidate (rules : List CompoundRule) (fs : List Finding) : List (FiredRule × Finding) :=
  rules.filterMap fun r => r.evaluate fs

def firedEvent (r : FiredRule) : LogEvent :=
  note .info "Compound rule fired"
    [shown "rule" r.ruleId, shown "severity" r.severity.text,
     count "contributing" r.contributing.length]

/-- The report of a run from what came of its validators. -/
def assemble (o : Orchestrator σ) (scope : AuditScope) (requestedBy : Option String)
    (stamp : RunStamp) (now : Instant) (outcomes : List (String × Dispatch)) : AuditReport :=
  let lists := outcomes.map fun (id, d) => (id, findingsOf id d)
  let collected := lists.flatMap (·.2)
  let failed := outcomes.filterMap fun (id, d) => failureOf? id d
  let fired := crossValidate o.rules collected
  let findings := Finding.prioritize (collected ++ fired.map (·.2))
  let counts := SeverityCounts.ofFindings findings
  let (verdict, verdictReason) := Verdict.derive counts o.validators.length
    (o.validators.length - failed.length) o.highThreshold
  { runId := runId stamp now, startedAt := now, finishedAt := now, scope, requestedBy
    validators := o.validatorIds
    raw := lists.foldl (fun done (id, fs) => Json.insertField id fs done) []
    failedValidators := failed, firedRules := fired.map (·.1), findings, counts, verdict
    verdictReason, phases := AuditPhase.all }

def verdictEvent (r : AuditReport) : LogEvent :=
  note .info "Audit verdict issued"
    [shown "verdict" r.verdict.text, count "findings" r.counts.total,
     count "critical" r.counts.critical, count "high" r.counts.high,
     count "failed_validators" r.failedValidators.length, count "fired_rules" r.firedRules.length]

/-- Runs an audit. -/
def run (o : Orchestrator σ) (scope : AuditScope) (stamp : RunStamp) (now : Instant) :
    Act σ AuditReport := do
  match ← o.authorize with
  | .error refusal =>
    Act.log (note .warn "Audit refused" [shown "reason" refusal.reason])
    return .refused scope refusal.agent refusal.reason stamp now
  | .ok requestedBy =>
    Act.log (note .info "Dispatching audit"
      [count "validators" o.validators.length, shown "root" scope.root.text])
    let report := o.assemble scope requestedBy stamp now (← o.dispatch scope)
    report.firedRules.forM fun r => Act.log (firedEvent r)
    Act.log (verdictEvent report)
    return report

end Orchestrator

end AgentGovernance
