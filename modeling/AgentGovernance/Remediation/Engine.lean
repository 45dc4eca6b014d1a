-- SUMMARY: The remediation engine: a bounded fix loop that ends in a fix or in a final escalation.
import AgentGovernance.Audit.Orchestrator
import AgentGovernance.Remediation.Escalation
import AgentGovernance.Remediation.Strategy

/-!
# The remediation engine

The engine tries strategies on a finding, one after the other and none twice, and asks the validator
of the finding after each. It stops when the finding is gone, when the bound is reached or when no
strategy is left. A finding that is still there is escalated, and an escalation is final: whoever
asks again is given the recorded result.
-/

namespace AgentGovernance

/-- How long an attempt may take, in milliseconds, unless someone says otherwise. -/
def defaultAttemptTimeout : Nat := 120000

/-- An engine over plug-ins in a world `σ`. -/
structure Engine (σ : Type) where
  scope : AuditScope
  strategies : List (FixStrategy σ) := []
  selector : StrategySelector σ := .firstUntried
  /-- Validators that confirm fixes, the last one with an id counting. -/
  validators : List (Validator σ) := []
  escalation : EscalationChannel σ := .log
  attemptTimeout : Nat := defaultAttemptTimeout

/-- The world of the plug-ins and the results that are final, by fingerprint. -/
structure EngineWorld (σ : Type) where
  outer : σ
  ledger : List (String × RemediationResult) := []

namespace Engine

variable {σ : Type} (e : Engine σ)

open LogEvent (shown quoted count)

def logTarget : String := "warden::remediation::engine"

def note (level : LogLevel) (message : String) (fields : List (String × FieldValue)) :
    Act (EngineWorld σ) Unit :=
  Act.log { level, target := logTarget, message, fields }

/-! ## Building -/

def withStrategy (s : FixStrategy σ) : Engine σ := { e with strategies := e.strategies ++ [s] }

/-- Adds a validator that confirms fixes of its findings. -/
def withValidator (v : Validator σ) : Engine σ := { e with validators := v :: e.validators }

/-- Adds the validators of an orchestrator. -/
def withValidatorsFrom (o : Orchestrator σ) : Engine σ :=
  o.validators.foldl (fun e v => e.withValidator v) e

/-- The validator that confirms fixes of the findings of an id. -/
def validator? (id : String) : Option (Validator σ) := e.validators.find? fun v => v.id == id

/-! ## The ledger -/

/-- An act on the world of the plug-ins. -/
def onOuter {α : Type} (act : Act σ α) : Act (EngineWorld σ) α :=
  Act.onPart (·.outer) (fun s w => { w with outer := s }) act

/-- Puts a result into the ledger. -/
def settle (fingerprint : String) (r : RemediationResult) : Act (EngineWorld σ) Unit := do
  let w ← Act.world
  Act.setWorld { w with ledger := (fingerprint, r) :: w.ledger.filter fun l => l.1 != fingerprint }

/-- Where a finding stands. -/
def stateOf (w : EngineWorld σ) (f : Finding) : RemediationState :=
  match w.ledger.lookup f.fingerprint with
  | some r => r.state
  | none => .pending

/-- The result of an escalation that was recorded before, in the ledger or in the channel. -/
def settledEscalation (fingerprint : String) : Act (EngineWorld σ) (Option RemediationResult) := do
  match ((← Act.world).ledger.lookup fingerprint).filter fun r => r.isEscalated with
  | some r => return some r
  | none =>
    match ← Act.attempt (onOuter (e.escalation.find fingerprint)) with
    | .ok (some record) =>
      let r := RemediationResult.escalated record.fingerprint record.attempts record.reason
      settle fingerprint r
      return some r
    | .ok none => return none
    | .error err =>
      note .warn "Could not read escalation history"
        [quoted "fingerprint" fingerprint, shown "error" err.message]
      return none

/-- Hands a finding to people and records that. -/
def escalate (f : Finding) (fingerprint : String) (attempts : List FixAttempt) (reason : String)
    (now : Instant) : Act (EngineWorld σ) RemediationResult := do
  let record : EscalationRecord :=
    { fingerprint, finding := f, attempts, reason, escalatedAt := now }
  match ← Act.attempt (onOuter (e.escalation.escalate record)) with
  | .ok () => pure ()
  | .error err =>
    note .warn "Escalation channel failed; escalation kept in memory"
      [shown "fingerprint" fingerprint, shown "error" err.message]
  note .info "Finding escalated"
    [shown "fingerprint" fingerprint, count "attempts" attempts.length, shown "reason" reason]
  let r := RemediationResult.escalated fingerprint attempts reason
  settle fingerprint r
  return r

/-! ## Attempts -/

/-- Whether a finding is among those that its validator returned. -/
def stillReported (f : Finding) (fingerprint : String) (returned : List Finding) : Bool :=
  returned.any fun g => { g with validatorId := f.validatorId }.fingerprint == fingerprint

/-- What the answer of the validator after a fix means. -/
def verdictOn (f : Finding) (fingerprint : String) (limit : Nat) :
    Except GovernanceError (Timed (List Finding)) → FixOutcome × Option String
  | .ok (.inTime fs) =>
    if stillReported f fingerprint fs then (.partially, some "finding still reported after the fix")
    else (.fixed, none)
  | .ok .late => (.failed, some s!"re-validation timed out after {limit}ms")
  | .ok (.aborted reason) => (.failed, some s!"re-validation failed: {reason}")
  | .error err => (.failed, some s!"re-validation failed: {err.message}")

/-- Applies a strategy and asks the validator again. -/
def tryOnce (s : FixStrategy σ) (v : Validator σ) (f : Finding) (fingerprint : String) :
    Act σ (FixOutcome × Option String) := do
  match ← Act.attempt (s.apply f e.scope e.attemptTimeout) with
  | .ok .late => return (.failed, some s!"strategy timed out after {e.attemptTimeout}ms")
  | .ok (.aborted reason) => return (.failed, some reason)
  | .error err => return (.failed, some err.message)
  | .ok (.inTime ()) =>
    return verdictOn f fingerprint e.attemptTimeout (← Act.attempt (v.run e.scope e.attemptTimeout))

/-- One attempt with its record. -/
def attempt (iteration : Nat) (s : FixStrategy σ) (v : Validator σ) (f : Finding)
    (fingerprint : String) (now : Instant) : Act (EngineWorld σ) FixAttempt := do
  let (outcome, error) ← onOuter (e.tryOnce s v f fingerprint)
  let a : FixAttempt := { iteration, strategy := s.name, outcome, error, time := now }
  note .info "Fix attempt recorded"
    [shown "fingerprint" fingerprint, count "iteration" iteration, shown "strategy" a.strategy,
     shown "outcome" a.outcome.text, quoted "error" (a.error.getD "")]
  return a

/-- Asks the selector for a strategy. -/
def choose (f : Finding) (applicable : List (FixStrategy σ)) (prior : List FixAttempt) :
    Act (EngineWorld σ) (Option (FixStrategy σ)) := do
  let w ← Act.world
  let (choice, outer) := e.selector.select f applicable prior w.outer
  Act.setWorld { w with outer }
  return choice

/-- Attempts up to `left` more fixes. The result tells whether the last of the attempts fixed it. -/
def fixLoop (v : Validator σ) (f : Finding) (fingerprint : String)
    (applicable : List (FixStrategy σ)) (now : Instant) :
    (left : Nat) → List FixAttempt → Act (EngineWorld σ) (Bool × List FixAttempt)
  | 0, prior => return (false, prior)
  | left + 1, prior => do
    match ← e.choose f applicable prior with
    | none => return (false, prior)
    | some s =>
      if StrategySelector.wasTried prior s.name then
        note .warn "Selector repeated a strategy; stopping" [shown "strategy" s.name]
        return (false, prior)
      else
        let a ← e.attempt (prior.length + 1) s v f fingerprint now
        if a.outcome == .fixed then return (true, prior ++ [a])
        else fixLoop v f fingerprint applicable now left (prior ++ [a])

/-- Why a finding is escalated after these attempts. -/
def exhaustion (attempts : List FixAttempt) : String :=
  if maxAttempts ≤ attempts.length then s!"finding persisted after {maxAttempts} attempts"
  else if attempts.isEmpty then "no applicable fix strategy"
  else s!"no untried strategy left after {attempts.length} attempt(s)"

/-! ## Fixing -/

/-- Fixes or escalates a finding whose validator is at hand. -/
def fixWith (v : Validator σ) (f : Finding) (fingerprint : String) (now : Instant) :
    Act (EngineWorld σ) RemediationResult := do
  let applicable := e.strategies.filter fun s => s.appliesTo f
  let (isFixed, attempts) ← e.fixLoop v f fingerprint applicable now maxAttempts []
  if isFixed then
    let r := RemediationResult.fixed fingerprint attempts
    settle fingerprint r
    return r
  else e.escalate f fingerprint attempts (exhaustion attempts) now

/-- Drives a finding to a fix or to an escalation. -/
def fix (f : Finding) (now : Instant) : Act (EngineWorld σ) RemediationResult := do
  let fingerprint := f.fingerprint
  match ← e.settledEscalation fingerprint with
  | some settled =>
    note .debug "Finding already escalated; not retrying" [shown "fingerprint" fingerprint]
    return settled
  | none =>
    if f.isSynthetic then
      e.escalate f fingerprint [] "synthetic finding has no validator to confirm a fix against" now
    else match e.validator? f.validatorId with
      | none =>
        e.escalate f fingerprint []
          s!"no validator '{f.validatorId}' available to confirm a fix" now
      | some v => e.fixWith v f fingerprint now

/-- Fixes or escalates findings one after the other. -/
def fixEach (now : Instant) :
    List Finding → Act (EngineWorld σ) (List (Finding × RemediationResult))
  | [] => return []
  | f :: fs => do
    let r ← e.fix f now
    return (f, r) :: (← fixEach now fs)

/-- Fixes or escalates every finding of a report, remarks apart, in order of priority. -/
def fixAll (report : AuditReport) (now : Instant) :
    Act (EngineWorld σ) (List (Finding × RemediationResult)) := do
  let results ← e.fixEach now
    (report.findings.filter fun f => decide (Severity.info < f.severity))
  let fixedCount := results.countP fun r => r.2.isFixed
  note .info "Remediation pass complete"
    [shown "run_id" report.runId, count "fixed" fixedCount,
     count "escalated" (results.length - fixedCount)]
  return results

end Engine

end AgentGovernance
