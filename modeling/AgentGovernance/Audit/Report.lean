-- SUMMARY: Audit reports: what one run looked at, found and concluded, and its run id.
import AgentGovernance.Audit.CompoundRule
import AgentGovernance.Audit.Validator
import AgentGovernance.Audit.Verdict

/-!
# Audit reports

A report holds everything about one run: the findings as each validator gave them, all findings in
order of priority, the rules that fired, and the verdict. Its run id starts with the time of the run
and therefore sorts as the runs do.
-/

namespace AgentGovernance

/-- Stages of a run, in order. -/
inductive AuditPhase where
  | dispatched
  | collected
  | crossValidated
  | prioritized
  | reported
  | verdictIssued
  deriving DecidableEq, Repr, Inhabited

namespace AuditPhase

def text : AuditPhase → String
  | .dispatched => "DISPATCHED"
  | .collected => "COLLECTED"
  | .crossValidated => "CROSS_VALIDATED"
  | .prioritized => "PRIORITIZED"
  | .reported => "REPORTED"
  | .verdictIssued => "VERDICT_ISSUED"

/-- All phases in order. -/
def all : List AuditPhase :=
  [.dispatched, .collected, .crossValidated, .prioritized, .reported, .verdictIssued]

/-- Phases by name. -/
def words : List (String × AuditPhase) := all.map fun p => (p.text, p)

end AuditPhase

/-- A validator that gave no result. -/
structure ValidatorFailure where
  validatorId : String
  reason : String
  deriving DecidableEq, Repr, Inhabited

/-- The report of a run. -/
structure AuditReport where
  runId : String
  startedAt : Instant
  finishedAt : Instant
  scope : AuditScope
  /-- The agent that the run was authorized for. -/
  requestedBy : Option String := none
  /-- Ids of the validators in the order of registration. -/
  validators : List String := []
  /-- What each validator gave, sorted by id. -/
  raw : List (String × List Finding) := []
  failedValidators : List ValidatorFailure := []
  firedRules : List FiredRule := []
  /-- All findings in order of priority. -/
  findings : List Finding := []
  counts : SeverityCounts := {}
  verdict : Verdict
  verdictReason : String
  phases : List AuditPhase := []
  deriving DecidableEq, Repr, Inhabited

/-! ## Run ids -/

/-- What keeps runs of the same millisecond apart: the process and a count of its runs. -/
structure RunStamp where
  process : Nat
  sequence : Nat
  deriving DecidableEq, Repr, Inhabited

/-- The id of a run that starts at the given time. -/
def runId (stamp : RunStamp) (t : Instant) : String :=
  let seed := Blake3.bytes32 stamp.process ++ Blake3.bytes64 stamp.sequence ++ Blake3.bytes32 t.nanos
  t.sortable ++ "-" ++ Blake3.hexDigits ((Blake3.hash seed).take 3)

/-- Whether a run id names a file directly below the store's directory: letters, digits, dots and
dashes, and no dot in front. -/
def isValidRunId (id : String) : Bool :=
  !id.isEmpty && id.toList.head? != some '.' &&
    id.toList.all fun c => c.isAlphanum || c == '.' || c == '-'

namespace AuditReport

/-- The report of a run that was refused before it started. -/
def refused (scope : AuditScope) (requestedBy : Option String) (reason : String) (stamp : RunStamp)
    (now : Instant) : AuditReport :=
  { runId := AgentGovernance.runId stamp now, startedAt := now, finishedAt := now, scope, requestedBy
    verdict := .blocked, verdictReason := reason, phases := [.verdictIssued] }

/-- Findings that are worth fixing: those that a validator reported, remarks apart. -/
def actionable (r : AuditReport) : List Finding :=
  r.findings.filter fun f => !f.isSynthetic && decide (Severity.info < f.severity)

end AuditReport

/-! ## Documents -/

namespace ValidatorFailure

def toJson (f : ValidatorFailure) : Json :=
  .object [("validator_id", .string f.validatorId), ("reason", .string f.reason)]

def ofJson? (j : Json) : Option ValidatorFailure := do
  let r ← j.asRecord? ["validator_id", "reason"]
  return {
    validatorId := ← r.required "validator_id" Json.asString?
    reason := ← r.required "reason" Json.asString? }

end ValidatorFailure

namespace AuditReport

def toJson (r : AuditReport) : Json :=
  .object <|
    [("run_id", .string r.runId), ("started_at", r.startedAt.toJson),
     ("finished_at", r.finishedAt.toJson), ("scope", r.scope.toJson)] ++
    Json.fieldIfSome "requested_by" .string r.requestedBy ++
    [("validators", .strings r.validators),
     ("raw", .object (r.raw.map fun (id, fs) => (id, .list Finding.toJson fs))),
     ("failed_validators", .list ValidatorFailure.toJson r.failedValidators),
     ("fired_rules", .list FiredRule.toJson r.firedRules),
     ("findings", .list Finding.toJson r.findings), ("counts", r.counts.toJson),
     ("verdict", .string r.verdict.text), ("verdict_reason", .string r.verdictReason),
     ("phases", .list (fun p => .string p.text) r.phases)]

/-- Names of the fields in order. -/
def fieldNames : List String :=
  ["run_id", "started_at", "finished_at", "scope", "requested_by", "validators", "raw",
   "failed_validators", "fired_rules", "findings", "counts", "verdict", "verdict_reason", "phases"]

def ofJson? (j : Json) : Option AuditReport := do
  let r ← j.asRecord? fieldNames
  return {
    runId := ← r.required "run_id" Json.asString?
    startedAt := ← r.required "started_at" Instant.ofJson?
    finishedAt := ← r.required "finished_at" Instant.ofJson?
    scope := ← r.required "scope" AuditScope.ofJson?
    requestedBy := ← r.optional "requested_by" Json.asString?
    validators := ← r.required "validators" (Json.asList? Json.asString?)
    raw := ← r.required "raw" (Json.asSortedFields? (Json.asList? Finding.ofJson?))
    failedValidators := ← r.required "failed_validators" (Json.asList? ValidatorFailure.ofJson?)
    firedRules := ← r.required "fired_rules" (Json.asList? FiredRule.ofJson?)
    findings := ← r.required "findings" (Json.asList? Finding.ofJson?)
    counts := ← r.required "counts" SeverityCounts.ofJson?
    verdict := ← r.required "verdict" (Json.asWord? Verdict.words)
    verdictReason := ← r.required "verdict_reason" Json.asString?
    phases := ← r.required "phases" (Json.asList? (Json.asWord? AuditPhase.words)) }

end AuditReport

end AgentGovernance
