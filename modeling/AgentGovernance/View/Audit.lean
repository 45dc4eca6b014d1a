-- SUMMARY: Audit reports, remediation results and escalations as text.
import AgentGovernance.Audit.Report
import AgentGovernance.Remediation.Escalation
import AgentGovernance.View.Style
import AgentGovernance.View.Table

/-!
# Views of audits
-/

namespace AgentGovernance.View

/-- A verdict in its colour. -/
def verdict : Verdict → String
  | .pass => bold (green Verdict.pass.text)
  | .concerns => bold (yellow Verdict.concerns.text)
  | v => bold (red v.text)

/-- A severity in its colour. -/
def severity : Severity → String
  | .critical => bold (red Severity.critical.text)
  | .high => red Severity.high.text
  | .medium => yellow Severity.medium.text
  | s => s.text

/-- The findings of a report in a table. -/
def findingTable (fs : List Finding) : String :=
  let table : Table :=
    { header := ["Severity", "Validator", "Location", "Description"]
      rows := fs.map fun f =>
        [severity f.severity, f.validatorId, f.location.display, f.description] }
  if fs.isEmpty then "" else table.render ++ "\n\n"

/-- A report. -/
def report (r : AuditReport) : String :=
  let c := r.counts
  headed s!"Audit {r.runId}" ++ row "Scope" r.scope.root.text ++
    (match r.requestedBy with
      | some agent => row "Requested by" agent
      | none => "") ++
    row "Validators" (listOrDash r.validators) ++
    String.join (r.failedValidators.map fun f =>
      s!"  Validator {f.validatorId} failed: {f.reason}\n") ++
    String.join (r.firedRules.map fun f =>
      s!"  Compound rule {f.ruleId} fired ({f.severity.text}): {f.rationale}\n") ++
    "\n" ++ findingTable r.findings ++
    s!"  Critical {c.critical} / High {c.high} / Medium {c.medium} / Low {c.low} / Info {c.info}\n" ++
    row "Verdict" s!"{verdict r.verdict} ({r.verdictReason})"

/-- A finding in one line. -/
def findingLine (f : Finding) : String :=
  s!"[{f.validatorId}] {f.description} @ {f.location.display}"

/-- The row of one result. -/
def remediationRow (f : Finding) (r : RemediationResult) : List String :=
  let attempts := " ".intercalate (r.attempts.map fun a => s!"{a.strategy}:{a.outcome.text}")
  [if r.state == .fixed then green r.state.text else red r.state.text, findingLine f,
   if attempts.isEmpty then "-" else attempts, r.reason.getD ""]

/-- The results of a remediation pass. -/
def remediation (results : List (Finding × RemediationResult)) : String :=
  let table : Table :=
    { header := ["State", "Finding", "Attempts", "Reason"]
      rows := results.map fun (f, r) => remediationRow f r }
  headed "Remediation" ++
    if results.isEmpty then "Nothing to remediate.\n" else table.render ++ "\n"

/-- One attempt. -/
def attemptLine (a : FixAttempt) : String :=
  let cause := match a.error with
    | some e => ": " ++ e
    | none => ""
  s!"  #{a.iteration} {a.strategy} {a.outcome.text}{cause}\n"

/-- One escalation. -/
def escalation (r : EscalationRecord) : String :=
  s!"{r.escalatedAt.display} {severity r.finding.severity} {findingLine r.finding}\n  {r.reason}\n" ++
    String.join (r.attempts.map attemptLine)

/-- All escalations. -/
def escalations (rs : List EscalationRecord) : String :=
  headed "Escalations" ++
    if rs.isEmpty then "No escalated findings.\n" else String.join (rs.map escalation)

end AgentGovernance.View
