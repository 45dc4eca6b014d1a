-- SUMMARY: Counts of findings by severity, and the verdict that follows from them.
import AgentGovernance.Audit.Finding

/-!
# Verdicts

An audit fails on a critical finding or on too many high ones, raises concerns on fewer high ones,
and passes otherwise. If no validator answered there is nothing to judge, and the audit is blocked.
-/

namespace AgentGovernance

/-- How many findings there are of each severity. -/
structure SeverityCounts where
  critical : Nat := 0
  high : Nat := 0
  medium : Nat := 0
  low : Nat := 0
  info : Nat := 0
  deriving DecidableEq, Repr, Inhabited

namespace SeverityCounts

/-- How many findings have a severity. -/
def countOf (s : Severity) (fs : List Finding) : Nat := fs.countP fun f => f.severity == s

def ofFindings (fs : List Finding) : SeverityCounts :=
  { critical := countOf .critical fs, high := countOf .high fs, medium := countOf .medium fs
    low := countOf .low fs, info := countOf .info fs }

def total (c : SeverityCounts) : Nat := c.critical + c.high + c.medium + c.low + c.info

def toJson (c : SeverityCounts) : Json :=
  .object
    [("critical", .nat c.critical), ("high", .nat c.high), ("medium", .nat c.medium),
     ("low", .nat c.low), ("info", .nat c.info)]

def ofJson? (j : Json) : Option SeverityCounts := do
  let r ← j.asRecord? ["critical", "high", "medium", "low", "info"]
  return {
    critical := ← r.required "critical" Json.asNat?
    high := ← r.required "high" Json.asNat?
    medium := ← r.required "medium" Json.asNat?
    low := ← r.required "low" Json.asNat?
    info := ← r.required "info" Json.asNat? }

end SeverityCounts

/-- The result of an audit. -/
inductive Verdict where
  | pass
  | concerns
  | fail
  | blocked
  deriving DecidableEq, Repr, Inhabited

namespace Verdict

def text : Verdict → String
  | .pass => "PASS"
  | .concerns => "CONCERNS"
  | .fail => "FAIL"
  | .blocked => "BLOCKED"

/-- The exit code of a command that ends with this verdict. -/
def exitCode : Verdict → Nat
  | .pass => 0
  | .concerns => 0
  | .fail => 1
  | .blocked => 1

/-- Verdicts by name. -/
def words : List (String × Verdict) :=
  [.pass, .concerns, .fail, .blocked].map fun v => (v.text, v)

/-- The verdict on findings with the given counts, and the reason for it. Of the registered
validators `reachable` many answered. -/
def derive (counts : SeverityCounts) (registered reachable highThreshold : Nat) :
    Verdict × String :=
  if registered == 0 then (.blocked, "no validators are registered")
  else if reachable == 0 then
    (.blocked, s!"none of the {registered} validators could be reached")
  else if 0 < counts.critical then (.fail, s!"{counts.critical} critical finding(s)")
  else if highThreshold < counts.high then
    (.fail, s!"{counts.high} high finding(s) exceed the threshold of {highThreshold}")
  else if 0 < counts.high then
    (.concerns, s!"{counts.high} high finding(s) within the threshold of {highThreshold}")
  else (.pass, "no high or critical findings")

end Verdict

end AgentGovernance
