-- SUMMARY: Escalations: the record handed to people, and the channels that take it.
import AgentGovernance.Audit.ReportStore
import AgentGovernance.Remediation.Attempt

/-!
# Escalations

A finding that could not be fixed is handed to people through a channel. A channel that keeps its
records can be asked for them later, so that nobody tries again.
-/

namespace AgentGovernance

/-- All that a reader needs: the finding and what was tried. -/
structure EscalationRecord where
  fingerprint : String
  finding : Finding
  attempts : List FixAttempt
  reason : String
  escalatedAt : Instant
  deriving DecidableEq, Repr, Inhabited

namespace EscalationRecord

def toJson (r : EscalationRecord) : Json :=
  .object
    [("fingerprint", .string r.fingerprint), ("finding", r.finding.toJson),
     ("attempts", .list FixAttempt.toJson r.attempts), ("reason", .string r.reason),
     ("escalated_at", r.escalatedAt.toJson)]

def ofJson? (j : Json) : Option EscalationRecord := do
  let r ← j.asRecord? ["fingerprint", "finding", "attempts", "reason", "escalated_at"]
  return {
    fingerprint := ← r.required "fingerprint" Json.asString?
    finding := ← r.required "finding" Finding.ofJson?
    attempts := ← r.required "attempts" (Json.asList? FixAttempt.ofJson?)
    reason := ← r.required "reason" Json.asString?
    escalatedAt := ← r.required "escalated_at" Instant.ofJson? }

end EscalationRecord

/-- A way to hand findings to people, in a world `σ`. -/
structure EscalationChannel (σ : Type) where
  escalate : EscalationRecord → Act σ Unit
  /-- The record that was escalated under a fingerprint, if the channel keeps records. -/
  find : (fingerprint : String) → Act σ (Option EscalationRecord)

namespace EscalationChannel

open LogEvent (shown count)

/-! ## The log -/

/-- An attempt in one line. -/
def attemptLine (a : FixAttempt) : String :=
  match a.error with
  | some e => s!"#{a.iteration} {a.strategy} {a.outcome.text} ({e})"
  | none => s!"#{a.iteration} {a.strategy} {a.outcome.text}"

/-- A channel that writes to the log and keeps nothing. -/
def log {σ : Type} : EscalationChannel σ where
  escalate r := Act.log
    { level := .warn, target := "warden::remediation::escalation"
      message := "Finding escalated for human review"
      fields :=
        [shown "fingerprint" r.fingerprint, shown "validator" r.finding.validatorId,
         shown "severity" r.finding.severity.text, shown "location" r.finding.location.display,
         count "attempts" r.attempts.length,
         shown "history" ("; ".intercalate (r.attempts.map attemptLine)), shown "reason" r.reason] }
  find _ := return none

/-! ## Files -/

/-- The file of a fingerprint. -/
def recordPath (dir : Path) (fingerprint : String) : Path := dir.join (fingerprint ++ ".json")

/-- A channel that keeps one file for each fingerprint. -/
def files (dir : Path) : EscalationChannel Disk where
  escalate r := Snapshot.write (recordPath dir r.fingerprint) r.toJson
  find fingerprint := do
    Act.ofExcept (Snapshot.read EscalationRecord.ofJson? (recordPath dir fingerprint) (← Act.world))

/-- The records in a directory, oldest first. -/
def stored (dir : Path) (disk : Disk) : Except GovernanceError (List EscalationRecord) := do
  let stems ← jsonStems dir disk
  let records ← stems.mapM fun stem =>
    Snapshot.read EscalationRecord.ofJson? (recordPath dir stem) disk
  return (records.filterMap id).mergeSort fun a b => a.escalatedAt.le b.escalatedAt

/-- The same channel in a larger world. -/
def onPart {σ τ : Type} (get : τ → σ) (set : σ → τ → τ) (c : EscalationChannel σ) :
    EscalationChannel τ where
  escalate r := Act.onPart get set (c.escalate r)
  find fingerprint := Act.onPart get set (c.find fingerprint)

end EscalationChannel

end AgentGovernance
