-- SUMMARY: Fix attempts, and how the remediation of a finding ends.
import AgentGovernance.Json.Decode
import AgentGovernance.Session.State

/-!
# Attempts

One attempt applies one strategy and asks the validator again. A finding ends as fixed or as
escalated, after at most three attempts.
-/

namespace AgentGovernance

/-- How many attempts a finding gets. -/
def maxAttempts : Nat := 3

/-- What came of an attempt. -/
inductive FixOutcome where
  /-- The finding is gone. -/
  | fixed
  /-- The strategy ran, but the finding is still reported. -/
  | partially
  /-- The strategy or the validator failed. -/
  | failed
  deriving DecidableEq, Repr, Inhabited

def FixOutcome.text : FixOutcome → String
  | .fixed => "FIXED"
  | .partially => "PARTIAL"
  | .failed => "FAILED"

/-- One round of the fix loop. -/
structure FixAttempt where
  /-- Counted from one. -/
  iteration : Nat
  strategy : String
  outcome : FixOutcome
  error : Option String := none
  time : Instant
  deriving DecidableEq, Repr, Inhabited

/-- Where a finding stands. -/
inductive RemediationState where
  | pending
  | fixed
  /-- Handed to people, and not tried again. -/
  | escalated
  deriving DecidableEq, Repr, Inhabited

def RemediationState.text : RemediationState → String
  | .pending => "PENDING"
  | .fixed => "FIXED"
  | .escalated => "ESCALATED"

/-- How the remediation of a finding ended. -/
structure RemediationResult where
  fingerprint : String
  state : RemediationState
  attempts : List FixAttempt
  /-- Why the finding was escalated. -/
  reason : Option String := none
  deriving DecidableEq, Repr, Inhabited

namespace RemediationResult

/-- The result for a finding that is gone. -/
def fixed (fingerprint : String) (attempts : List FixAttempt) : RemediationResult :=
  { fingerprint, state := .fixed, attempts }

/-- The result for a finding that people have to look at. -/
def escalated (fingerprint : String) (attempts : List FixAttempt) (reason : String) :
    RemediationResult :=
  { fingerprint, state := .escalated, attempts, reason := some reason }

def isFixed (r : RemediationResult) : Bool := r.state == .fixed

def isEscalated (r : RemediationResult) : Bool := r.state == .escalated

end RemediationResult

/-! ## Documents -/

namespace FixAttempt

/-- Outcomes by name. -/
def outcomeWords : List (String × FixOutcome) :=
  [.fixed, .partially, .failed].map fun o => (o.text, o)

def toJson (a : FixAttempt) : Json :=
  .object <|
    [("iteration", .nat a.iteration), ("strategy", .string a.strategy),
     ("outcome", .string a.outcome.text)] ++ Json.fieldIfSome "error" .string a.error ++
    [("at", a.time.toJson)]

def ofJson? (j : Json) : Option FixAttempt := do
  let r ← j.asRecord? ["iteration", "strategy", "outcome", "error", "at"]
  return {
    iteration := ← r.required "iteration" Json.asNat?
    strategy := ← r.required "strategy" Json.asString?
    outcome := ← r.required "outcome" (Json.asWord? outcomeWords)
    error := ← r.optional "error" Json.asString?
    time := ← r.required "at" Instant.ofJson? }

end FixAttempt

namespace RemediationResult

/-- States by name. -/
def stateWords : List (String × RemediationState) :=
  [.pending, .fixed, .escalated].map fun s => (s.text, s)

def toJson (r : RemediationResult) : Json :=
  .object <|
    [("fingerprint", .string r.fingerprint), ("state", .string r.state.text),
     ("attempts", .list FixAttempt.toJson r.attempts)] ++
    Json.fieldIfSome "reason" .string r.reason

def ofJson? (j : Json) : Option RemediationResult := do
  let r ← j.asRecord? ["fingerprint", "state", "attempts", "reason"]
  return {
    fingerprint := ← r.required "fingerprint" Json.asString?
    state := ← r.required "state" (Json.asWord? stateWords)
    attempts := ← r.required "attempts" (Json.asList? FixAttempt.ofJson?)
    reason := ← r.optional "reason" Json.asString? }

end RemediationResult

end AgentGovernance
