-- SUMMARY: Fix strategies, external ones among them, and the choice of the next one.
import AgentGovernance.Audit.Validator
import AgentGovernance.Remediation.Attempt

/-!
# Strategies

A strategy says which findings it is for and can be applied to one. A selector picks the next
strategy for a finding from what was tried before; it may keep a state of its own in the world. The
usual selector takes the first applicable strategy that was not tried.
-/

namespace AgentGovernance

/-- A way to fix findings, in a world `σ`. -/
structure FixStrategy (σ : Type) where
  name : String
  appliesTo : Finding → Bool
  /-- Applies it with a limit in milliseconds. That it succeeds means only that it ran. -/
  apply : Finding → AuditScope → (limit : Nat) → Act σ (Timed Unit)

/-- A way to choose the next strategy. -/
structure StrategySelector (σ : Type) where
  select : Finding → List (FixStrategy σ) → (prior : List FixAttempt) →
    σ → Option (FixStrategy σ) × σ

namespace StrategySelector

variable {σ : Type}

/-- Whether a strategy of this name was tried. -/
def wasTried (prior : List FixAttempt) (name : String) : Bool :=
  prior.any fun a => a.strategy == name

/-- Takes the first applicable strategy that was not tried. -/
def firstUntried : StrategySelector σ where
  select finding strategies prior w :=
    ((strategies.filter fun s => s.appliesTo finding).find? fun s => !wasTried prior s.name, w)

end StrategySelector

/-! ## External strategies -/

/-- A strategy that is a program. -/
structure CommandStrategy where
  name : String
  command : String
  args : List String := []
  /-- Validators whose findings it is for; none for all. -/
  validators : List String := []
  minSeverity : Severity := .low
  deriving DecidableEq, Repr, Inhabited

namespace CommandStrategy

open LogEvent (shown)

/-- Whether the strategy is for a finding. -/
def appliesTo (c : CommandStrategy) (f : Finding) : Bool :=
  decide (c.minSeverity ≤ f.severity) && (c.validators.isEmpty || c.validators.contains f.validatorId)

/-- The call of the program for a finding. -/
def call (c : CommandStrategy) (f : Finding) (scope : AuditScope) : CommandCall :=
  { program := c.command, args := c.args, directory := scope.root
    environment :=
      [("WARDEN_AUDIT_ROOT", scope.root.text), ("WARDEN_FINDING", f.toJson.compact),
       ("WARDEN_FINDING_RESOURCE", f.location.resource)] ++
      (f.location.line.map fun n => ("WARDEN_FINDING_LINE", toString n)).toList }

/-- What is wrong with how the program ended. -/
def fault? (c : CommandStrategy) : CommandEnd → Option CommandFault
  | .notStarted cause => some (.notStarted c.command cause)
  | .finished status _ stderr =>
    if status.succeeded then none else some (.exited c.command status (complaint stderr))

/-- Runs the program for a finding. -/
def apply {σ : Type} (runner : CommandRunner σ) (c : CommandStrategy) (f : Finding)
    (scope : AuditScope) (limit : Nat) : Act σ (Timed Unit) := do
  Act.log
    { level := .debug, target := "warden::remediation::strategy", message := "Running fix command"
      fields := [shown "strategy" c.name, shown "command" c.command] }
  match ← runner (c.call f scope) limit with
  | .late => return .late
  | .aborted reason => return .aborted reason
  | .inTime ended => match c.fault? ended with
    | some fault => Act.fail (.remediation fault)
    | none => return .inTime ()

/-- The program as a strategy. -/
def strategy {σ : Type} (runner : CommandRunner σ) (c : CommandStrategy) : FixStrategy σ where
  name := c.name
  appliesTo := c.appliesTo
  apply := c.apply runner

def toJson (c : CommandStrategy) : Json :=
  .object
    [("name", .string c.name), ("command", .string c.command), ("args", .strings c.args),
     ("validators", .strings c.validators), ("min_severity", c.minSeverity.toJson)]

def ofJson? (j : Json) : Option CommandStrategy := do
  let r ← j.asRecord? ["name", "command", "args", "validators", "min_severity"]
  return {
    name := ← r.required "name" Json.asString?
    command := ← r.required "command" Json.asString?
    args := ← r.withDefault "args" [] (Json.asList? Json.asString?)
    validators := ← r.withDefault "validators" [] (Json.asList? Json.asString?)
    minSeverity := ← r.withDefault "min_severity" .low Severity.ofJson? }

end CommandStrategy

end AgentGovernance
