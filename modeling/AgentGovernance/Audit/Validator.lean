-- SUMMARY: Validators: plug-ins that look at a workspace and report findings, and external ones.
import AgentGovernance.Audit.Finding
import AgentGovernance.Command
import AgentGovernance.Json.Reader
import AgentGovernance.Session.State

/-!
# Validators

A validator has an id and can be run on a scope. What it does to the world while it runs is its own
affair. An external validator is a program that prints a list of findings; its exit status matters
only if it prints nothing.
-/

namespace AgentGovernance

/-- What an audit looks at. -/
structure AuditScope where
  root : Path
  /-- Targets inside the root; none for all of it. -/
  targets : List Path := []
  deriving DecidableEq, Repr, Inhabited

namespace AuditScope

def toJson (s : AuditScope) : Json :=
  .object (("root", s.root.toJson) ::
    if s.targets.isEmpty then [] else [("targets", .list Path.toJson s.targets)])

def ofJson? (j : Json) : Option AuditScope := do
  let r ← j.asRecord? ["root", "targets"]
  return {
    root := ← r.required "root" Path.ofJson?
    targets := ← r.withDefault "targets" [] (Json.asList? Path.ofJson?) }

end AuditScope

/-- A validator in a world `σ`. -/
structure Validator (σ : Type) where
  id : String
  /-- Runs it on a scope with a limit in milliseconds. -/
  run : AuditScope → (limit : Nat) → Act σ (Timed (List Finding))

/-! ## External validators -/

/-- A validator that is a program. -/
structure CommandValidator where
  id : String
  command : String
  args : List String := []
  deriving DecidableEq, Repr, Inhabited

namespace CommandValidator

open LogEvent (shown)

/-- The call of the program for a scope. -/
def call (c : CommandValidator) (scope : AuditScope) : CommandCall :=
  { program := c.command, args := c.args ++ scope.targets.map (·.text), directory := scope.root
    environment := [("WARDEN_AUDIT_ROOT", scope.root.text)] }

/-- The findings that a program reported by how it ended. -/
def findings (c : CommandValidator) : CommandEnd → Except CommandFault (List Finding)
  | .notStarted cause => .error (.notStarted c.command cause)
  | .finished status stdout stderr =>
    let out := Text.decodeLossy stdout
    if (Text.trim out).isEmpty then
      if status.succeeded then .ok []
      else .error (.exited c.command status (complaint stderr))
    else match (Json.parse? out).bind (Json.asList? Finding.ofJson?) with
      | some fs => .ok fs
      | none => .error (.badFindings c.command)

/-- The program as a validator. -/
def validator {σ : Type} (runner : CommandRunner σ) (c : CommandValidator) : Validator σ where
  id := c.id
  run scope limit := do
    Act.log
      { level := .debug, target := "warden::audit::validator", message := "Running command validator"
        fields := [shown "validator" c.id, shown "command" c.command] }
    match ← runner (c.call scope) limit with
    | .late => return .late
    | .aborted reason => return .aborted reason
    | .inTime ended => match c.findings ended with
      | .ok fs => return .inTime fs
      | .error f => Act.fail (.validator f)

def toJson (c : CommandValidator) : Json :=
  .object [("id", .string c.id), ("command", .string c.command), ("args", .strings c.args)]

end CommandValidator

end AgentGovernance
