-- SUMMARY: Agents, their descriptors and validations as text.
import AgentGovernance.Descriptor.Store
import AgentGovernance.View.Style
import AgentGovernance.View.Table

/-!
# Views of agents
-/

namespace AgentGovernance.View

/-- All agents in a table, the active one marked. -/
def agentList (agents : List AgentDescriptor) (active : Option String) : String :=
  let table : Table :=
    { header := ["", "Agent", "Name", "Can", "Cannot", "Exclusive"]
      rows := agents.map fun d =>
        [if active == some d.id then "*" else "", d.id, d.name, toString d.can.length,
         toString d.cannot.length, listOrDash d.exclusive] }
  headed "Agents" ++
    if agents.isEmpty then "No agent descriptors loaded.\n" else table.render ++ "\n"

/-- One descriptor. -/
def descriptor (d : AgentDescriptor) : String :=
  headed s!"Agent {d.id}" ++ row "Name" d.name ++
    (if d.source.isEmpty then "" else row "Source" d.source.text) ++
    row "Can" (listOrDash d.can) ++ row "Cannot" (listOrDash d.cannot) ++
    row "Exclusive" (listOrDash d.exclusive) ++ row "Reports to" (d.reportsTo.getD "-") ++
    row "Collaborates with" (listOrDash d.collaborators)

/-- One validation. -/
def validationEntry (v : Validation) : String :=
  let status := if v.isValid then green "valid" else red "invalid"
  s!"{v.agentId} ({v.passed}/{v.total} checks): {status}\n" ++
    String.join (v.checks.map fun (check, passed) =>
      let outcome := if passed then "ok" else "FAILED"
      s!"  [{outcome}] {check}\n") ++
    String.join (v.errors.map fun e => s!"  error: {e}\n")

/-- Validations, and the files that were skipped when descriptors were loaded. -/
def validations (vs : List Validation) (skipped : List (Path × String)) : String :=
  headed "Descriptor validation" ++ String.join (vs.map validationEntry) ++
    String.join (skipped.map fun (path, reason) => s!"skipped {path.text}: {reason}\n")

end AgentGovernance.View
