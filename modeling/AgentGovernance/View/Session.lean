-- SUMMARY: Sessions and decisions as text.
import AgentGovernance.Scope.Decision
import AgentGovernance.Session.State
import AgentGovernance.View.Style
import AgentGovernance.View.Table

/-!
# Views of sessions and decisions
-/

namespace AgentGovernance.View

/-- A labelled line if there is a value. -/
def optionalRow {α : Type} (label : String) (show' : α → String) : Option α → String
  | some a => row label (show' a)
  | none => ""

/-- The history of a session, last entry first. -/
def history (entries : List HistoryEntry) : String :=
  let table : Table :=
    { header := ["Agent", "Activated"]
      rows := entries.reverse.map fun e => [e.agent, e.time.display] }
  if entries.isEmpty then "" else "\n  History\n\n" ++ table.render ++ "\n"

/-- A session. -/
def session (s : SessionState) : String :=
  headed "Session" ++
    row "Active agent" (match s.activeAgent with
      | some agent => bold agent
      | none => "none") ++
    optionalRow "Descriptor" Path.text s.agentFile ++
    optionalRow "Activated" Instant.display s.activatedAt ++
    optionalRow "Last activity" Instant.display s.lastActivity ++
    optionalRow "Task" id s.currentTask ++ history s.history

/-- The outcome of a decision in its colour. -/
def outcome : Outcome → String
  | .allowed => green Outcome.allowed.text
  | .warned => yellow Outcome.warned.text
  | .blocked => bold (red Outcome.blocked.text)

/-- A decision. -/
def decision (d : Decision) : String :=
  let agent := if d.agentId.isEmpty then "(none)" else d.agentId
  s!"{outcome d.outcome} {d.action} for {agent}: {d.reason}\n" ++
    optionalRow "Authorized agent" id d.authorized

end AgentGovernance.View
