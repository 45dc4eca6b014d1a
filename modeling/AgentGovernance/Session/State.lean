-- SUMMARY: The session record: who is active since when, and who was active before.
import AgentGovernance.Json.Decode
import AgentGovernance.Path
import AgentGovernance.Time.Rfc3339

/-!
# Session state

The record of which agent is active. The names of its fields in documents are read by other tools.
-/

namespace AgentGovernance

/-- How many activations are remembered unless someone says otherwise. -/
def defaultHistoryLimit : Nat := 5

/-- A past activation. -/
structure HistoryEntry where
  agent : String
  time : Instant
  deriving DecidableEq, Repr, Inhabited

/-- Which agent is active and since when. -/
structure SessionState where
  activeAgent : Option String := none
  /-- The descriptor file of the activation. -/
  agentFile : Option Path := none
  activatedAt : Option Instant := none
  lastActivity : Option Instant := none
  currentTask : Option String := none
  /-- Oldest first. -/
  history : List HistoryEntry := []
  deriving DecidableEq, Repr, Inhabited

namespace SessionState

def isActive (s : SessionState) : Bool := s.activeAgent.isSome

def isActiveAs (s : SessionState) (id : String) : Bool := s.activeAgent == some id

/-- Keeps the last `limit` entries of the history. -/
def trimHistory (s : SessionState) (limit : Nat) : SessionState :=
  { s with history := s.history.drop (s.history.length - limit) }

/-- Makes an agent the active one and records that in the history. -/
def activate (s : SessionState) (id : String) (file : Option Path) (now : Instant) (limit : Nat) :
    SessionState :=
  trimHistory
    { activeAgent := some id, agentFile := file, activatedAt := some now, lastActivity := some now
      currentTask := none, history := s.history ++ [{ agent := id, time := now }] }
    limit

/-- Makes nobody the active agent. The history is kept. -/
def deactivate (s : SessionState) : SessionState := { history := s.history }

/-- Records that something happened. -/
def touch (s : SessionState) (now : Instant) : SessionState := { s with lastActivity := some now }

/-! ## Documents -/

end SessionState

/-- An instant as a document. -/
def Instant.toJson (t : Instant) : Json := .string t.rfc3339

def Instant.ofJson? (j : Json) : Option Instant := j.asString?.bind Rfc3339.parse?

/-- A path as a document. -/
def Path.toJson (p : Path) : Json := .string p.text

def Path.ofJson? (j : Json) : Option Path := j.asString?.map Path.mk

namespace HistoryEntry

def toJson (e : HistoryEntry) : Json :=
  .object [("agent", .string e.agent), ("at", e.time.toJson)]

def ofJson? (j : Json) : Option HistoryEntry := do
  let r ← j.asRecord? ["agent", "at"]
  return { agent := ← r.required "agent" Json.asString?, time := ← r.required "at" Instant.ofJson? }

end HistoryEntry

namespace SessionState

def toJson (s : SessionState) : Json :=
  .object
    [("activeAgent", .optional .string s.activeAgent), ("agentFile", .optional Path.toJson s.agentFile),
     ("activatedAt", .optional Instant.toJson s.activatedAt),
     ("lastActivity", .optional Instant.toJson s.lastActivity),
     ("currentTask", .optional .string s.currentTask),
     ("agentHistory", .list HistoryEntry.toJson s.history)]

def ofJson? (j : Json) : Option SessionState := do
  let r ← j.asRecord?
    ["activeAgent", "agentFile", "activatedAt", "lastActivity", "currentTask", "agentHistory"]
  return {
    activeAgent := ← r.optional "activeAgent" Json.asString?
    agentFile := ← r.optional "agentFile" Path.ofJson?
    activatedAt := ← r.optional "activatedAt" Instant.ofJson?
    lastActivity := ← r.optional "lastActivity" Instant.ofJson?
    currentTask := ← r.optional "currentTask" Json.asString?
    history := ← r.withDefault "agentHistory" [] (Json.asList? HistoryEntry.ofJson?) }

end SessionState

end AgentGovernance
