-- SUMMARY: Session stores: reading that never fails, saving that may, in memory and in a file.
import AgentGovernance.Session.State
import AgentGovernance.Snapshot
import AgentGovernance.Text.Escape

/-!
# Session stores

A store keeps one session in a world of its own. Reading never fails: a session that is missing or
cannot be read is the empty one. Saving and clearing may fail.
-/

namespace AgentGovernance

/-- A place that keeps a session. -/
structure SessionStore (σ : Type) where
  /-- The session, and what there is to log about reading it. -/
  read : σ → SessionState × List LogEvent
  save : SessionState → Act σ Unit
  clear : Act σ Unit
  /-- The file behind the store, if there is one. -/
  path : Option Path := none

namespace SessionStore

/-- A store in memory. -/
def memory : SessionStore (Option SessionState) where
  read s := (s.getD {}, [])
  save s := Act.setWorld (some s)
  clear := Act.setWorld none

/-! ## Files -/

/-- The name of the session file in a state directory. -/
def fileName : String := "session-state.json"

open LogEvent (shown)

def logTarget : String := "warden::session::file"

/-- Reads the session of a file. -/
def readFile (path : Path) (disk : Disk) : SessionState × List LogEvent :=
  match Snapshot.read SessionState.ofJson? path disk with
  | .ok (some s) => (s, [])
  | .ok none =>
    ({}, [{ level := .debug, target := logTarget, message := "No session file, starting empty"
            fields := [shown "path" path.text] }])
  | .error e =>
    ({}, [{ level := .warn, target := logTarget, message := "Unreadable session file, starting empty"
            fields := [shown "path" path.text, shown "error" e.message] }])

/-- Writes the session of a file. -/
def saveFile (path : Path) (s : SessionState) : Act Disk Unit := do
  Snapshot.write path s.toJson
  Act.log
    { level := .debug, target := logTarget, message := "Saved session state"
      fields := [shown "path" path.text, shown "active_agent" (Text.inspectOption s.activeAgent)] }

/-- Removes the session file; that there is none is no failure. -/
def clearFile (path : Path) : Act Disk Unit := do
  match (← Act.world).removeFile path with
  | .ok disk => Act.setWorld disk
  | .error .notFound => pure ()
  | .error e => Act.fail (.sessionPersistence (.remove path e))

/-- A store in a file. -/
def file (path : Path) : SessionStore Disk where
  read := readFile path
  save := saveFile path
  clear := clearFile path
  path := some path

/-! ## Larger worlds -/

/-- The same store as a part of a larger world. -/
def onPart {σ τ : Type} (get : τ → σ) (set : σ → τ → τ) (s : SessionStore σ) : SessionStore τ where
  read w := s.read (get w)
  save state := Act.onPart get set (s.save state)
  clear := Act.onPart get set s.clear
  path := s.path

end SessionStore

end AgentGovernance
