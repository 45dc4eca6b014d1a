-- SUMMARY: Operations on a world that can fail and leave a journal of log events.
import AgentGovernance.Error
import AgentGovernance.Log.Event

/-!
# Acts

An act changes a world, may fail, and writes events into a journal. A failing act keeps the changes
made before it failed, as a real one does. What the world is, is up to the act: a tree of files, the
memory of a session store, or whatever a plug-in of the library needs.
-/

namespace AgentGovernance

/-- A world together with the events that were logged so far. -/
structure Journal (σ : Type) where
  world : σ
  events : Array LogEvent := #[]

/-- An operation on a world `σ` with a result of type `α`. -/
abbrev Act (σ α : Type) := EStateM GovernanceError (Journal σ) α

namespace Act

variable {σ τ α : Type}

/-- Adds an event to the journal. -/
def log (e : LogEvent) : Act σ Unit :=
  fun j => .ok () { j with events := j.events.push e }

/-- The world as it is. -/
def world : Act σ σ :=
  fun j => .ok j.world j

/-- Puts another world in place of the current one. -/
def setWorld (w : σ) : Act σ Unit :=
  fun j => .ok () { j with world := w }

/-- Fails. -/
def fail (e : GovernanceError) : Act σ α :=
  fun j => .error e j

/-- The value of a result, or its failure. -/
def ofExcept : Except GovernanceError α → Act σ α
  | .ok a => fun j => .ok a j
  | .error e => fail e

/-- The outcome of an act as a value. It never fails. -/
def attempt (act : Act σ α) : Act σ (Except GovernanceError α) := fun j =>
  match act j with
  | .ok a j => .ok (.ok a) j
  | .error e j => .ok (.error e) j

/-- Runs an act on a part of the world. -/
def onPart (get : σ → τ) (set : τ → σ → σ) (act : Act τ α) : Act σ α := fun j =>
  match act { world := get j.world, events := j.events } with
  | .ok a k => .ok a { world := set k.world j.world, events := k.events }
  | .error e k => .error e { world := set k.world j.world, events := k.events }

/-- What an act on a world yields: the new world, the outcome and the events. -/
structure Run (σ α : Type) where
  world : σ
  outcome : Except GovernanceError α
  events : Array LogEvent

/-- Performs an act on a world. -/
def run (act : Act σ α) (w : σ) : Run σ α :=
  match act { world := w } with
  | .ok a j => { world := j.world, outcome := .ok a, events := j.events }
  | .error e j => { world := j.world, outcome := .error e, events := j.events }

end Act

end AgentGovernance
