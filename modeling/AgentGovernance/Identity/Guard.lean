-- SUMMARY: The identity guard: one active agent, read anew from the session for every operation.
import AgentGovernance.Descriptor.Store
import AgentGovernance.Identity.Bleed
import AgentGovernance.Scope.Enforcer
import AgentGovernance.Session.Store

/-!
# The identity guard

Every activation passes through a guard. Each operation starts from the persisted session, so an
agent that someone else left active is seen. An agent whose descriptor is gone counts as nobody. The
guard also remembers the identity it saw last, but no operation depends on that.
-/

namespace AgentGovernance

/-- A guard over a session store. -/
structure Guard (σ : Type) where
  store : SessionStore σ
  historyLimit : Nat := defaultHistoryLimit

/-- The session store's world and the identity that the guard saw last. -/
structure GuardWorld (σ : Type) where
  session : σ
  cached : Option AgentDescriptor := none

namespace Guard

variable {σ : Type} (g : Guard σ)

open LogEvent (shown quoted)

/-- The same guard with another limit, which is at least one. -/
def withHistoryLimit (limit : Nat) : Guard σ := { g with historyLimit := max limit 1 }

def logTarget : String := "warden::identity::guard"

def note (level : LogLevel) (message : String) (fields : List (String × FieldValue)) :
    Act (GuardWorld σ) Unit :=
  Act.log { level, target := logTarget, message, fields }

/-! ## Access to the session -/

/-- The persisted session. -/
def session : Act (GuardWorld σ) SessionState := do
  let (state, events) := g.store.read (← Act.world).session
  events.forM Act.log
  return state

/-- An act on the session store. -/
def onSession {α : Type} (act : Act σ α) : Act (GuardWorld σ) α :=
  Act.onPart (·.session) (fun s w => { w with session := s }) act

/-- Persists a session. -/
def save (state : SessionState) : Act (GuardWorld σ) Unit := onSession (g.store.save state)

/-- Remembers an identity. -/
def remember (d : Option AgentDescriptor) : Act (GuardWorld σ) Unit := do
  Act.setWorld { ← Act.world with cached := d }

/-! ## Operations -/

/-- Refreshes the session of the agent that is active already. -/
def refresh (d : AgentDescriptor) (id : String) (state : SessionState) (now : Instant) :
    Act (GuardWorld σ) SessionState := do
  let state := state.touch now
  g.save state
  remember (some d)
  note .debug "Agent already active" [quoted "agent_id" id]
  return state

/-- Starts a session for an agent. -/
def begin (d : AgentDescriptor) (id : String) (state : SessionState) (now : Instant) :
    Act (GuardWorld σ) SessionState := do
  let file := if d.source.isEmpty then none else some d.source
  let state := state.activate id file now g.historyLimit
  g.save state
  remember (some d)
  note .info "Activated agent" [quoted "agent_id" id]
  return state

/-- Makes an agent active. That fails while another declared agent is active. -/
def activate (index : DescriptorIndex) (rawId : String) (now : Instant) :
    Act (GuardWorld σ) SessionState := do
  let id := Text.trim rawId
  match index.find? id with
  | none => Act.fail (.descriptorNotFound id)
  | some d =>
    let state ← g.session
    match state.activeAgent with
    | none => g.begin d id state now
    | some active =>
      if active == id then g.refresh d id state now
      else if index.contains active then
        note .warn "Rejected activation while another agent is active"
          [shown "active" active, shown "requested" id]
        Act.fail (.identityConflict active id)
      else
        note .warn "Dropping session of an agent whose descriptor no longer exists"
          [shown "stale_agent" active]
        g.begin d id state now

/-- Makes nobody active. -/
def deactivate : Act (GuardWorld σ) SessionState := do
  let state ← g.session
  remember none
  match state.activeAgent with
  | none =>
    note .debug "Deactivate with no active agent" []
    return state
  | some previous =>
    let state := state.deactivate
    g.save state
    note .info "Deactivated agent" [shown "agent_id" previous]
    return state

/-- Records activity, and a task if one is given; a blank task clears it. -/
def touch (task : Option String) (now : Instant) : Act (GuardWorld σ) SessionState := do
  let state ← g.session
  if state.isActive then
    let state := state.touch now
    let state := match task with
      | some t => { state with currentTask := Text.trimmed? t }
      | none => state
    g.save state
    return state
  else return state

/-- The active agent. A session of an agent without descriptor is ended. -/
def current (index : DescriptorIndex) : Act (GuardWorld σ) (Option AgentDescriptor) := do
  let state ← g.session
  match state.activeAgent with
  | none =>
    remember none
    return none
  | some active =>
    match index.find? active with
    | some d =>
      remember (some d)
      return some d
    | none =>
      note .warn "Active agent has no descriptor, session becomes inactive"
        [shown "stale_agent" active]
      g.save state.deactivate
      remember none
      return none

/-- Looks for claims in a text to be an agent other than the active one. -/
def checkBleed (index : DescriptorIndex) (text : String) : Act (GuardWorld σ) BleedCheck := do
  let active ← g.current index
  let identities := index.descriptors.map fun d => (d.id, d.name)
  let check := BleedCheck.ofText text identities (active.map (·.id))
  if !check.isClean then
    note .warn "Identity bleed detected"
      [shown "active_agent" (Text.inspectOption check.activeAgent),
       shown "impersonated" (Text.inspectOption check.impersonated)]
  return check

end Guard

namespace Enforcer

variable {σ τ : Type}

/-- A decision together with its event in the log. -/
def checkLogged (e : Enforcer) (index : DescriptorIndex) (agentId action : String) :
    Act τ Decision := do
  let d := e.check index agentId action
  Act.log (event d)
  return d

/-- Whether the agent that is active now may perform an action. That takes a guard. -/
def checkActive (e : Enforcer) (guard : Option (Guard σ)) (index : DescriptorIndex)
    (action : String) : Act (GuardWorld σ) Decision := do
  match guard with
  | none => Act.fail (.configuration .noIdentityGuard)
  | some g =>
    match ← g.current index with
    | some d => e.checkLogged index d.id action
    | none =>
      let d := nobodyActive action
      Act.log (event d)
      return d

end Enforcer

end AgentGovernance
