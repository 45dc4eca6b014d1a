-- SUMMARY: The scope enforcer: which rule decides about an action, and what an agent is blocked from.
import AgentGovernance.Descriptor.Index
import AgentGovernance.Log.Event
import AgentGovernance.Scope.Decision

/-!
# Scope enforcement

Rules are asked in a fixed order, and the first that applies decides: actions blocked for everyone,
actions that belong to another agent, agents nobody declared, the deny list, and the allow list.
What an agent's own descriptor grants never overrides the first two.
-/

namespace AgentGovernance

/-- Actions that no agent may perform, whatever its descriptor grants. -/
def defaultGlobalBlocks : List String :=
  ["force_push_main", "delete_repository", "disable_security_checks", "commit_secrets",
   "rewrite_published_history"]

/-- Puts a text into a sorted list, unless it is there already. -/
def insertText (s : String) : List String → List String
  | [] => [s]
  | t :: ts => if s < t then s :: t :: ts else if s == t then t :: ts else t :: insertText s ts

/-- The texts of a list in order, without repetitions. -/
def sortedSet (ss : List String) : List String := ss.foldl (fun done s => insertText s done) []

/-- An enforcer with its globally blocked tags, sorted and without repetitions. -/
structure Enforcer where
  globallyBlocked : List Tag
  deriving DecidableEq, Repr

namespace Enforcer

open LogEvent (shown)

/-- An enforcer that blocks the given actions for everyone. -/
def ofBlocks (blocked : List String) : Enforcer :=
  ⟨sortedSet ((blocked.map Tag.ofText).filter fun t => !t.isEmpty)⟩

/-- An enforcer with the usual blocks. -/
def default : Enforcer := ofBlocks defaultGlobalBlocks

/-! ## Decisions -/

/-- The decision of the descriptor of the agent itself. -/
def decideByDescriptor (descriptor : AgentDescriptor) (agentId : String) (tag : Tag) : Decision :=
  if descriptor.denies tag then
    { agentId, action := tag, outcome := .blocked, rule := .denyList
      reason := s!"'{tag}' is in the deny-list of '{agentId}'" }
  else if descriptor.declaresAllowList && !descriptor.allows tag then
    { agentId, action := tag, outcome := .warned, rule := .undeclaredAction
      reason := s!"'{tag}' is not declared in the allow-list of '{agentId}'" }
  else if descriptor.allows tag then
    { agentId, action := tag, outcome := .allowed, rule := .allowList
      reason := s!"'{tag}' is declared for '{agentId}'" }
  else
    { agentId, action := tag, outcome := .allowed, rule := .openScope
      reason := s!"'{agentId}' declares no allow-list" }

/-- The decision about an action that is not blocked for everyone. -/
def decideByIndex (index : DescriptorIndex) (agentId : String) (tag : Tag) : Decision :=
  match (index.exclusiveOwner? tag).filter fun owner => owner != agentId with
  | some owner =>
    { agentId, action := tag, outcome := .blocked, rule := .exclusivity
      reason := s!"'{tag}' is exclusive to '{owner}'", authorized := some owner }
  | none =>
    match index.find? agentId with
    | none =>
      { agentId, action := tag, outcome := .blocked, rule := .unknownAgent
        reason := s!"no descriptor is loaded for agent '{agentId}'" }
    | some descriptor => decideByDescriptor descriptor agentId tag

/-- The decision about a tag. -/
def decide (e : Enforcer) (index : DescriptorIndex) (agentId : String) (tag : Tag) : Decision :=
  if e.globallyBlocked.contains tag then
    { agentId, action := tag, outcome := .blocked, rule := .globalBlock
      reason := s!"'{tag}' is globally blocked for every agent" }
  else decideByIndex index agentId tag

/-- Whether an agent may perform an action. -/
def check (e : Enforcer) (index : DescriptorIndex) (agentId action : String) : Decision :=
  e.decide index (Text.trim agentId) (Tag.ofText action)

/-- The decision if nobody is active. -/
def nobodyActive (action : String) : Decision :=
  { agentId := "", action := Tag.ofText action, outcome := .blocked, rule := .noActiveAgent
    reason := "no agent is active; activate one first" }

/-- All that an agent is blocked from by name, sorted. -/
def blockedActions (e : Enforcer) (index : DescriptorIndex) (agentId : String) : List Tag :=
  let agentId := Text.trim agentId
  let denied := ((index.find? agentId).map (·.cannot)).getD []
  let others := (index.owners.filter fun o => o.2 != agentId).map (·.1)
  sortedSet (e.globallyBlocked ++ denied ++ others)

/-! ## Log -/

/-- The event that a decision leaves. -/
def event (d : Decision) : LogEvent :=
  let agentId := shown "agent_id" d.agentId
  let action := shown "action" d.action
  let reason := shown "reason" d.reason
  let target := "warden::scope::enforcer"
  match d.outcome with
  | .blocked =>
    { level := .warn, target, message := "Scope check blocked"
      fields := [agentId, action, shown "rule" d.rule.label, reason] }
  | .warned =>
    { level := .info, target, message := "Scope check warned", fields := [agentId, action, reason] }
  | .allowed =>
    { level := .debug, target, message := "Scope check allowed", fields := [agentId, action] }

end Enforcer

end AgentGovernance
