-- SUMMARY: Permission decisions: outcome, the rule behind it, and its wording.
import AgentGovernance.Json.Decode
import AgentGovernance.Tag

/-!
# Permission decisions

The answer to the question whether an agent may perform an action: allowed, blocked, or allowed with
a warning, together with the one rule that decided and a reason for people to read.
-/

namespace AgentGovernance

/-- The answer itself. -/
inductive Outcome where
  | allowed
  | blocked
  /-- Permitted although the agent does not declare it. -/
  | warned
  deriving DecidableEq, Repr, Inhabited

def Outcome.text : Outcome → String
  | .allowed => "ALLOWED"
  | .blocked => "BLOCKED"
  | .warned => "WARNED"

/-- The rule that decided. -/
inductive DecisionRule where
  | globalBlock
  | exclusivity
  | denyList
  | undeclaredAction
  | allowList
  | openScope
  | unknownAgent
  | noActiveAgent
  deriving DecidableEq, Repr, Inhabited

/-- The name of a rule in documents. -/
def DecisionRule.text : DecisionRule → String
  | .globalBlock => "global_block"
  | .exclusivity => "exclusivity"
  | .denyList => "deny_list"
  | .undeclaredAction => "undeclared_action"
  | .allowList => "allow_list"
  | .openScope => "open_scope"
  | .unknownAgent => "unknown_agent"
  | .noActiveAgent => "no_active_agent"

/-- The name of a rule in logs. -/
def DecisionRule.label : DecisionRule → String
  | .globalBlock => "GlobalBlock"
  | .exclusivity => "Exclusivity"
  | .denyList => "DenyList"
  | .undeclaredAction => "UndeclaredAction"
  | .allowList => "AllowList"
  | .openScope => "OpenScope"
  | .unknownAgent => "UnknownAgent"
  | .noActiveAgent => "NoActiveAgent"

/-- A decision about one agent and one action. -/
structure Decision where
  agentId : String
  action : Tag
  outcome : Outcome
  rule : DecisionRule
  reason : String
  /-- Who may perform the action instead. -/
  authorized : Option String := none
  deriving DecidableEq, Repr, Inhabited

namespace Decision

def isAllowed (d : Decision) : Bool := d.outcome == .allowed

def isBlocked (d : Decision) : Bool := d.outcome == .blocked

def isWarned (d : Decision) : Bool := d.outcome == .warned

/-- The exit code for a hook that asks: 2 stops the action, 0 lets it pass. -/
def exitCode (d : Decision) : Nat := if d.isBlocked then 2 else 0

/-- The decision in one line. -/
def display (d : Decision) : String :=
  s!"{d.outcome.text} {d.action} for '{d.agentId}': {d.reason}"

/-! ## Documents -/

def toJson (d : Decision) : Json :=
  .object <|
    [("agent_id", .string d.agentId), ("action", .string d.action),
     ("outcome", .string d.outcome.text), ("rule", .string d.rule.text),
     ("reason", .string d.reason)] ++ Json.fieldIfSome "authorized" .string d.authorized

/-- Outcomes by name. -/
def outcomeWords : List (String × Outcome) :=
  [.allowed, .blocked, .warned].map fun o => (o.text, o)

/-- Rules by name. -/
def ruleWords : List (String × DecisionRule) :=
  [.globalBlock, .exclusivity, .denyList, .undeclaredAction, .allowList, .openScope, .unknownAgent,
   .noActiveAgent].map fun r => (r.text, r)

def ofJson? (j : Json) : Option Decision := do
  let r ← j.asRecord? ["agent_id", "action", "outcome", "rule", "reason", "authorized"]
  return {
    agentId := ← r.required "agent_id" Json.asString?
    action := ← r.required "action" Json.asString?
    outcome := ← r.required "outcome" (Json.asWord? outcomeWords)
    rule := ← r.required "rule" (Json.asWord? ruleWords)
    reason := ← r.required "reason" Json.asString?
    authorized := ← r.nullable "authorized" Json.asString? }

end Decision

end AgentGovernance
