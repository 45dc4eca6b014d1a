-- SUMMARY: Settings out of merged values.
import AgentGovernance.Settings.Basic
import AgentGovernance.Settings.Layer

/-!
# Reading settings

Every section and nearly every entry may be missing and then has its default.
-/

namespace AgentGovernance

namespace Setting

/-- A path. -/
def asPath? (v : Setting) : Option Path := v.asText?.map Path.mk

/-- A list of texts. -/
def asTexts? (v : Setting) : Option (List String) := asList? asText? v

/-- A severity in any letter case. -/
def asSeverity? (v : Setting) : Option Severity := v.asWord? (Severity.all.map fun s => (s.text, s))

end Setting

open Setting (asText? asTexts? asNat? asBool? asPath? asList? asOption? asSeverity? asEntries?)

def CommandValidator.ofSetting? (v : Setting) : Option CommandValidator := do
  let f ← v.asRecord? ["id", "command", "args"]
  return {
    id := ← f.required "id" asText?
    command := ← f.required "command" asText?
    args := ← f.withDefault "args" [] asTexts? }

def TriggerCondition.ofSetting? (v : Setting) : Option TriggerCondition := do
  let f ← v.asRecord? ["min_severity", "same_location"]
  return {
    minSeverity := ← f.withDefault "min_severity" .low asSeverity?
    sameLocation := ← f.withDefault "same_location" false asBool? }

def CompoundRule.ofSetting? (v : Setting) : Option CompoundRule := do
  let f ← v.asRecord? ["id", "validators", "condition", "severity", "rationale"]
  return {
    id := ← f.required "id" asText?
    validators := sortedSet (← f.required "validators" asTexts?)
    condition := ← f.withDefault "condition" {} TriggerCondition.ofSetting?
    severity := ← f.required "severity" asSeverity?
    rationale := ← f.required "rationale" asText? }

def CommandStrategy.ofSetting? (v : Setting) : Option CommandStrategy := do
  let f ← v.asRecord? ["name", "command", "args", "validators", "min_severity"]
  return {
    name := ← f.required "name" asText?
    command := ← f.required "command" asText?
    args := ← f.withDefault "args" [] asTexts?
    validators := ← f.withDefault "validators" [] asTexts?
    minSeverity := ← f.withDefault "min_severity" .low asSeverity? }

def DescriptorSettings.ofSetting? (v : Setting) : Option DescriptorSettings := do
  let f ← v.asRecord? ["path"]
  return { path := ← f.withDefault "path" ⟨"agents"⟩ asPath? }

def SessionSettings.ofSetting? (v : Setting) : Option SessionSettings := do
  let f ← v.asRecord? ["state_dir", "history_limit"]
  return {
    stateDir := ← f.withDefault "state_dir" none (asOption? asPath?)
    historyLimit := ← f.withDefault "history_limit" defaultHistoryLimit asNat? }

def ScopeSettings.ofSetting? (v : Setting) : Option ScopeSettings := do
  let f ← v.asRecord? ["globally_blocked"]
  return { globallyBlocked := ← f.withDefault "globally_blocked" defaultGlobalBlocks asTexts? }

def AuditSettings.ofSetting? (v : Setting) : Option AuditSettings := do
  let f ← v.asRecord?
    ["high_threshold", "validator_timeout_ms", "required_action", "validators", "compound_rules"]
  return {
    highThreshold := ← f.withDefault "high_threshold" 3 asNat?
    validatorTimeout := ← f.withDefault "validator_timeout_ms" 30000 asNat?
    requiredAction := ← f.withDefault "required_action" defaultAuditAction asText?
    validators := ← f.withDefault "validators" [] (asList? CommandValidator.ofSetting?)
    compoundRules := ← f.withDefault "compound_rules" [] (asList? CompoundRule.ofSetting?) }

def RemediationSettings.ofSetting? (v : Setting) : Option RemediationSettings := do
  let f ← v.asRecord? ["strategies", "attempt_timeout_ms"]
  return {
    strategies := ← f.withDefault "strategies" [] (asList? CommandStrategy.ofSetting?)
    attemptTimeout := ← f.withDefault "attempt_timeout_ms" defaultAttemptTimeout asNat? }

/-- Levels by target, in order. -/
def LogSettings.modulesOf? (v : Setting) : Option (List (String × String)) := do
  let entries ← asEntries? asText? v
  return entries.foldl (fun done (k, level) => Json.insertField k level done) []

def LogSettings.ofSetting? (v : Setting) : Option LogSettings := do
  let f ← v.asRecord? ["enabled", "level", "format", "output", "file", "color", "modules"]
  return {
    enabled := ← f.withDefault "enabled" true asBool?
    level := ← f.withDefault "level" "info" asText?
    format := ← f.withDefault "format" "text" asText?
    output := ← f.withDefault "output" "file" asText?
    file := ← f.withDefault "file" none (asOption? asPath?)
    color := ← f.withDefault "color" true asBool?
    modules := ← f.withDefault "modules" [] LogSettings.modulesOf? }

def Settings.ofSetting? (v : Setting) : Option Settings := do
  let f ← v.asRecord? ["descriptors", "session", "scope", "audit", "remediation", "logging"]
  return {
    descriptors := ← f.withDefault "descriptors" {} DescriptorSettings.ofSetting?
    session := ← f.withDefault "session" {} SessionSettings.ofSetting?
    scope := ← f.withDefault "scope" {} ScopeSettings.ofSetting?
    audit := ← f.withDefault "audit" {} AuditSettings.ofSetting?
    remediation := ← f.withDefault "remediation" {} RemediationSettings.ofSetting?
    logging := ← f.withDefault "logging" {} LogSettings.ofSetting? }

end AgentGovernance
