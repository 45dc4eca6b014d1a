-- SUMMARY: Compound rules: when several validators agree, the risk is greater than its parts.
import AgentGovernance.Audit.Finding
import AgentGovernance.Error
import AgentGovernance.Scope.Enforcer

/-!
# Compound rules

A rule names validators. It fires when each of them reports something severe enough, on one resource
if the rule says so, and then yields a finding of its own. That finding is at least as severe as the
rule says and as what made it fire.
-/

namespace AgentGovernance

/-- Which findings count for a rule. -/
structure TriggerCondition where
  minSeverity : Severity := .low
  /-- Whether all validators have to report on one resource. -/
  sameLocation : Bool := false
  deriving DecidableEq, Repr, Inhabited

/-- A rule over two or more validators. -/
structure CompoundRule where
  id : String
  /-- Sorted, without repetitions. -/
  validators : List String
  condition : TriggerCondition := {}
  severity : Severity
  rationale : String
  deriving DecidableEq, Repr, Inhabited

/-- The record of a rule that fired. -/
structure FiredRule where
  ruleId : String
  validators : List String
  severity : Severity
  rationale : String
  /-- Fingerprints of the findings that made it fire. -/
  contributing : List String
  deriving DecidableEq, Repr, Inhabited

namespace CompoundRule

/-- A rule over the given validators. -/
def new (id : String) (validators : List String) (severity : Severity) (rationale : String) :
    CompoundRule :=
  { id, validators := sortedSet validators, severity, rationale }

/-- What is wrong with a rule. -/
def fault? (r : CompoundRule) : Option RuleFault :=
  if (Text.trim r.id).isEmpty then some .blankId
  else if r.validators.length < 2 then some (.tooFewValidators r.id r.validators.length)
  else none

/-! ## Evaluation -/

/-- Whether a finding counts for a validator. -/
def qualifies (r : CompoundRule) (f : Finding) (validator : String) : Bool :=
  f.kind == .reported && f.validatorId == validator && decide (r.condition.minSeverity ≤ f.severity)

/-- Whether a finding counts for one of the rule's validators. -/
def counts (r : CompoundRule) (f : Finding) : Bool := r.validators.any (r.qualifies f)

/-- Whether every validator has a finding that counts among those given. -/
def everyValidatorHas (r : CompoundRule) (fs : List Finding) : Bool :=
  r.validators.all fun v => fs.any fun f => r.qualifies f v

/-- The findings on one resource. -/
def on (resource : String) (fs : List Finding) : List Finding :=
  fs.filter fun f => f.location.resource == resource

/-- The resources on which a validator has a finding that counts, in order. -/
def resourcesOf (r : CompoundRule) (fs : List Finding) (validator : String) : List String :=
  sortedSet ((fs.filter fun f => r.qualifies f validator).map (·.location.resource))

/-- The resources that one more validator shares with those before it. -/
def shareWith (r : CompoundRule) (fs : List Finding) (shared : Option (List String))
    (validator : String) : Option (List String) :=
  let resources := r.resourcesOf fs validator
  match shared with
  | none => some resources
  | some acc => some (acc.filter resources.contains)

/-- The resources that all validators share, if there are validators. -/
def sharedResources? (r : CompoundRule) (fs : List Finding) : Option (List String) :=
  r.validators.foldl (r.shareWith fs) none

/-- The first resource, in order, on which every validator has a finding that counts. -/
def sharedResource? (r : CompoundRule) (fs : List Finding) : Option String :=
  (r.sharedResources? fs).bind List.head?

/-- The findings that make a rule fire. -/
def contributing? (r : CompoundRule) (fs : List Finding) : Option (List Finding) :=
  if r.condition.sameLocation then
    (r.sharedResource? fs).map fun res => (on res fs).filter r.counts
  else if r.everyValidatorHas fs then some (fs.filter r.counts)
  else none

/-- The worst severity of a list that has one. -/
def worst? : List Finding → Option Severity
  | [] => none
  | f :: fs => some (fs.foldl (fun s g => s.max g.severity) f.severity)

/-- The location of a rule's finding: the one resource that contributes, or the rule itself. -/
def commonLocation (r : CompoundRule) (fs : List Finding) : Location :=
  match sortedSet (fs.map (·.location.resource)) with
  | [resource] => { resource }
  | _ => { resource := "compound:" ++ r.id }

/-- A contributing finding in one line. -/
def evidenceLine (f : Finding) : String :=
  s!"[{f.validatorId}] {f.severity.text} @ {f.location.display}: {f.description}"

/-- The record and the finding of a rule that fires on the given findings. -/
def fire (r : CompoundRule) (severity : Severity) (fs : List Finding) : FiredRule × Finding :=
  ({ ruleId := r.id, validators := r.validators, severity, rationale := r.rationale
     contributing := fs.map Finding.fingerprint },
   { validatorId := "compound:" ++ r.id, severity, location := r.commonLocation fs
     description := s!"compound risk '{r.id}': {r.rationale}"
     evidence := some ("\n".intercalate (fs.map evidenceLine)), kind := .compound })

/-- What a rule makes of the findings: its record and its finding if it fires. -/
def evaluate (r : CompoundRule) (fs : List Finding) : Option (FiredRule × Finding) := do
  if r.fault?.isSome then none
  let contributing ← r.contributing? fs
  let worst ← worst? contributing
  return r.fire (r.severity.max worst) contributing

/-! ## Documents -/

end CompoundRule

namespace TriggerCondition

def toJson (c : TriggerCondition) : Json :=
  .object [("min_severity", c.minSeverity.toJson), ("same_location", .bool c.sameLocation)]

def ofJson? (j : Json) : Option TriggerCondition := do
  let r ← j.asRecord? ["min_severity", "same_location"]
  return {
    minSeverity := ← r.withDefault "min_severity" .low Severity.ofJson?
    sameLocation := ← r.withDefault "same_location" false Json.asBool? }

end TriggerCondition

/-- A set of texts: a list in any order, repetitions allowed. -/
def Json.asTextSet? (j : Json) : Option (List String) :=
  (j.asList? Json.asString?).map sortedSet

namespace CompoundRule

def toJson (r : CompoundRule) : Json :=
  .object
    [("id", .string r.id), ("validators", .strings r.validators),
     ("condition", r.condition.toJson), ("severity", r.severity.toJson),
     ("rationale", .string r.rationale)]

def ofJson? (j : Json) : Option CompoundRule := do
  let r ← j.asRecord? ["id", "validators", "condition", "severity", "rationale"]
  return {
    id := ← r.required "id" Json.asString?
    validators := ← r.required "validators" Json.asTextSet?
    condition := ← r.withDefault "condition" {} TriggerCondition.ofJson?
    severity := ← r.required "severity" Severity.ofJson?
    rationale := ← r.required "rationale" Json.asString? }

end CompoundRule

namespace FiredRule

def toJson (r : FiredRule) : Json :=
  .object
    [("rule_id", .string r.ruleId), ("validators", .strings r.validators),
     ("severity", r.severity.toJson), ("rationale", .string r.rationale),
     ("contributing", .strings r.contributing)]

def ofJson? (j : Json) : Option FiredRule := do
  let r ← j.asRecord? ["rule_id", "validators", "severity", "rationale", "contributing"]
  return {
    ruleId := ← r.required "rule_id" Json.asString?
    validators := ← r.required "validators" Json.asTextSet?
    severity := ← r.required "severity" Severity.ofJson?
    rationale := ← r.required "rationale" Json.asString?
    contributing := ← r.required "contributing" (Json.asList? Json.asString?) }

end FiredRule

end AgentGovernance
