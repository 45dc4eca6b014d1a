-- SUMMARY: Checks of a descriptor against the file it came from and the other agents.
import AgentGovernance.Descriptor.Basic

/-!
# Descriptor validation

A descriptor that could be read may still contradict itself, or speak of agents that do not exist.
Each rule leaves a remark: a check with its result, or an error. A descriptor is valid if there are
no errors and every check passed.
-/

namespace AgentGovernance

/-- The checks made of a descriptor and the errors found. -/
structure Validation where
  agentId : String
  checks : List (String × Bool) := []
  errors : List String := []
  deriving DecidableEq, Repr

namespace Validation

def isValid (v : Validation) : Bool := v.errors.isEmpty && v.checks.all (·.2)

def passed (v : Validation) : Nat := v.checks.countP (·.2)

def total (v : Validation) : Nat := v.checks.length

/-- One thing that a rule has to say. -/
inductive Remark where
  | check (text : String) (ok : Bool)
  | error (text : String)
  deriving DecidableEq, Repr

def Remark.check? : Remark → Option (String × Bool)
  | .check text ok => some (text, ok)
  | .error _ => none

def Remark.error? : Remark → Option String
  | .check _ _ => none
  | .error text => some text

/-! ## Rules -/

/-- Whether the id is the name of the file or of the directory it lies in. -/
def matchesSource (d : AgentDescriptor) : Bool :=
  d.source.stem? == some d.id || (d.source.parent?.bind Path.fileName?) == some d.id

/-- The source file exists and is named for the agent. -/
def sourceRemarks (fileExists : Path → Bool) (d : AgentDescriptor) : List Remark :=
  if d.source.isEmpty then [.check "Descriptor defined in code" true]
  else if fileExists d.source then
    [.check "Descriptor file exists" true,
     if matchesSource d then .check "Agent ID matches file or directory name" true
     else .error s!"Agent ID '{d.id}' doesn't match file '{d.source.text}'"]
  else [.error s!"Descriptor file not found: {d.source.text}"]

/-- Tags of a list that are denied as well. -/
def deniedAmong (d : AgentDescriptor) (tags : List Tag) : List Tag :=
  tags.filter fun t => d.cannot.contains t

/-- Tags in a row. -/
def listed (tags : List Tag) : String := ", ".intercalate tags

/-- Nothing is both allowed and denied. -/
def allowRemark (d : AgentDescriptor) : Remark :=
  let both := deniedAmong d d.can
  if both.isEmpty then .check "Allow-list and deny-list are disjoint" true
  else .error s!"Tags both allowed and denied: {listed both}"

/-- Nothing is both exclusive and denied. -/
def exclusiveRemark (d : AgentDescriptor) : Remark :=
  let both := deniedAmong d d.exclusive
  if both.isEmpty then .check "Exclusive actions are not denied" true
  else .error s!"Exclusive tags also in deny-list: {listed both}"

/-- The superior is another agent that exists. -/
def superiorRemarks (known : List String) (d : AgentDescriptor) : List Remark :=
  match d.reportsTo with
  | none => []
  | some boss =>
    if boss == d.id then [.error "Agent reports to itself"]
    else if known.contains boss then [.check "reports_to references a known agent" true]
    else [.error s!"reports_to references unknown agent '{boss}'"]

/-- The peers exist. -/
def peerRemarks (known : List String) (d : AgentDescriptor) : List Remark :=
  (d.collaborators.filter fun p => !known.contains p).map
      (fun p => .error s!"collaborates_with references unknown agent '{p}'") ++
    if d.collaborators.isEmpty then []
    else [.check "Collaborators resolved" (d.collaborators.all fun p => known.contains p)]

/-- Everything there is to say about a descriptor among agents with the given ids. -/
def remarks (fileExists : Path → Bool) (known : List String) (d : AgentDescriptor) :
    List Remark :=
  sourceRemarks fileExists d ++ [allowRemark d, exclusiveRemark d] ++ superiorRemarks known d ++
    peerRemarks known d

/-- Validates a descriptor among agents with the given ids. -/
def ofDescriptor (fileExists : Path → Bool) (known : List String) (d : AgentDescriptor) :
    Validation :=
  let rs := remarks fileExists known d
  { agentId := d.id, checks := rs.filterMap Remark.check?, errors := rs.filterMap Remark.error? }

end Validation

end AgentGovernance
