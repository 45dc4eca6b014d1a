-- SUMMARY: Findings of validators, where they point, and what identifies them across runs.
import AgentGovernance.Audit.Severity
import AgentGovernance.Hash.Blake3

/-!
# Findings

A finding says what a validator found and where. Its fingerprint identifies it across runs: it
depends on the validator, the location and the description, and on nothing else, so that a problem
that is reported again with another severity or other evidence is recognized.
-/

namespace AgentGovernance

/-- A file or another resource, perhaps with a line. -/
structure Location where
  resource : String
  line : Option Nat := none
  deriving DecidableEq, Repr, Inhabited

namespace Location

def display (l : Location) : String :=
  match l.line with
  | some n => s!"{l.resource}:{n}"
  | none => l.resource

/-- Order of lines: no line comes before every line. -/
def compareLines : Option Nat → Option Nat → Ordering
  | none, none => .eq
  | none, some _ => .lt
  | some _, none => .gt
  | some a, some b => Ord.compare a b

/-- Order of locations: by resource, then by line. -/
def compare (a b : Location) : Ordering :=
  (Ord.compare a.resource b.resource).then (compareLines a.line b.line)

def toJson (l : Location) : Json :=
  .object (("resource", .string l.resource) :: Json.fieldIfSome "line" .nat l.line)

def ofJson? (j : Json) : Option Location := do
  let r ← j.asRecord? ["resource", "line"]
  return {
    resource := ← r.required "resource" Json.asString?
    line := ← r.optional "line" (Json.asNatBelow? (Nat.pow 2 32)) }

end Location

/-- How a finding came about. -/
inductive FindingKind where
  | reported
  /-- Stands for a validator that failed. -/
  | validatorFailure
  /-- Stands for a compound rule that fired. -/
  | compound
  deriving DecidableEq, Repr, Inhabited

namespace FindingKind

def text : FindingKind → String
  | .reported => "reported"
  | .validatorFailure => "validator_failure"
  | .compound => "compound"

/-- Kinds by name. -/
def words : List (String × FindingKind) :=
  [.reported, .validatorFailure, .compound].map fun k => (k.text, k)

end FindingKind

/-- One result of a validator. -/
structure Finding where
  validatorId : String
  severity : Severity
  location : Location
  description : String
  evidence : Option String := none
  kind : FindingKind := .reported
  deriving DecidableEq, Repr, Inhabited

namespace Finding

/-- The finding that stands for a validator that failed. -/
def validatorFailed (validatorId reason : String) : Finding :=
  { validatorId, severity := .info, location := { resource := "validator:" ++ validatorId }
    description := "validator failed: " ++ reason, kind := .validatorFailure }

/-- Whether the finding stands for something that no validator reported. -/
def isSynthetic (f : Finding) : Bool := f.kind != .reported

/-! ## Fingerprints -/

/-- The bytes of a text. -/
def textBytes (s : String) : List UInt8 := s.toUTF8.data.toList

/-- The bytes that the fingerprint is the hash of: the parts with a zero byte between them. -/
def identityBytes (f : Finding) : List UInt8 :=
  textBytes f.validatorId ++ 0 :: (textBytes f.location.resource ++ 0 ::
    (Blake3.bytes32 (f.location.line.getD 0) ++ 0 :: textBytes f.description))

/-- The identity of a finding across runs. -/
def fingerprint (f : Finding) : String := Blake3.hexDigits ((Blake3.hash f.identityBytes).take 16)

/-! ## Documents -/

def toJson (f : Finding) : Json :=
  .object <|
    [("validator_id", .string f.validatorId), ("severity", f.severity.toJson),
     ("location", f.location.toJson), ("description", .string f.description)] ++
    Json.fieldIfSome "evidence" .string f.evidence ++ [("kind", .string f.kind.text)]

def ofJson? (j : Json) : Option Finding := do
  let r ← j.asRecord?
    ["validator_id", "severity", "location", "description", "evidence", "kind"]
  return {
    validatorId := ← r.withDefault "validator_id" "" Json.asString?
    severity := ← r.required "severity" Severity.ofJson?
    location := ← r.required "location" Location.ofJson?
    description := ← r.required "description" Json.asString?
    evidence := ← r.optional "evidence" Json.asString?
    kind := ← r.withDefault "kind" .reported (Json.asWord? FindingKind.words) }

/-! ## Order -/

/-- Order of priority: worse findings first, then by validator and location. -/
def priority (a b : Finding) : Ordering :=
  (Ord.compare b.severity.rank a.severity.rank).then
    ((Ord.compare a.validatorId b.validatorId).then (a.location.compare b.location))

/-- Findings in order of priority; equal ones keep their order. -/
def prioritize (fs : List Finding) : List Finding := fs.mergeSort fun a b => priority a b != .gt

end Finding

end AgentGovernance
