-- SUMMARY: Severities of findings, their order and their spellings.
import AgentGovernance.Json.Decode
import AgentGovernance.Text.Blank

/-!
# Severities

Five degrees from a remark to a critical problem. In documents a severity is written in capitals and
read in capitals or small letters; people may spell it in any case.
-/

namespace AgentGovernance

/-- How bad a finding is. -/
inductive Severity where
  | info
  | low
  | medium
  | high
  | critical
  deriving DecidableEq, Repr, Inhabited

namespace Severity

/-- The place of a severity in the order, from zero. -/
def rank : Severity → Nat
  | .info => 0
  | .low => 1
  | .medium => 2
  | .high => 3
  | .critical => 4

instance : LE Severity := ⟨fun a b => a.rank ≤ b.rank⟩

instance : LT Severity := ⟨fun a b => a.rank < b.rank⟩

instance (a b : Severity) : Decidable (a ≤ b) := inferInstanceAs (Decidable (a.rank ≤ b.rank))

instance (a b : Severity) : Decidable (a < b) := inferInstanceAs (Decidable (a.rank < b.rank))

/-- The worse of two severities. -/
protected def max (a b : Severity) : Severity := if a ≤ b then b else a

/-- All severities, worst first. -/
def all : List Severity := [.critical, .high, .medium, .low, .info]

def text : Severity → String
  | .info => "INFO"
  | .low => "LOW"
  | .medium => "MEDIUM"
  | .high => "HIGH"
  | .critical => "CRITICAL"

/-- The name in small letters. -/
def lowerText : Severity → String
  | .info => "info"
  | .low => "low"
  | .medium => "medium"
  | .high => "high"
  | .critical => "critical"

/-! ## Reading -/

/-- A text with its ASCII letters in capitals. -/
def asciiUpper (s : String) : String := String.ofList (s.toList.map Char.toUpper)

/-- A spelling that no severity has, in capitals. -/
structure Unknown where
  spelling : String
  deriving DecidableEq, Repr

def Unknown.message (u : Unknown) : String := s!"unknown severity '{u.spelling}'"

/-- Reads a severity in any case, with blanks around it. -/
def parse (s : String) : Except Unknown Severity :=
  let spelling := asciiUpper (Text.trim s)
  match all.find? fun v => v.text == spelling with
  | some v => .ok v
  | none => .error ⟨spelling⟩

def toJson (s : Severity) : Json := .string s.text

/-- Severities by their names in documents. -/
def words : List (String × Severity) :=
  all.map (fun s => (s.text, s)) ++ all.map fun s => (s.lowerText, s)

def ofJson? (j : Json) : Option Severity := j.asWord? words

end Severity

end AgentGovernance
