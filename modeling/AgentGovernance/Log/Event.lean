-- SUMMARY: Log events: level, target, message and fields.

/-!
# Log events

Operations report what they do as events. An event is data; which events are shown, and how, is
decided by whoever runs the operation.
-/

namespace AgentGovernance

/-- How important an event is, from least to most. -/
inductive LogLevel where
  | trace
  | debug
  | info
  | warn
  | error
  deriving DecidableEq, Repr, Inhabited

/-- The value of a field. A quoted text is shown in quotation marks in text logs. -/
inductive FieldValue where
  | shown (text : String)
  | quoted (text : String)
  | number (n : Nat)
  deriving DecidableEq, Repr

/-- One event. -/
structure LogEvent where
  level : LogLevel
  target : String
  message : String
  fields : List (String × FieldValue) := []
  deriving DecidableEq, Repr

namespace LogEvent

/-- A field that is shown as it is. -/
def shown (name text : String) : String × FieldValue := (name, .shown text)

/-- A field with a text of its own. -/
def quoted (name text : String) : String × FieldValue := (name, .quoted text)

/-- A field with a number. -/
def count (name : String) (n : Nat) : String × FieldValue := (name, .number n)

end LogEvent

end AgentGovernance
