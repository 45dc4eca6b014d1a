-- SUMMARY: Log events as lines, for people and for programs.
import AgentGovernance.Json.Basic
import AgentGovernance.Log.Event
import AgentGovernance.Text.Escape
import AgentGovernance.Time.Rfc3339
import AgentGovernance.View.Style

/-!
# Log lines

An event becomes a line that starts with the time. For people it holds level, target, message and
fields one after the other, perhaps in colour; for programs it is a JSON object.
-/

namespace AgentGovernance

/-- The name of a level. -/
def LogLevel.name : LogLevel → String
  | .trace => "TRACE"
  | .debug => "DEBUG"
  | .info => "INFO"
  | .warn => "WARN"
  | .error => "ERROR"

namespace FieldValue

/-- The value in a line for people. -/
def text : FieldValue → String
  | .shown t => t
  | .quoted t => Text.inspect t
  | .number n => toString n

def toJson : FieldValue → Json
  | .shown t | .quoted t => .string t
  | .number n => .nat n

end FieldValue

namespace Log

/-- A way to write the parts of a line. -/
structure LineStyle where
  faint : String → String
  slanted : String → String
  level : LogLevel → String → String

/-- The colour of a level. -/
def levelColor : LogLevel → Nat
  | .trace => 35
  | .debug => 34
  | .info => 32
  | .warn => 33
  | .error => 31

/-- Parts as they are. -/
def LineStyle.plain : LineStyle := { faint := id, slanted := id, level := fun _ s => s }

/-- Parts with terminal sequences. -/
def LineStyle.colored : LineStyle :=
  { faint := View.styled 2 0, slanted := View.styled 3 0
    level := fun l => View.styled (levelColor l) 0 }

/-- A name with blanks in front up to five characters. -/
def aligned (name : String) : String :=
  String.ofList (List.replicate (5 - name.length) ' ') ++ name

end Log

namespace LogEvent

open Log (LineStyle)

/-- The line of an event for people. -/
def textLine (style : LineStyle) (time : Instant) (e : LogEvent) : String :=
  let field : String × FieldValue → String := fun (name, value) =>
    style.slanted name ++ style.faint "=" ++ value.text
  " ".intercalate
    ([style.faint time.display, style.level e.level (Log.aligned e.level.name),
      style.faint e.target ++ style.faint ":", e.message] ++ e.fields.map field)

/-- The line of an event for programs. -/
def jsonLine (time : Instant) (e : LogEvent) : String :=
  (Json.object
    [("timestamp", .string time.display), ("level", .string e.level.name),
     ("fields", .object (("message", .string e.message) :: e.fields.map fun (name, value) =>
       (name, value.toJson))),
     ("target", .string e.target)]).compact

end LogEvent

end AgentGovernance
