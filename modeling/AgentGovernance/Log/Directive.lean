-- SUMMARY: Log directives: from which level on the events of a target are wanted.
import AgentGovernance.Log.Event
import AgentGovernance.Number.Digits
import AgentGovernance.Text.Alphanumeric
import AgentGovernance.Text.Blank

/-!
# Log directives

A directive such as `warden::scope=debug` says how much is wanted of the events whose target starts
with a text. The target may be missing, and so may the level: a word alone is a level if it names
one, and otherwise a target of which everything is wanted. In brackets a directive can name a span,
and in braces the fields that an event must have.
-/

namespace AgentGovernance

/-- The place of a level in the order from least to most important. -/
def LogLevel.rank : LogLevel → Nat
  | .trace => 0
  | .debug => 1
  | .info => 2
  | .warn => 3
  | .error => 4

namespace Log

/-! ## Verbosity -/

/-- How much is wanted: nothing, or everything from the most important events up to those of a
level. -/
inductive Verbosity where
  | off
  | upTo (level : LogLevel)
  deriving DecidableEq, Repr, Inhabited

namespace Verbosity

/-- Whether events of a level are wanted. -/
def admits : Verbosity → LogLevel → Bool
  | .off, _ => false
  | .upTo least, level => least.rank ≤ level.rank

/-- The verbosities by the words and the digits that stand for them. -/
def names : List (String × Verbosity) :=
  [("off", .off), ("error", .upTo .error), ("warn", .upTo .warn), ("info", .upTo .info),
   ("debug", .upTo .debug), ("trace", .upTo .trace)]

/-- Reads a verbosity: a word in any letter case, or a number from 0 to 5 with as many leading zeros
as one likes. -/
def ofText? (text : String) : Option Verbosity :=
  let digits := match text.toList with
    | '+' :: rest => rest
    | cs => cs
  if !digits.isEmpty && digits.all Char.isDigit then (names[digitsValue digits]?).map (·.2)
  else names.lookup text.toLower

end Verbosity

/-! ## Directives -/

/-- A field that an event must have, perhaps with a certain value. -/
structure FieldPattern where
  name : String
  value : Option String := none
  deriving DecidableEq, Repr

/-- The pattern that a text such as `agent_id` or `agent_id=dev` spells. -/
def FieldPattern.ofText (text : List Char) : FieldPattern :=
  let value := match text.dropWhile (· != '=') with
    | _ :: rest => some (String.ofList (rest.takeWhile (· != '=')))
    | [] => none
  { name := String.ofList (text.takeWhile (· != '=')), value }

/-- What is wanted of some events. -/
structure Directive where
  /-- The start of the targets that are meant; none for all. -/
  target : Option String := none
  /-- The span that events must lie in. -/
  span : Option String := none
  fields : List FieldPattern := []
  verbosity : Verbosity := .upTo .trace
  deriving DecidableEq, Repr

namespace Directive

/-- Whether an event has a field. The message counts as one. -/
def hasField (e : LogEvent) (name : String) : Bool :=
  name == "message" || e.fields.any fun f => f.1 == name

/-- Whether a directive is about an event. No event lies in a span, and values are compared within
spans only. -/
def concerns (d : Directive) (e : LogEvent) : Bool :=
  d.span.isNone && (d.target.all fun t => t.toList.isPrefixOf e.target.toList) &&
    d.fields.all fun f => f.value.isNone && hasField e f.name

/-- Why a text is no directive. -/
inductive Fault where
  | malformed
  | level
  deriving DecidableEq, Repr

def Fault.message : Fault → String
  | .malformed => "invalid filter directive"
  | .level =>
    "error parsing level filter: expected one of \"off\", \"error\", \"warn\", \"info\", " ++
      "\"debug\", \"trace\", or a number 0-5"

/-! ## Reading -/

/-- How far a directive has been read. The text of a part that is being read is kept in reverse. -/
inductive Progress where
  | start
  | levelOrTarget (text : List Char)
  | span (d : Directive) (name : List Char)
  | field (d : Directive) (text : List Char)
  | fields (d : Directive)
  | closed (d : Directive)
  | level (d : Directive) (text : List Char)
  | complete (d : Directive)

/-- The text of a part. -/
def partText (reversed : List Char) : String := String.ofList reversed.reverse

/-- Whether a directive can start with a character. -/
def isStart (c : Char) : Bool := c == '-' || c == ':' || c == '_' || Text.isAlphanumeric c

/-- Adds a field to a directive. -/
def addField (d : Directive) (text : List Char) : Except Fault Directive :=
  if text.isEmpty then .error .malformed
  else .ok { d with fields := d.fields ++ [.ofText text.reverse] }

/-- Gives a directive its level. Without a text, everything is wanted. -/
def withLevel (d : Directive) (text : String) : Except Fault Directive :=
  if text.isEmpty then .ok { d with verbosity := .upTo .trace }
  else match Verbosity.ofText? text with
    | some verbosity => .ok { d with verbosity }
    | none => .error .level

/-- The directive of a word alone. -/
def ofWord (word : String) : Directive :=
  match Verbosity.ofText? word with
  | some verbosity => { verbosity }
  | none => { target := some word }

/-- Reads one character. The character `sign` decides what comes next, the character `c` is the one
that becomes part of a text. -/
def step (p : Progress) (sign c : Char) : Except Fault Progress :=
  match p with
  | .start =>
    if sign == '[' then .ok (.span {} [])
    else if isStart sign then .ok (.levelOrTarget [c])
    else .error .malformed
  | .levelOrTarget text =>
    if sign == '=' then .ok (.level { target := some (partText text) } [])
    else if sign == '[' then .ok (.span { target := some (partText text) } [])
    else if sign == ',' then .error .malformed
    else .ok (.levelOrTarget (c :: text))
  | .span d name =>
    if sign == ']' then .ok (.closed { d with span := some (partText name) })
    else if sign == '\x7b' then
      .ok (.field (if name.isEmpty then d else { d with span := some (partText name) }) [])
    else .ok (.span d (c :: name))
  | .field d text =>
    if sign == '\x7d' then (addField d text).map .fields
    else if sign == ',' then (addField d text).map fun d => .field d []
    else .ok (.field d (c :: text))
  | .fields d => if sign == ']' then .ok (.closed d) else .error .malformed
  | .closed d => if sign == '=' then .ok (.level d []) else .error .malformed
  | .level d text =>
    if sign == ',' then (withLevel d (partText text)).map .complete
    else .ok (.level d (c :: text))
  | .complete _ => .error .malformed

/-- The directive that was read. A level or a target extends over the rest of the text. -/
def finish (rest : List Char) : Progress → Except Fault Directive
  | .levelOrTarget text => .ok (ofWord (partText text ++ String.ofList rest))
  | .level d text => withLevel d (partText text ++ String.ofList rest)
  | .closed d | .complete d => .ok d
  | _ => .error .malformed

/-- Reads a directive. Blanks around it are passed over where its parts are told from each other,
but the parts are cut from the text as it is, so that with blanks in front they are not what they
seem. -/
def parse (text : String) : Except Fault Directive := do
  let signs := (Text.trim text).toList
  let cs := text.toList
  let p ← (signs.zip cs).foldlM (fun p (sign, c) => step p sign c) Progress.start
  finish (cs.drop signs.length) p

end Directive

end Log

end AgentGovernance
