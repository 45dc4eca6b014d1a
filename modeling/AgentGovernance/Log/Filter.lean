-- SUMMARY: Which events are logged: directives from the environment and the settings.
import AgentGovernance.Environment
import AgentGovernance.Log.Directive
import AgentGovernance.Settings.Basic

/-!
# Log filters

A filter is a list of directives. Of those that are about an event the most specific one decides:
the longest target wins, then the most fields; of two directives of one kind the later one counts.
An event that no directive is about is not logged.

The variable `WARDEN_LOG` replaces the whole filter if it can be read. Otherwise the filter starts
with the configured level, which may itself be a list of directives; those that cannot be read are
left out, with a complaint. The levels of single modules come on top.
-/

namespace AgentGovernance.Log

/-- Directives in the order in which they were given. -/
structure Filter where
  directives : List Directive := []
  deriving DecidableEq, Repr

namespace Filter

/-! ## Deciding -/

/-- Whether a directive is more specific than another one about the same event. -/
def outranks (a b : Directive) : Bool :=
  let width := fun (d : Directive) => match d.target with
    | some t => t.length + 1
    | none => 0
  let names := fun (d : Directive) => d.fields.map FieldPattern.name
  if width a != width b then width b < width a
  else if a.fields.length != b.fields.length then b.fields.length < a.fields.length
  else decide (names b < names a)

/-- The directive that decides about an event. -/
def decisive? (f : Filter) (e : LogEvent) : Option Directive :=
  (f.directives.filter fun d => d.concerns e).foldl (fun best d =>
    match best with
    | some b => if outranks b d then some b else some d
    | none => some d) none

/-- Whether an event is logged. -/
def admits (f : Filter) (e : LogEvent) : Bool :=
  match f.decisive? e with
  | some d => d.verbosity.admits e.level
  | none => false

/-! ## Reading -/

/-- The parts of a list of directives. -/
def parts (text : String) : List String :=
  (text.splitOn ",").filter fun s => !s.isEmpty

/-- The filter of some directives. If there are none, errors are logged. -/
def ofDirectives : List Directive → Filter
  | [] => { directives := [{ verbosity := .upTo .error }] }
  | directives => { directives }

/-- The filter of a list of directives, all of which must be well formed. -/
def ofText? (text : String) : Option Filter :=
  ((parts text).mapM Directive.parse).toOption.map ofDirectives

/-- The filter of those directives in a list that are well formed. -/
def ofLevel (text : String) : Filter :=
  ofDirectives ((parts text).filterMap fun s => (Directive.parse s).toOption)

/-- What there is to say about the directives of a list that are not well formed. -/
def complaintsAbout (text : String) : List String :=
  (parts text).filterMap fun s => match Directive.parse s with
    | .ok _ => none
    | .error fault => some ("ignoring \x60" ++ s ++ "\x60: " ++ fault.message)

/-- The directive that gives a module a level. -/
def moduleDirective (target level : String) : Except GovernanceError Directive :=
  match Directive.parse (target ++ "=" ++ level) with
  | .ok d => .ok d
  | .error fault => .error (.configuration (.logDirective target level fault.message))

/-- The modules that the environment gives levels to. -/
def moduleLevels (text : String) : List (String × String) :=
  (text.splitOn ",").filterMap fun entry =>
    match entry.toList.dropWhile (· != '=') with
    | [] => none
    | _ :: level =>
      some (Text.trim (String.ofList (entry.toList.takeWhile (· != '='))),
        Text.trim (String.ofList level))

/-- The filter that replaces the configured one. -/
def replacement? (env : Environment) : Option Filter :=
  (env.get? "WARDEN_LOG").bind ofText?

/-- The filter to use. The level `off` silences the modules, too. -/
def resolve (env : Environment) (s : LogSettings) : Except GovernanceError Filter := do
  match replacement? env with
  | some f => return f
  | none =>
    if s.level == "off" then return { directives := [{ verbosity := .off }] }
    else
      let modules := s.modules ++ moduleLevels ((env.get? "WARDEN_LOG_MODULES").getD "")
      let more ← modules.mapM fun (target, level) => moduleDirective target level
      return { directives := (ofLevel s.level).directives ++ more }

/-- What there is to say while the filter is made. -/
def complaints (env : Environment) (s : LogSettings) : List String :=
  if (replacement? env).isSome then [] else complaintsAbout s.level

end Filter

end AgentGovernance.Log
