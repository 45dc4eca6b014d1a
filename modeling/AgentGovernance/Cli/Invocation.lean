-- SUMMARY: The commands of the program and what a command line asks for.
import AgentGovernance.Cli.Arguments
import AgentGovernance.Path

/-!
# Invocations

A command line names a workspace, settings of its own for this run, and one command. Commands print
text for people, or JSON if they are asked for the format `json`; any other format means text.
-/

namespace AgentGovernance.Cli

/-- A format of output. -/
inductive OutputFormat where
  | text
  | json
  deriving DecidableEq, Repr

/-- The format that a word asks for. -/
def OutputFormat.ofWord (word : String) : OutputFormat :=
  if word == "json" then .json else .text

/-- A command of the program. -/
inductive Command where
  | agentList (format : OutputFormat)
  | agentShow (id : String) (format : OutputFormat)
  | agentValidate (id : Option String) (format : OutputFormat)
  | activate (id : String)
  | deactivate
  | status (format : OutputFormat)
  | touch (task : Option String)
  | reload
  | check (action : String) (agent : Option String) (format : OutputFormat)
  | blocked (agent : Option String) (format : OutputFormat)
  | bleedCheck (text : String) (format : OutputFormat)
  | audit (scope : Option Path) (agent : Option String) (fix : Bool) (format : OutputFormat)
  | report (run : Option String) (format : OutputFormat)
  | escalations (format : OutputFormat)
  | config (format : OutputFormat)
  deriving DecidableEq, Repr

/-- What the command line says about logging. -/
structure LogFlags where
  verbose : Bool := false
  level : Option String := none
  format : Option String := none
  output : Option String := none
  file : Option Path := none
  deriving DecidableEq, Repr

/-- A command line. -/
structure Invocation where
  workspace : Path := ⟨"."⟩
  /-- A configuration file to take instead of the usual ones. -/
  config : Option Path := none
  logging : LogFlags := {}
  command : Command
  deriving DecidableEq, Repr

/-! ## Syntax -/

def textOption (name : String) : OptionSyntax := { name, kind := .text }

def pathOption (name : String) : OptionSyntax := { name, kind := .path }

def flagOption (name : String) : OptionSyntax := { name, kind := .flag }

/-- A command without commands below it that can be told a format. -/
def formatted (name : String) (options : List OptionSyntax) (required optional : Nat) :
    CommandSyntax :=
  .mk name (options ++ [textOption "format"]) required optional []

/-- The syntax of the program. -/
def programSyntax : CommandSyntax :=
  .mk "warden"
    [pathOption "workspace", pathOption "config", flagOption "verbose", textOption "log-level",
     textOption "log-format", textOption "log-output", pathOption "log-file"] 0 0
    [.mk "agent" [] 0 0
       [formatted "list" [] 0 0, formatted "show" [] 1 0, formatted "validate" [] 0 1],
     .mk "activate" [] 1 0 [],
     .mk "deactivate" [] 0 0 [],
     formatted "status" [] 0 0,
     .mk "touch" [textOption "task"] 0 0 [],
     .mk "reload" [] 0 0 [],
     formatted "check" [textOption "agent"] 1 0,
     formatted "blocked" [textOption "agent"] 0 0,
     formatted "bleed-check" [] 1 0,
     formatted "audit" [pathOption "scope", textOption "agent", flagOption "fix"] 0 0,
     formatted "report" [textOption "run"] 0 0,
     formatted "escalations" [] 0 0,
     formatted "config" [] 0 0]

/-! ## Meaning -/

namespace Matches

/-- The value of an option. -/
def value? (m : Matches) (name : String) : Option String := m.values.lookup name

def path? (m : Matches) (name : String) : Option Path := (m.value? name).map Path.mk

/-- The format that was asked for. -/
def format (m : Matches) : OutputFormat := .ofWord ((m.value? "format").getD "")

/-- The first positional argument. -/
def first (m : Matches) : String := m.positionals.headD ""

/-- The command that was asked for. -/
def command? (m : Matches) : Option Command :=
  match m.commands with
  | ["agent", "list"] => some (.agentList m.format)
  | ["agent", "show"] => some (.agentShow m.first m.format)
  | ["agent", "validate"] => some (.agentValidate m.positionals.head? m.format)
  | ["activate"] => some (.activate m.first)
  | ["deactivate"] => some .deactivate
  | ["status"] => some (.status m.format)
  | ["touch"] => some (.touch (m.value? "task"))
  | ["reload"] => some .reload
  | ["check"] => some (.check m.first (m.value? "agent") m.format)
  | ["blocked"] => some (.blocked (m.value? "agent") m.format)
  | ["bleed-check"] => some (.bleedCheck m.first m.format)
  | ["audit"] =>
    some (.audit (m.path? "scope") (m.value? "agent") (m.flags.contains "fix") m.format)
  | ["report"] => some (.report (m.value? "run") m.format)
  | ["escalations"] => some (.escalations m.format)
  | ["config"] => some (.config m.format)
  | _ => none

end Matches

/-- Reads a command line. -/
def Invocation.parse (args : List String) : Except UsageError Invocation := do
  let m ← read programSyntax args {}
  match m.command? with
  | none => .error .missingCommand
  | some command =>
    return {
      workspace := (m.path? "workspace").getD ⟨"."⟩
      config := m.path? "config"
      logging :=
        { verbose := m.flags.contains "verbose", level := m.value? "log-level"
          format := m.value? "log-format", output := m.value? "log-output"
          file := m.path? "log-file" }
      command }

end AgentGovernance.Cli
