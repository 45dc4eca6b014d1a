-- SUMMARY: Command lines: a grammar of commands and options, and the reading of arguments by it.

/-!
# Arguments

A command has options, positional arguments and, instead of the latter, commands below it. Options
start with two dashes; a value follows as the next argument or behind an equals sign. Two dashes
alone end the options. A command with others below it needs one of them.

Faults are reported where reading meets them: those of an inner command before those of the outer
one, and an option's own faults when the next argument has been recognized.
-/

namespace AgentGovernance.Cli

/-- Why a command line is not carried out. -/
inductive UsageError where
  | help
  | helpForMissing
  | unknownArgument
  | invalidCommand
  | missingCommand
  | missingArgument
  | tooManyValues
  | invalidValue
  | argumentConflict
  deriving DecidableEq, Repr

/-- Asking for help is no failure. -/
def UsageError.exitCode : UsageError → Nat
  | .help => 0
  | _ => 2

/-- What an option takes. -/
inductive OptionKind where
  | flag
  | text
  | path
  deriving DecidableEq, Repr

/-- An option. -/
structure OptionSyntax where
  name : String
  kind : OptionKind
  deriving DecidableEq, Repr

/-- A command. -/
inductive CommandSyntax where
  | mk (name : String) (options : List OptionSyntax) (required optional : Nat)
      (children : List CommandSyntax)

namespace CommandSyntax

def name : CommandSyntax → String
  | .mk n _ _ _ _ => n

def options : CommandSyntax → List OptionSyntax
  | .mk _ os _ _ _ => os

/-- How many positional arguments there must be. -/
def required : CommandSyntax → Nat
  | .mk _ _ r _ _ => r

/-- How many positional arguments there may be. -/
def positionals : CommandSyntax → Nat
  | .mk _ _ r o _ => r + o

def children : CommandSyntax → List CommandSyntax
  | .mk _ _ _ _ cs => cs

/-- The command of a name below another one. -/
def child? (c : CommandSyntax) (name : String) : Option CommandSyntax :=
  c.children.find? fun d => d.name == name

/-- The option of a name. -/
def option? (c : CommandSyntax) (name : String) : Option OptionSyntax :=
  c.options.find? fun o => o.name == name

end CommandSyntax

/-- What a command line gives: the commands from the outermost to the innermost, options and
positional arguments. -/
structure Matches where
  commands : List String := []
  values : List (String × String) := []
  flags : List String := []
  positionals : List String := []
  deriving DecidableEq, Repr, Inhabited

/-- Puts the matches of an inner command behind those of an outer one. -/
def Matches.append (outer inner : Matches) : Matches :=
  { commands := outer.commands ++ inner.commands
    values := outer.values ++ inner.values
    flags := outer.flags ++ inner.flags
    positionals := outer.positionals ++ inner.positionals }

/-! ## Reading one command -/

/-- How far the reading of a command has come. -/
structure Progress where
  found : Matches := {}
  /-- An option that is not checked yet, with its value if it has come. -/
  pending : Option (OptionSyntax × Option String) := none
  /-- Whether only positional arguments follow. -/
  trailing : Bool := false

namespace Progress

/-- Whether the next argument is the value of an option. -/
def awaitsValue (p : Progress) : Bool :=
  match p.pending with
  | some (_, none) => true
  | _ => false

/-- Whether an option was given. -/
def has (p : Progress) (o : OptionSyntax) : Bool :=
  p.found.flags.contains o.name || p.found.values.any fun v => v.1 == o.name

/-- Whether anything was given. -/
def isEmpty (p : Progress) : Bool :=
  p.found.flags.isEmpty && p.found.values.isEmpty && p.found.positionals.isEmpty

/-- Records the value of an option. An option may be given once, and a path must not be empty. -/
def setValue (p : Progress) (o : OptionSyntax) (value : String) : Except UsageError Progress :=
  if p.has o then .error .argumentConflict
  else if o.kind == .path && value.isEmpty then .error .invalidValue
  else .ok { p with found := { p.found with values := p.found.values ++ [(o.name, value)] } }

/-- Records a flag, which may be given once. -/
def setFlag (p : Progress) (o : OptionSyntax) : Except UsageError Progress :=
  if p.has o then .error .argumentConflict
  else .ok { p with found := { p.found with flags := p.found.flags ++ [o.name] } }

/-- Checks the pending option. It must have got its value. -/
def resolve (p : Progress) : Except UsageError Progress :=
  match p.pending with
  | none => .ok p
  | some (_, none) => .error .invalidValue
  | some (o, some value) => { p with pending := none }.setValue o value

/-- Records a positional argument. -/
def addPositional (p : Progress) (value : String) : Except UsageError Progress := do
  let p ← p.resolve
  return { p with found := { p.found with positionals := p.found.positionals ++ [value] } }

end Progress

/-- An argument that starts with two dashes: its name and the value behind an equals sign. -/
def longOption? (arg : String) : Option (String × Option String) :=
  match arg.toList with
  | '-' :: '-' :: c :: rest =>
    let body := c :: rest
    let name := String.ofList (body.takeWhile (· != '='))
    match body.dropWhile (· != '=') with
    | _ :: value => some (name, some (String.ofList value))
    | [] => some (name, none)
  | _ => none

/-- The letter behind a single dash. -/
def shortOption? (arg : String) : Option Char :=
  match arg.toList with
  | '-' :: c :: _ => if c == '-' then none else some c
  | _ => none

/-- Reads an option with two dashes. -/
def readLong (c : CommandSyntax) (name : String) (attached : Option String) (p : Progress) :
    Except UsageError Progress := do
  if name == "help" then
    if attached.isSome then .error .tooManyValues
    else
      let _ ← p.resolve
      .error .help
  else match c.option? name with
    | none => .error .unknownArgument
    | some o =>
      if o.kind == .flag then
        if attached.isSome then .error .tooManyValues else (← p.resolve).setFlag o
      else match attached with
        | some value => (← p.resolve).setValue o value
        | none =>
          let p ← p.resolve
          return { p with pending := some (o, none) }

/-- Reads an option with one dash. There is only the one for help. -/
def readShort (letter : Char) (p : Progress) : Except UsageError Progress := do
  if letter == 'h' then
    let _ ← p.resolve
    .error .help
  else .error .unknownArgument

/-- The fault of an argument that nothing expects. -/
def strayArgument (c : CommandSyntax) (arg : String) (trailing : Bool) : UsageError :=
  if c.children.isEmpty then .unknownArgument
  else if trailing && (arg == "help" || (c.child? arg).isSome) then .unknownArgument
  else .invalidCommand

/-- The answer to a request for help on a command further below. -/
def helpOn (c : CommandSyntax) : List String → UsageError
  | [] => .help
  | name :: names =>
    match c.child? name with
    | some d => helpOn d names
    | none =>
      if name == "help" && !c.children.isEmpty && names.isEmpty then .help else .invalidCommand

/-- Reads one argument that is no command. -/
def readArgument (c : CommandSyntax) (arg : String) (p : Progress) : Except UsageError Progress :=
  let positional : Except UsageError Progress :=
    if p.found.positionals.length < c.positionals then p.addPositional arg
    else .error (strayArgument c arg p.trailing)
  if p.trailing then positional
  else if arg == "--" then .ok { p with trailing := true }
  else match longOption? arg with
    | some (name, attached) => readLong c name attached p
    | none => match shortOption? arg with
      | some letter => readShort letter p
      | none => match p.pending with
        | some (o, none) => .ok { p with pending := some (o, some arg) }
        | _ => positional

/-- Checks what a command got, with or without a command below it. -/
def conclude (c : CommandSyntax) (p : Progress) (inner : Option Matches) :
    Except UsageError Matches := do
  let p ← p.resolve
  match inner with
  | some m => return p.found.append m
  | none =>
    if !c.children.isEmpty then
      .error (if p.isEmpty then .helpForMissing else .missingCommand)
    else if p.found.positionals.length < c.required then .error .missingArgument
    else return p.found

/-- Reads the arguments of a command. -/
def read (c : CommandSyntax) (args : List String) (p : Progress) : Except UsageError Matches :=
  match args with
  | [] => conclude c p none
  | arg :: rest =>
    let below := if p.trailing || p.awaitsValue then none else c.child? arg
    match below with
    | some d => do
      let inner ← read d rest {}
      conclude c p (some { inner with commands := arg :: inner.commands })
    | none =>
      if arg == "help" && !p.trailing && !p.awaitsValue && !c.children.isEmpty then
        .error (helpOn c rest)
      else do
        let p ← readArgument c arg p
        read c rest p

end AgentGovernance.Cli
