-- SUMMARY: The settings of a workspace with their defaults, their faults and their documents.
import AgentGovernance.Remediation.Engine
import AgentGovernance.Toml.Printer

/-!
# Settings

Everything about a workspace that can be configured. Settings can be well formed and still make no
sense: a bound of zero, an empty name, two validators with one id. `Settings.faults` lists what is
wrong, in a fixed order.
-/

namespace AgentGovernance

/-- Where descriptors live. -/
structure DescriptorSettings where
  /-- Relative paths start at the workspace. -/
  path : Path := ⟨"agents"⟩
  deriving DecidableEq, Repr, Inhabited

/-- How sessions are kept. -/
structure SessionSettings where
  /-- None for the state directory of the workspace below that of the user. -/
  stateDir : Option Path := none
  historyLimit : Nat := defaultHistoryLimit
  deriving DecidableEq, Repr, Inhabited

/-- What is blocked for every agent. -/
structure ScopeSettings where
  globallyBlocked : List String := defaultGlobalBlocks
  deriving DecidableEq, Repr, Inhabited

/-- How audits are run. Times are in milliseconds. -/
structure AuditSettings where
  highThreshold : Nat := 3
  validatorTimeout : Nat := 30000
  /-- The action that whoever asks for an audit has to be allowed. -/
  requiredAction : String := defaultAuditAction
  validators : List CommandValidator := []
  compoundRules : List CompoundRule := []
  deriving DecidableEq, Repr, Inhabited

/-- How findings are fixed. -/
structure RemediationSettings where
  strategies : List CommandStrategy := []
  attemptTimeout : Nat := defaultAttemptTimeout
  deriving DecidableEq, Repr, Inhabited

/-- What is logged, how and where. -/
structure LogSettings where
  enabled : Bool := true
  level : String := "info"
  format : String := "text"
  output : String := "file"
  file : Option Path := none
  /-- Whether terminals get colours. Files never do. -/
  color : Bool := true
  /-- Levels of single targets. -/
  modules : List (String × String) := []
  deriving DecidableEq, Repr, Inhabited

/-- All settings of a workspace. -/
structure Settings where
  descriptors : DescriptorSettings := {}
  session : SessionSettings := {}
  scope : ScopeSettings := {}
  audit : AuditSettings := {}
  remediation : RemediationSettings := {}
  logging : LogSettings := {}
  deriving DecidableEq, Repr, Inhabited

namespace Settings

/-! ## Faults -/

/-- Whether a text holds blanks only. -/
def isBlankText (s : String) : Bool := (Text.trim s).isEmpty

/-- The faults of named programs. `seen` holds the names that were met before. A program without a
name or a command is incomplete and its name does not count. -/
def programFaults (incomplete : SettingsFault) (repeated : String → SettingsFault)
    (seen : List String) : List (String × String) → List SettingsFault
  | [] => []
  | (name, command) :: rest =>
    if isBlankText name || isBlankText command then
      incomplete :: programFaults incomplete repeated seen rest
    else if seen.contains name then repeated name :: programFaults incomplete repeated seen rest
    else programFaults incomplete repeated (name :: seen) rest

/-- A fault if a condition holds. -/
def faultIf (wrong : Bool) (fault : SettingsFault) : List SettingsFault :=
  if wrong then [fault] else []

/-- Everything that is wrong with the settings. -/
def faults (s : Settings) : List SettingsFault :=
  faultIf (s.session.historyLimit == 0) .noHistory ++
  faultIf (s.audit.validatorTimeout == 0) .noValidatorTime ++
  faultIf (s.remediation.attemptTimeout == 0) .noAttemptTime ++
  faultIf (isBlankText s.audit.requiredAction) .noRequiredAction ++
  programFaults .incompleteValidator .repeatedValidator []
    (s.audit.validators.map fun v => (v.id, v.command)) ++
  (s.audit.compoundRules.filterMap CompoundRule.fault?).map .rule ++
  programFaults .incompleteStrategy .repeatedStrategy []
    (s.remediation.strategies.map fun c => (c.name, c.command))

/-- Accepts settings without faults. -/
def validate (s : Settings) : Except GovernanceError Unit :=
  if s.faults.isEmpty then .ok () else .error (.configuration (.settings s.faults))

/-! ## JSON -/

def toJson (s : Settings) : Json :=
  .object
    [("descriptors", .object [("path", s.descriptors.path.toJson)]),
     ("session", .object
       [("state_dir", .optional Path.toJson s.session.stateDir),
        ("history_limit", .nat s.session.historyLimit)]),
     ("scope", .object [("globally_blocked", .strings s.scope.globallyBlocked)]),
     ("audit", .object
       [("high_threshold", .nat s.audit.highThreshold),
        ("validator_timeout_ms", .nat s.audit.validatorTimeout),
        ("required_action", .string s.audit.requiredAction),
        ("validators", .list CommandValidator.toJson s.audit.validators),
        ("compound_rules", .list CompoundRule.toJson s.audit.compoundRules)]),
     ("remediation", .object
       [("strategies", .list CommandStrategy.toJson s.remediation.strategies),
        ("attempt_timeout_ms", .nat s.remediation.attemptTimeout)]),
     ("logging", .object
       [("enabled", .bool s.logging.enabled), ("level", .string s.logging.level),
        ("format", .string s.logging.format), ("output", .string s.logging.output),
        ("file", .optional Path.toJson s.logging.file), ("color", .bool s.logging.color),
        ("modules", .object (s.logging.modules.map fun (k, v) => (k, .string v)))])]

/-! ## TOML -/

mutual

/-- A JSON value as a TOML value. What is `null` is left out. -/
def toToml : Json → Toml
  | .bool b => .bool b
  | .integer n => .integer n
  | .string s => .string s
  | .array items => .array (toTomlItems items)
  | .object fields => .table (toTomlEntries fields)
  | _ => .string ""

/-- The items of an array. -/
def toTomlItems : List Json → List Toml
  | [] => []
  | j :: js => toToml j :: toTomlItems js

/-- The entries of a table. -/
def toTomlEntries : List (String × Json) → List (String × Toml)
  | [] => []
  | (k, j) :: rest => match j with
    | .null => toTomlEntries rest
    | _ => (k, toToml j) :: toTomlEntries rest

end

/-- The numbers among the settings. -/
def numbers (s : Settings) : List Nat :=
  [s.session.historyLimit, s.audit.highThreshold, s.audit.validatorTimeout,
   s.remediation.attemptTimeout]

/-- The settings as a TOML document. Its integers have a sign and 64 bits, so the largest numbers
cannot be written. -/
def render (s : Settings) : Except GovernanceError String :=
  if s.numbers.all fun n => n < Nat.pow 2 63 then
    match toToml s.toJson with
    | .table entries => .ok (Toml.render entries)
    | _ => .ok ""
  else .error (.configuration (.unprintable "out-of-range value for u64 type"))

end Settings

end AgentGovernance
