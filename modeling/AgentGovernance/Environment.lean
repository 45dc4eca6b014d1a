-- SUMMARY: The variables that a process is started with.

/-!
# Environments
-/

namespace AgentGovernance

/-- Variables by name. -/
abbrev Environment := List (String × String)

namespace Environment

/-- The value of a variable. -/
def get? (env : Environment) (name : String) : Option String := env.lookup name

/-- The value of a variable that is set to a text other than the empty one. -/
def filled? (env : Environment) (name : String) : Option String :=
  (env.get? name).filter fun v => !v.isEmpty

end Environment

end AgentGovernance
