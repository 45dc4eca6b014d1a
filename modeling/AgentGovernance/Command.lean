-- SUMMARY: External commands: what is called, how it may end, and how long it may take.
import AgentGovernance.Act
import AgentGovernance.Text.Blank
import AgentGovernance.Text.Lossy

/-!
# External commands

Validators and fix strategies may be programs of their own. The library does not say how a program
is run; it takes a runner that does so and reports how the program ended.
-/

namespace AgentGovernance

/-- What came of something that had a limited time. -/
inductive Timed (α : Type) where
  | inTime (value : α)
  | late
  /-- It broke down; the reason says how. -/
  | aborted (reason : String)
  deriving Repr

/-- A call of a program. -/
structure CommandCall where
  program : String
  args : List String := []
  directory : Path
  /-- Variables of the environment besides those that are inherited. -/
  environment : List (String × String) := []
  deriving DecidableEq, Repr

/-- How a call ended. -/
inductive CommandEnd where
  | notStarted (cause : FileError)
  | finished (status : ExitStatus) (stdout stderr : ByteArray)

/-- Something that runs programs with a limit in milliseconds. -/
abbrev CommandRunner (σ : Type) := CommandCall → (limit : Nat) → Act σ (Timed CommandEnd)

/-- What a program that failed wrote for people to read. -/
def complaint (stderr : ByteArray) : String := Text.trim (Text.decodeLossy stderr)

end AgentGovernance
