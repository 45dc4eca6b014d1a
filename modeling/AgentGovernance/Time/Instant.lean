-- SUMMARY: Instants with nanoseconds, their order, and their UTC date and time of day.
import AgentGovernance.Time.Calendar

/-!
# Instants

An instant is a second since 1970 in UTC and nanoseconds within it. A leap second belongs to the
second before it: its nanoseconds start at one billion.
-/

namespace AgentGovernance

/-- A point in time. -/
structure Instant where
  seconds : Int
  nanos : Nat
  deriving DecidableEq, Repr, Inhabited

/-- Hour, minute and second of a day. The second is 60 in a leap second. -/
structure TimeOfDay where
  hour : Nat
  minute : Nat
  second : Nat
  nanos : Nat
  deriving DecidableEq, Repr

namespace Instant

def secondsPerDay : Int := 86400

/-- The instant some seconds later. -/
def addSeconds (t : Instant) (n : Int) : Instant := { t with seconds := t.seconds + n }

/-- Whether one instant is not later than another. -/
def le (a b : Instant) : Bool :=
  a.seconds < b.seconds || (a.seconds == b.seconds && a.nanos ≤ b.nanos)

/-- The UTC date. -/
def date (t : Instant) : Date := Date.ofDays (t.seconds / secondsPerDay)

/-- The UTC time of day. -/
def time (t : Instant) : TimeOfDay :=
  let s := (t.seconds % secondsPerDay).toNat
  { hour := s / 3600
    minute := s % 3600 / 60
    second := s % 60 + t.nanos / 1000000000
    nanos := t.nanos % 1000000000 }

end Instant

end AgentGovernance
