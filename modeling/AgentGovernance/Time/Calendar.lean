-- SUMMARY: The proleptic Gregorian calendar: days since 1970 and their year, month and day.

/-!
# Calendar

Days are counted from the first of January 1970. The calendar repeats every 400 years, so both
conversions work inside one such era. Years start in March there, which puts the leap day last.
-/

namespace AgentGovernance

/-- A day of the Gregorian calendar, continued in both directions. -/
structure Date where
  year : Int
  month : Nat
  day : Nat
  deriving DecidableEq, Repr, Inhabited

namespace Date

def isLeapYear (y : Int) : Bool := (y % 4 == 0 && y % 100 != 0) || y % 400 == 0

def daysInMonth (y : Int) (m : Nat) : Nat :=
  if m == 2 then (if isLeapYear y then 29 else 28)
  else if m == 4 || m == 6 || m == 9 || m == 11 then 30
  else 31

/-- Whether the calendar has this day. -/
def isValid (d : Date) : Bool :=
  1 ≤ d.month && d.month ≤ 12 && 1 ≤ d.day && d.day ≤ daysInMonth d.year d.month

/-- Days in 400 years. -/
def daysPerEra : Int := 146097

/-- Days from the first of March of the year zero to the first of January 1970. -/
def epochShift : Int := 719468

/-- The year within its era, of the day `doe` of the era. -/
def yearOfEra (doe : Nat) : Nat :=
  (doe - doe / 1460 + doe / 36524 - doe / 146096) / 365

/-- Days of an era before the year `yoe` of it. -/
def daysBeforeYear (yoe : Nat) : Nat := 365 * yoe + yoe / 4 - yoe / 100

/-- Days of a year that starts in March before the month `mp` of it. -/
def daysBeforeMonth (mp : Nat) : Nat := (153 * mp + 2) / 5

/-- The date of a day. -/
def ofDays (days : Int) : Date :=
  let shifted := days + epochShift
  let era := shifted / daysPerEra
  let doe := (shifted % daysPerEra).toNat
  let yoe := yearOfEra doe
  let doy := doe - daysBeforeYear yoe
  let mp := (5 * doy + 2) / 153
  let month := if mp < 10 then mp + 3 else mp - 9
  { year := yoe + era * 400 + (if month ≤ 2 then 1 else 0)
    month
    day := doy - daysBeforeMonth mp + 1 }

/-- The day of a date. -/
def toDays (d : Date) : Int :=
  let y := if d.month ≤ 2 then d.year - 1 else d.year
  let era := y / 400
  let yoe := (y % 400).toNat
  let mp := if d.month ≤ 2 then d.month + 9 else d.month - 3
  let doe := daysBeforeYear yoe + (daysBeforeMonth mp + (d.day - 1))
  era * daysPerEra + doe - epochShift

end Date

end AgentGovernance
