-- SUMMARY: Instants as RFC 3339 texts: writing them, and reading them with the usual liberties.
import AgentGovernance.Number.Digits
import AgentGovernance.Text.Blank
import AgentGovernance.Time.Instant

/-!
# RFC 3339

Instants are written in UTC with 0, 3, 6 or 9 decimals, as few as the nanoseconds allow. Reading is
more liberal than writing: numbers may be short, blanks may stand between the parts, the date and
the time may be divided by a blank, years outside four digits carry a sign, and the offset may be
written without a colon, as `Z`, as `UTC`, or with the minus sign U+2212.
-/

namespace AgentGovernance

/-! ## Writing -/

/-- A year: four digits, or a sign and at least four digits outside of them. -/
def yearText (y : Int) : String :=
  if 0 ≤ y && y ≤ 9999 then padded 4 y.toNat
  else if y < 0 then "-" ++ padded 4 y.natAbs
  else "+" ++ padded 4 y.toNat

/-- Decimals of a second, in groups of three. -/
def fractionText (nanos : Nat) : String :=
  if nanos == 0 then ""
  else if nanos % 1000000 == 0 then "." ++ padded 3 (nanos / 1000000)
  else if nanos % 1000 == 0 then "." ++ padded 6 (nanos / 1000)
  else "." ++ padded 9 nanos

namespace Instant

/-- Date and time with a given spelling of the UTC offset. -/
def rfc3339With (offset : String) (t : Instant) : String :=
  let d := t.date
  let c := t.time
  yearText d.year ++ "-" ++ padded 2 d.month ++ "-" ++ padded 2 d.day ++ "T" ++
    padded 2 c.hour ++ ":" ++ padded 2 c.minute ++ ":" ++ padded 2 c.second ++
    fractionText c.nanos ++ offset

/-- The text in documents. -/
def rfc3339 (t : Instant) : String := t.rfc3339With "Z"

/-- The text for people. -/
def display (t : Instant) : String := t.rfc3339With "+00:00"

/-- Date and time without punctuation, to the millisecond, as it sorts in file names. -/
def sortable (t : Instant) : String :=
  let d := t.date
  let c := t.time
  yearText d.year ++ padded 2 d.month ++ padded 2 d.day ++ "T" ++
    padded 2 c.hour ++ padded 2 c.minute ++ padded 2 c.second ++ "." ++
    padded 3 (c.nanos / 1000000) ++ "Z"

end Instant

/-! ## Reading -/

namespace Rfc3339

/-- The text without blanks at its start. -/
def skipBlanks (cs : List Char) : List Char := cs.dropWhile Text.isBlank

/-- A number of at least one digit and at most `width` digits, behind blanks. -/
def number (width : Nat) (cs : List Char) : Option (Nat × List Char) :=
  let cs := skipBlanks cs
  let digits := (cs.take width).takeWhile Char.isDigit
  if digits.isEmpty then none
  else some (digits.foldl (fun n d => 10 * n + (d.toNat - 0x30)) 0, cs.drop digits.length)

/-- A year: up to four digits, or a sign and any number of digits. -/
def year (cs : List Char) : Option (Int × List Char) :=
  match skipBlanks cs with
  | '-' :: r => (digitsOnly r).map fun (n, r) => (-(n : Int), r)
  | '+' :: r => (digitsOnly r).map fun (n, r) => ((n : Int), r)
  | cs => (number 4 cs).map fun (n, r) => ((n : Int), r)
where
  /-- Digits without blanks before them. -/
  digitsOnly (cs : List Char) : Option (Nat × List Char) :=
    match cs with
    | c :: _ => if c.isDigit then number cs.length cs else none
    | [] => none

/-- A fixed character behind blanks. -/
def literal (c : Char) (cs : List Char) : Option (List Char) :=
  match skipBlanks cs with
  | d :: r => if d == c then some r else none
  | [] => none

/-- Decimals of a second; digits beyond the ninth are dropped. -/
def fraction (cs : List Char) : Option (Nat × List Char) :=
  match cs with
  | '.' :: r =>
    let digits := (r.take 9).takeWhile Char.isDigit
    if digits.isEmpty then none
    else
      let n := digits.foldl (fun n d => 10 * n + (d.toNat - 0x30)) 0
      some (n * Nat.pow 10 (9 - digits.length), (r.drop digits.length).dropWhile Char.isDigit)
  | r => some (0, r)

/-- Two digits. -/
def twoDigits : List Char → Option (Nat × List Char)
  | a :: b :: r =>
    if a.isDigit && b.isDigit then some (10 * (a.toNat - 0x30) + (b.toNat - 0x30), r) else none
  | _ => none

/-- An offset from UTC in seconds. -/
def offset (cs : List Char) : Option (Int × List Char) :=
  match cs with
  | 'Z' :: r => some (0, r)
  | 'z' :: r => some (0, r)
  | c :: r =>
    if (cs.take 3).map Char.toUpper == ['U', 'T', 'C'] then some (0, cs.drop 3)
    else if c == '+' then signed 1 r
    else if c == '-' || c.toNat == 0x2212 then signed (-1) r
    else none
  | [] => none
where
  /-- Hours and minutes with an optional divider, less than a day in all. -/
  signed (sign : Int) (cs : List Char) : Option (Int × List Char) := do
    let (hours, r) ← twoDigits cs
    let (minutes, r) ← twoDigits (r.dropWhile fun c => c == ':' || Text.isBlank c)
    if 59 < minutes || 23 < hours then none
    else some (sign * (hours * 3600 + minutes * 60 : Nat), r)

/-- Years that the calendar of instants covers. -/
def yearInRange (y : Int) : Bool := -262143 ≤ y && y ≤ 262142

/-- Reads an instant and nothing else. -/
def parse? (text : String) : Option Instant := do
  let (y, r) ← year text.toList
  let r ← literal '-' r
  let (month, r) ← number 2 r
  let r ← literal '-' r
  let (day, r) ← number 2 r
  let r ← match r with
    | c :: r => if c == 'T' || c == 't' || c == ' ' then some r else none
    | [] => none
  let (hour, r) ← number 2 r
  let r ← literal ':' r
  let (minute, r) ← number 2 r
  let r ← literal ':' r
  let (second, r) ← number 2 r
  let (nanos, r) ← fraction r
  let (off, r) ← offset (skipBlanks r)
  if !(skipBlanks r).isEmpty then none
  let date : Date := { year := y, month, day }
  if !(yearInRange y && date.isValid && hour < 24 && minute < 60 && second ≤ 60) then none
  let leap := second == 60
  let secondOfDay : Nat := hour * 3600 + minute * 60 + (if leap then 59 else second)
  let t : Instant :=
    { seconds := date.toDays * Instant.secondsPerDay + secondOfDay - off
      nanos := nanos + (if leap then 1000000000 else 0) }
  if yearInRange t.date.year then some t else none

end Rfc3339

end AgentGovernance
