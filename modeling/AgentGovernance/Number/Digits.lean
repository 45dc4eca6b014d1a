-- SUMMARY: Digits: stretches of decimal digits, and the numbers that decimal and other digits spell.

/-!
# Digits

The leaves of every reader of numbers.
-/

namespace AgentGovernance

/-- The number that a list of decimal digits spells. -/
def digitsValue (ds : List Char) : Nat :=
  ds.foldl (fun n d => 10 * n + (d.toNat - 0x30)) 0

/-- The digits at the start of a text and the rest of it. -/
def spanDigits (cs : List Char) : List Char × List Char :=
  (cs.takeWhile Char.isDigit, cs.dropWhile Char.isDigit)

/-- The value of a digit of a base up to sixteen, letters in either case. -/
def hexValue? (c : Char) : Option Nat :=
  if c.isDigit then some (c.toNat - 0x30)
  else if 'a' ≤ c && c ≤ 'f' then some (c.toNat - 0x57)
  else if 'A' ≤ c && c ≤ 'F' then some (c.toNat - 0x37)
  else none

/-- The number that exactly `n` hexadecimal digits at the start of a text spell. -/
def hexNumber? (n : Nat) (cs : List Char) : Option Nat :=
  let digits := cs.take n
  if digits.length == n then
    digits.foldlM (fun v c => (hexValue? c).map fun d => 16 * v + d) 0
  else none

/-- A number with leading zeros up to a width. -/
def padded (width n : Nat) : String :=
  let digits := toString n
  String.ofList (List.replicate (width - digits.length) '0') ++ digits

/-- A sign at the start of a text: whether it is a minus, and the rest. -/
def leadingSign : List Char → Bool × List Char
  | '-' :: rest => (true, rest)
  | '+' :: rest => (false, rest)
  | rest => (false, rest)

/-- The integer of a text that holds decimal digits and at most a sign. -/
def integer? (text : String) : Option Int :=
  let (minus, ds) := leadingSign text.toList
  if ds.isEmpty || !ds.all Char.isDigit then none
  else
    let n : Int := digitsValue ds
    some (if minus then -n else n)

end AgentGovernance
