-- SUMMARY: The shortest decimal that reads back as a given double, written without an exponent.
import AgentGovernance.Number.Double

/-!
# Shortest decimals

Among the decimals that are nearer to a double than to its neighbours, those with the fewest digits
are preferred, and of these the nearest, the greater one at a tie. The text has no exponent: the
digits stand at their places, filled up with zeros.
-/

namespace AgentGovernance.Double

/-- The reals that round to a double, all over one denominator: the double itself in the middle, and
whether the two ends belong to the interval. -/
structure Interval where
  low : Nat
  middle : Nat
  high : Nat
  denominator : Nat
  closed : Bool

/-- The interval of `mantissa · 2^exponent`. Below a power of two the next double is only half as
far away as above it. -/
def intervalOf (mantissa : Nat) (exponent : Int) : Interval :=
  let (scale, denominator) := scaled 1 4 (-exponent)
  let below := if mantissa == Nat.pow 2 52 && minExponent < exponent then 1 else 2
  { low := (4 * mantissa - below) * scale
    middle := 4 * mantissa * scale
    high := (4 * mantissa + 2) * scale
    denominator
    closed := mantissa % 2 == 0 }

/-- Whether `n · 10^place` lies in an interval. -/
def Interval.holds (i : Interval) (n : Nat) (place : Int) : Bool :=
  let (left, right) := if 0 ≤ place then (n * Nat.pow 10 place.toNat * i.denominator, 1)
    else (n * i.denominator, Nat.pow 10 (-place).toNat)
  let low := i.low * right
  let high := i.high * right
  if i.closed then low ≤ left && left ≤ high else low < left && left < high

/-- The digits and the remainder of the middle of an interval, cut off at a place. -/
def Interval.cut (i : Interval) (place : Int) : Nat × Nat × Nat :=
  if 0 ≤ place then
    let step := i.denominator * Nat.pow 10 place.toNat
    (i.middle / step, i.middle % step, step)
  else
    let wide := i.middle * Nat.pow 10 (-place).toNat
    (wide / i.denominator, wide % i.denominator, i.denominator)

/-- Searches the places from `place` downward for a decimal in the interval. -/
def Interval.search (i : Interval) : Nat → Int → Nat × Int
  | 0, place => ((i.cut place).1, place)
  | tries + 1, place =>
    let (n, rest, step) := i.cut place
    match i.holds n place && n != 0, i.holds (n + 1) place with
    | true, true => (if 2 * rest < step then n else n + 1, place)
    | true, false => (n, place)
    | false, true => (n + 1, place)
    | false, false => i.search tries (place - 1)

/-- The digits of a double and the place of the last one: the first decimal of at most seventeen
digits that reads back. -/
def shortest (mantissa : Nat) (exponent : Int) : Nat × Int :=
  let i := intervalOf mantissa exponent
  let whole : Int := digitCount (i.middle / i.denominator)
  let start := if i.denominator ≤ i.middle then whole
    else (digitCount i.middle : Int) - digitCount i.denominator + 1
  i.search 21 start

/-- Digits at their places, without an exponent. -/
def positional (digits : Nat) (place : Int) : String :=
  let ds := Nat.toDigits 10 digits
  if 0 ≤ place then String.ofList (ds ++ List.replicate place.toNat '0')
  else
    let places := (-place).toNat
    let ds := List.replicate (places + 1 - ds.length) '0' ++ ds
    String.ofList (ds.take (ds.length - places) ++ '.' :: ds.drop (ds.length - places))

/-- The text of a double: its shortest decimal, without a point if it is whole. -/
def text : Double → String
  | .nan => "NaN"
  | .infinite negative => if negative then "-inf" else "inf"
  | .finite negative 0 _ => if negative then "-0" else "0"
  | .finite negative m e =>
    let (digits, place) := shortest m e
    (if negative then "-" else "") ++ positional digits place

end AgentGovernance.Double
